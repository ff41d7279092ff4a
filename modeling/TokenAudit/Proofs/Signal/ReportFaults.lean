import TokenAudit.Proofs.Signal.FailedLookup

/-!
# What escapes the gathering of reports

Gathering reports whose whole numbers all have a place among the floating-point numbers ends in a
bundle or in a refusal, with one exception. The holders are asked for the first of them before
anything is known about their shape; a dictionary has none, and neither has a number or an answer of
yes. Such holders are met unless their lookup failed, or the honeypot report was refused before.
-/

set_option autoImplicit false

namespace TokenAudit

/-- The whole numbers in a value are below the overflow bound. -/
inductive Datum.IntegersFit : Datum → Prop
  | null : IntegersFit .null
  | bool (b : Bool) : IntegersFit (.bool b)
  | int {n : Int} (h : n.natAbs < Binary64.overflowBound) : IntegersFit (.int n)
  | float (x : Binary64) : IntegersFit (.float x)
  | text (content : RawText) : IntegersFit (.text content)
  | bytes (bs : List UInt8) : IntegersFit (.bytes bs)
  | list {items : List Datum} (h : ∀ d ∈ items, IntegersFit d) : IntegersFit (.list items)
  | dict {entries : List (String × Datum)} (h : ∀ e ∈ entries, IntegersFit e.2) :
      IntegersFit (.dict entries)

/-- The whole numbers in the reports of the three lookups are below the overflow bound. -/
structure Reports.IntegersFit (r : Reports) : Prop where
  honeypot : r.honeypot.IntegersFit
  holders : r.holders.IntegersFit
  liquidity : r.liquidity.IntegersFit

/-- The value is a dictionary that has a value for the key. -/
def Datum.Has (report : Datum) (key : String) (value : Datum) : Prop :=
  ∃ entries, report = .dict entries ∧ lookup? key entries = some value

/-- Whether a value is of a kind that cannot be asked for its first element. -/
def Datum.lacksFirst : Datum → Bool
  | .bool _ | .int _ | .float _ | .dict _ => true
  | _ => false

/-- The report on holders did not fail, and what it gives for the holders has no first element. -/
def Datum.UnlistedHolders (report : Datum) : Prop :=
  lookupFailed report = false ∧
    ∃ holders, report.Has "holders" holders ∧ holders.isGiven = true ∧ holders.lacksFirst = true

/-- The honeypot report failed, or has the three facts asked of it. -/
def Datum.PassesForHoneypot (report : Datum) : Prop :=
  lookupFailed report = true ∨
    ∀ key ∈ ["isHoneypot", "sellTax", "buyTax"], ∃ value, report.Has key value

/-- A computation on reports ends in a result or in a refusal. -/
def Contained {α : Type} (x : Except ReportFault α) : Prop :=
  (∃ a, x = .ok a) ∨ ∃ e, x = .error (refusal e)

variable {α β : Type} {report d : Datum} {entries : List (String × Datum)} {source key : String}

/-- A result is contained. -/
theorem contained_ok (a : α) : Contained (.ok a : Except ReportFault α) :=
  .inl ⟨a, rfl⟩

/-- So is a refusal. -/
theorem contained_refusal (e : SignalError) :
    Contained (.error (refusal e) : Except ReportFault α) :=
  .inr ⟨e, rfl⟩

/-- A sequence is contained exactly when its first part is, and the second is from whatever the
first reaches. -/
theorem contained_bind_iff {x : Except ReportFault α} {f : α → Except ReportFault β} :
    Contained (x >>= f) ↔ Contained x ∧ ∀ a, x = .ok a → Contained (f a) := by
  cases x with
  | error e => simp [Contained, bind, Except.bind]
  | ok a => simp [Contained, bind, Except.bind]

/-! ## Single values -/

/-- The values of a dictionary fit if the dictionary does. -/
theorem Datum.IntegersFit.of_has (h : report.IntegersFit) (hd : report.Has key d) :
    d.IntegersFit := by
  obtain ⟨entries, rfl, hlookup⟩ := hd
  cases h with
  | dict hall => exact hall _ (Datum.mem_of_lookup? hlookup)

/-- The empty dictionary fits. -/
theorem Datum.IntegersFit.nil : (Datum.dict []).IntegersFit :=
  .dict nofun

/-- One more value that fits leaves it fitting. -/
theorem Datum.IntegersFit.cons (hd : d.IntegersFit) (h : (Datum.dict entries).IntegersFit) :
    (Datum.dict ((key, d) :: entries)).IntegersFit := by
  cases h with
  | dict hall => exact .dict (List.forall_mem_cons.2 ⟨hd, hall⟩)

/-- The amount of a value that fits is not too large. -/
theorem Datum.IntegersFit.amount_ne_tooLarge (h : d.IntegersFit) :
    d.amount ≠ .error .tooLarge := by
  intro hamount
  obtain ⟨n, rfl, hle⟩ := Datum.amount_eq_tooLarge_iff.1 hamount
  cases h with
  | int hlt => omega

/-- What is needed of a report is what it has under the key. -/
theorem need_eq_ok_iff : need source report key = .ok d ↔ report.Has key d := by
  unfold need Datum.Has
  cases report with
  | dict entries =>
    cases hlookup : Datum.lookup? key entries with
    | none => simp [hlookup]
    | some value => simp [hlookup]
  | _ => simp

/-- Asking for it ends in the value or in a refusal. -/
theorem contained_need (source : String) (report : Datum) (key : String) :
    Contained (need source report key) := by
  unfold need
  split
  · split
    · exact contained_ok _
    · exact contained_refusal _
  · exact contained_refusal _

/-- A value that is no percentage is replaced by one, so that a percentage is always reached. -/
theorem exists_percentageOr (h : (Datum.dict entries).IntegersFit) (key : String) :
    ∃ d, percentageOr (Datum.lookup? key entries) = .ok d ∧ d.IntegersFit := by
  have hfit : ((Datum.lookup? key entries).getD .null).IntegersFit := by
    cases hlookup : Datum.lookup? key entries with
    | none => exact .null
    | some d => exact h.of_has ⟨entries, rfl, hlookup⟩
  unfold percentageOr
  simp only
  split
  · exact ⟨_, rfl, hfit⟩
  · next hlarge => exact absurd hlarge hfit.amount_ne_tooLarge
  · exact ⟨_, rfl, .text _⟩

/-- A report has entries to read exactly when it is a dictionary and did not fail. -/
theorem succeeded?_eq_some_iff :
    succeeded? report = some entries ↔ report = .dict entries ∧ lookupFailed report = false := by
  cases report with
  | dict found =>
    simp only [succeeded?, lookupFailed, reportsError, Datum.dict.injEq]
    cases Datum.lookup? "status" found with
    | none => simp
    | some status =>
      cases status with
      | text status => by_cases h : status = "error" <;> simp [h]
      | _ => simp
  | _ => simp [succeeded?]

/-- A report that did not fail is a dictionary, whose entries count. -/
theorem exists_succeeded (h : lookupFailed report = false) :
    ∃ entries, report = .dict entries ∧ succeeded? report = some entries := by
  obtain ⟨entries, hentries⟩ : ∃ entries, succeeded? report = some entries := by
    rw [← Option.ne_none_iff_exists', Ne, succeeded?_eq_none_iff, h]
    simp
  exact ⟨entries, (succeeded?_eq_some_iff.1 hentries).1, hentries⟩

/-- A value is given under a key exactly when it is there and counts as given. -/
theorem given?_eq_some_iff :
    given? entries key = some d ↔ Datum.lookup? key entries = some d ∧ d.isGiven = true := by
  simp [given?, Option.filter_eq_some_iff]

/-! ## The report on a honeypot -/

/-- A failed honeypot report that fits gives facts that fit. -/
theorem exists_honeypotFacts_of_failed (h : report.IntegersFit)
    (hfailed : lookupFailed report = true) : ∃ facts, honeypotFacts report = .ok facts ∧
      facts.sellTax.IntegersFit ∧ facts.buyTax.IntegersFit := by
  unfold honeypotFacts
  rw [succeeded?_eq_none_iff.2 hfailed]
  simp only
  split
  · obtain ⟨sellTax, hsell, hsellFit⟩ := exists_percentageOr h "sellTax"
    obtain ⟨buyTax, hbuy, hbuyFit⟩ := exists_percentageOr h "buyTax"
    rw [hsell, hbuy]
    exact ⟨_, rfl, hsellFit, hbuyFit⟩
  · exact ⟨_, rfl, .text _, .text _⟩

/-- A honeypot report that did not fail gives what it has under the keys. -/
theorem honeypotFacts_eq_ok_iff {facts : HoneypotFacts} (h : succeeded? report = some entries) :
    honeypotFacts report = .ok facts ↔
      report.Has "isHoneypot" facts.honeypot ∧ report.Has "sellTax" facts.sellTax ∧
        report.Has "buyTax" facts.buyTax ∧
        (given? entries "warnings").getD (.list []) = facts.warnings := by
  unfold honeypotFacts
  rw [h]
  simp only [bind_eq_ok_iff, need_eq_ok_iff]
  constructor
  · rintro ⟨honeypot, h1, sellTax, h2, buyTax, h3, hfacts⟩
    cases hfacts
    exact ⟨h1, h2, h3, rfl⟩
  · rintro ⟨h1, h2, h3, hwarnings⟩
    refine ⟨_, h1, _, h2, _, h3, ?_⟩
    rw [hwarnings]
    rfl

/-- A honeypot report that gives its facts failed, or has those asked of it. -/
theorem passesForHoneypot_of_honeypotFacts {facts : HoneypotFacts}
    (h : honeypotFacts report = .ok facts) : report.PassesForHoneypot := by
  cases hfailed : lookupFailed report with
  | true => exact .inl hfailed
  | false =>
    obtain ⟨entries, -, hentries⟩ := exists_succeeded hfailed
    obtain ⟨hhoneypot, hsell, hbuy, -⟩ := (honeypotFacts_eq_ok_iff hentries).1 h
    right
    simp only [List.forall_mem_cons]
    exact ⟨⟨_, hhoneypot⟩, ⟨_, hsell⟩, ⟨_, hbuy⟩, nofun⟩

/-- The honeypot report gives its facts exactly when it failed, or has those asked of it. -/
theorem exists_honeypotFacts_iff (h : report.IntegersFit) :
    (∃ facts, honeypotFacts report = .ok facts) ↔ report.PassesForHoneypot := by
  constructor
  · rintro ⟨facts, hfacts⟩
    exact passesForHoneypot_of_honeypotFacts hfacts
  · intro hpasses
    cases hfailed : lookupFailed report with
    | true =>
      obtain ⟨facts, hfacts, -⟩ := exists_honeypotFacts_of_failed h hfailed
      exact ⟨facts, hfacts⟩
    | false =>
      obtain ⟨entries, -, hentries⟩ := exists_succeeded hfailed
      have hall := hpasses.resolve_left (Bool.eq_false_iff.1 hfailed)
      simp only [List.forall_mem_cons] at hall
      obtain ⟨⟨honeypot, h1⟩, ⟨sellTax, h2⟩, ⟨buyTax, h3⟩, -⟩ := hall
      exact ⟨⟨honeypot, sellTax, buyTax, _⟩, (honeypotFacts_eq_ok_iff hentries).2 ⟨h1, h2, h3, rfl⟩⟩

/-- A honeypot report that fits gives facts or is refused. -/
theorem contained_honeypotFacts (h : report.IntegersFit) : Contained (honeypotFacts report) := by
  cases hfailed : lookupFailed report with
  | true =>
    obtain ⟨facts, hfacts, -⟩ := exists_honeypotFacts_of_failed h hfailed
    exact .inl ⟨facts, hfacts⟩
  | false =>
    obtain ⟨entries, -, hentries⟩ := exists_succeeded hfailed
    unfold honeypotFacts
    rw [hentries]
    simp only [contained_bind_iff, contained_need, true_and]
    intro _ _ _ _ _ _
    exact contained_ok _

/-- The taxes that it gives fit. -/
theorem integersFit_of_honeypotFacts {facts : HoneypotFacts} (h : report.IntegersFit)
    (hfacts : honeypotFacts report = .ok facts) :
    facts.sellTax.IntegersFit ∧ facts.buyTax.IntegersFit := by
  cases hfailed : lookupFailed report with
  | true =>
    obtain ⟨found, hfound, hfit⟩ := exists_honeypotFacts_of_failed h hfailed
    rw [hfound] at hfacts
    cases hfacts
    exact hfit
  | false =>
    obtain ⟨entries, -, hentries⟩ := exists_succeeded hfailed
    obtain ⟨-, hsell, hbuy, -⟩ := (honeypotFacts_eq_ok_iff hentries).1 hfacts
    exact ⟨h.of_has hsell, h.of_has hbuy⟩

/-! ## The report on holders -/

/-- The first of the holders that are given is found or refused exactly when they are of a kind that
has one. -/
theorem contained_firstHolder_iff (hgiven : d.isGiven = true) :
    Contained (firstHolder d) ↔ d.lacksFirst = false := by
  cases d with
  | list items =>
    cases items with
    | nil => cases hgiven
    | cons first items => simp [firstHolder, Datum.lacksFirst, contained_ok]
  | null => cases hgiven
  | _ => simp [firstHolder, Datum.lacksFirst, Contained, refusal]

/-- The first of holders that fit fits. -/
theorem integersFit_of_firstHolder {holders : Datum} (h : holders.IntegersFit)
    (hd : firstHolder holders = .ok d) : d.IntegersFit := by
  unfold firstHolder at hd
  split at hd
  · cases hd
    cases h with
    | list hall => exact hall _ List.mem_cons_self
  · cases hd
    exact .null
  · cases hd
    exact .null
  · cases hd
    exact .null
  · cases hd
  · cases hd

/-- The share of the top holder is reached or refused exactly when the holders, if given, can be
asked for the first of them. -/
theorem contained_topHolderFact_iff :
    Contained (topHolderFact report) ↔ ¬ report.UnlistedHolders := by
  cases hfailed : lookupFailed report with
  | true =>
    rw [topHolderFact_of_failed hfailed]
    simp [contained_ok, Datum.UnlistedHolders, hfailed]
  | false =>
    obtain ⟨entries, rfl, hentries⟩ := exists_succeeded hfailed
    have hunlisted : (Datum.dict entries).UnlistedHolders ↔
        ∃ holders, given? entries "holders" = some holders ∧ holders.lacksFirst = true := by
      simp [Datum.UnlistedHolders, Datum.Has, hfailed, given?_eq_some_iff, and_assoc]
    rw [hunlisted]
    unfold topHolderFact
    rw [hentries]
    simp only
    cases hgiven : given? entries "holders" with
    | none => simp [contained_ok]
    | some holders =>
      have hfirst := contained_firstHolder_iff (given?_eq_some_iff.1 hgiven).2
      simp [contained_bind_iff, contained_need, hfirst]

/-- So does the share that a report on holders gives. -/
theorem integersFit_of_topHolderFact (h : report.IntegersFit)
    (hd : topHolderFact report = .ok d) : d.IntegersFit := by
  unfold topHolderFact at hd
  split at hd
  · next entries hentries =>
    split at hd
    · next holders hgiven =>
      have hreport := (succeeded?_eq_some_iff.1 hentries).1
      have hholders := h.of_has ⟨entries, hreport, (given?_eq_some_iff.1 hgiven).1⟩
      obtain ⟨first, hfirst, hd⟩ := bind_eq_ok_iff.1 hd
      exact (integersFit_of_firstHolder hholders hfirst).of_has (need_eq_ok_iff.1 hd)
    · cases hd
      exact .text _
  · cases hd
    exact .text _

/-! ## The report on liquidity and the answer on verification -/

/-- A report on liquidity gives facts or is refused. -/
theorem contained_liquidityFacts (report : Datum) : Contained (liquidityFacts report) := by
  unfold liquidityFacts
  split
  · simp only [contained_bind_iff, contained_need, true_and]
    intro _ _ _ _
    exact contained_ok _
  · exact contained_ok _

/-- The share that it gives fits. -/
theorem integersFit_of_liquidityFacts {locked share : Datum} (h : report.IntegersFit)
    (hfacts : liquidityFacts report = .ok (locked, share)) : share.IntegersFit := by
  unfold liquidityFacts at hfacts
  split at hfacts
  · next entries hentries =>
    obtain ⟨_, -, hfacts⟩ := bind_eq_ok_iff.1 hfacts
    obtain ⟨_, hshare, hfacts⟩ := bind_eq_ok_iff.1 hfacts
    cases hfacts
    have hinfo : ((Datum.lookup? "liquidity" entries).getD report).IntegersFit := by
      cases hlookup : Datum.lookup? "liquidity" entries with
      | none => exact h
      | some info => exact h.of_has ⟨entries, (succeeded?_eq_some_iff.1 hentries).1, hlookup⟩
    exact hinfo.of_has (need_eq_ok_iff.1 hshare)
  · cases hfacts
    exact .text _

/-- An answer on verification gives a fact or is refused. -/
theorem contained_verifiedFact (answer : Datum) : Contained (verifiedFact answer) := by
  unfold verifiedFact
  split
  · exact contained_ok _
  · exact contained_ok _
  · exact contained_refusal _

/-! ## The bundle -/

/-- Facts whose percentages fit make a bundle or are refused. -/
theorem contained_ofSource (facts : Reports.Facts)
    (hfit : ∀ field ∈ SignalField.percentages, (facts.value field).IntegersFit) :
    Contained ((Signals.ofSource facts.source).mapError .signal) := by
  cases hsource : Signals.ofSource facts.source with
  | ok s => exact contained_ok s
  | error fault =>
    cases fault with
    | refused e => exact contained_refusal e
    | tooLarge =>
      exfalso
      obtain ⟨field, hfield, hlarge⟩ := Signals.ofSource_eq_tooLarge_iff.1 hsource
      obtain ⟨f, hf, hamount⟩ := holdsTooLarge_iff.1 hlarge
      cases hf
      exact (hfit field hfield).amount_ne_tooLarge hamount

/-- Gathering reports whose whole numbers fit gives a bundle or a refusal exactly when it does not
come to holders that have no first one. -/
theorem signals_ok_or_refused_iff {r : Reports} (h : r.IntegersFit) :
    ((∃ s, r.signals = .ok s) ∨ ∃ e, r.signals = .error (refusal e)) ↔
      ¬ (r.honeypot.PassesForHoneypot ∧ r.holders.UnlistedHolders) := by
  change Contained r.signals ↔ _
  unfold Reports.signals
  simp only [contained_bind_iff]
  constructor
  · rintro ⟨-, hnext⟩ ⟨hpasses, hunlisted⟩
    obtain ⟨facts, hfacts⟩ := (exists_honeypotFacts_iff h.honeypot).2 hpasses
    exact contained_topHolderFact_iff.1 (hnext facts hfacts).1 hunlisted
  · intro hlisted
    refine ⟨contained_honeypotFacts h.honeypot, fun honeypot hhoneypot => ⟨?_, ?_⟩⟩
    · rw [contained_topHolderFact_iff]
      intro hunlisted
      exact hlisted ⟨(exists_honeypotFacts_iff h.honeypot).1 ⟨honeypot, hhoneypot⟩, hunlisted⟩
    · intro topHolder htop
      refine ⟨contained_liquidityFacts _, ?_⟩
      rintro ⟨locked, share⟩ hliquidity
      refine ⟨contained_verifiedFact _, ?_⟩
      intro verified _
      obtain ⟨hsell, hbuy⟩ := integersFit_of_honeypotFacts h.honeypot hhoneypot
      have htopFit := integersFit_of_topHolderFact h.holders htop
      have hshare := integersFit_of_liquidityFacts h.liquidity hliquidity
      apply contained_ofSource ⟨honeypot, topHolder, locked, share, verified⟩
      simp [SignalField.percentages, Reports.Facts.value, hsell, hbuy, htopFit, hshare]

/-- Reports of which the first has a tax of `10 ^ 200` and the second a text for the holders. -/
def wordForHolders : Reports where
  honeypot := .dict [("isHoneypot", .bool false), ("sellTax", .int (10 ^ 200)), ("buyTax", .null)]
  holders := .dict [("holders", .text "none")]
  liquidity := .list []
  verified := .null

/-- The numbers in these reports fit. -/
theorem wordForHolders_integersFit : wordForHolders.IntegersFit where
  honeypot := by
    have hhuge : (10 ^ 200 : Int).natAbs < Binary64.overflowBound := by decide +kernel
    exact .cons (.bool _) (.cons (.int hhuge) (.cons .null .nil))
  holders := .cons (.text _) .nil
  liquidity := .list nofun

/-- A text has a first character, which is refused as an entry. -/
theorem signals_ok_or_refused_iff_wordForHolders :
    wordForHolders.IntegersFit ∧
      ((∃ s, wordForHolders.signals = .ok s) ∨
        ∃ e, wordForHolders.signals = .error (refusal e)) := by
  refine ⟨wordForHolders_integersFit, (signals_ok_or_refused_iff wordForHolders_integersFit).2 ?_⟩
  rintro ⟨-, -, holders, ⟨entries, hentries, hlookup⟩, -, hlacks⟩
  cases hentries
  cases hlookup
  cases hlacks

/-- Reports in order but for the holders, which are a dictionary. -/
def mappedHolders : Reports where
  honeypot := .dict [("isHoneypot", .bool false), ("sellTax", .text "1%"), ("buyTax", .text "1%")]
  holders := .dict [("holders", .dict [("a", .int 1)])]
  liquidity := .dict [("liquidityLocked", .bool true), ("lockPercentage", .text "90%")]
  verified := .bool true

/-- The numbers in these reports fit. -/
theorem mappedHolders_integersFit : mappedHolders.IntegersFit where
  honeypot := .cons (.bool _) (.cons (.text _) (.cons (.text _) .nil))
  holders := by
    have hone : (1 : Int).natAbs < Binary64.overflowBound := by decide +kernel
    exact .cons (.cons (.int hone) .nil) .nil
  liquidity := .cons (.bool _) (.cons (.text _) .nil)

/-- Where the holders are a dictionary, there is neither a bundle nor a refusal. -/
theorem mappedHolders_escape :
    mappedHolders.IntegersFit ∧ mappedHolders.signals = .error .noFirstKey ∧
      ¬ ((∃ s, mappedHolders.signals = .ok s) ∨
        ∃ e, mappedHolders.signals = .error (refusal e)) := by
  have hsignals : mappedHolders.signals = .error .noFirstKey := rfl
  refine ⟨mappedHolders_integersFit, hsignals, ?_⟩
  rw [hsignals]
  simp [refusal]

end TokenAudit
