import TokenAudit.Proofs.Signal.ReportFaults

/-!
# Facts that reports lack

A report whose lookup did not fail must hold the facts asked of it. Where one is missing there is no
bundle: the reports are refused, and the refusal names a missing fact, unless what stands before it
ends the gathering without a refusal. Only the list of holders may be missing, and then it counts as
an empty one: its holders own nothing.
-/

set_option autoImplicit false

namespace TokenAudit

/-- The facts that reports must hold: three of a honeypot, the holders and the share of the first of
them, two of the liquidity. -/
inductive RequiredFact where
  | honeypot
  | sellTax
  | buyTax
  | holders
  | firstShare
  | liquidityLocked
  | lockShare
  deriving DecidableEq

namespace RequiredFact

/-- The report that must hold a fact, as refusals name it. -/
def source : RequiredFact → String
  | honeypot | sellTax | buyTax => "honeypot"
  | holders | firstShare => "holders"
  | liquidityLocked | lockShare => "liquidity"

/-- The key of a fact. -/
def key : RequiredFact → String
  | honeypot => "isHoneypot"
  | sellTax => "sellTax"
  | buyTax => "buyTax"
  | holders => "holders"
  | firstShare => "percentage"
  | liquidityLocked => "liquidityLocked"
  | lockShare => "lockPercentage"

/-- The fault of reports that lack a fact. -/
def gap (fact : RequiredFact) : ReportFault :=
  refusal (.reportGap fact.source fact.key)

end RequiredFact

/-! ## What a report lacks -/

namespace Datum

/-- The value has nothing under the key; only a dictionary has anything under a key. -/
def Lacks (d : Datum) (key : String) : Prop :=
  ∀ value, ¬ d.Has key value

/-- The honeypot report did not fail and lacks a fact. -/
structure LacksHoneypotFact (report : Datum) (fact : RequiredFact) : Prop where
  source : fact.source = "honeypot"
  succeeded : lookupFailed report = false
  lacks : report.Lacks fact.key

/-- The holders are not empty and the first of them has no share. The elements of a text or of a
byte string have nothing under any key. -/
inductive LacksFirstShare : Datum → Prop
  | list {first : Datum} {others : List Datum} (lacks : first.Lacks "percentage") :
      LacksFirstShare (.list (first :: others))
  | text {content : RawText} (nonempty : content.isEmpty = false) : LacksFirstShare (.text content)
  | bytes {bs : List UInt8} (nonempty : bs.isEmpty = false) : LacksFirstShare (.bytes bs)

/-- The report on holders did not fail, and the first of its holders has no share. -/
def LacksHolderFact (report : Datum) : Prop :=
  lookupFailed report = false ∧ ∃ holders, report.Has "holders" holders ∧ holders.LacksFirstShare

/-- The facts on liquidity stand in the value: under a key of their own, or in the report itself. -/
def HasLiquidity (report info : Datum) : Prop :=
  report.Has "liquidity" info ∨ report.Lacks "liquidity" ∧ info = report

/-- The report on liquidity did not fail and lacks a fact where the facts stand. -/
structure LacksLiquidityFact (report : Datum) (fact : RequiredFact) : Prop where
  source : fact.source = "liquidity"
  succeeded : lookupFailed report = false
  lacks : ∃ info, report.HasLiquidity info ∧ info.Lacks fact.key

/-- The honeypot report failed and has a whole number beyond all floating-point numbers for a
tax. -/
def FailsWithLargeTax (report : Datum) : Prop :=
  lookupFailed report = true ∧ ∃ key ∈ ["sellTax", "buyTax"], ∃ n : Int,
    report.Has key (.int n) ∧ Binary64.overflowBound ≤ n.natAbs

end Datum

namespace Reports

/-- A report did not fail and lacks a fact that is asked of it. -/
inductive Missing (r : Reports) : RequiredFact → Prop
  | honeypot {fact : RequiredFact} (h : r.honeypot.LacksHoneypotFact fact) : Missing r fact
  | holders (h : lookupFailed r.holders = false) (lacks : r.holders.Lacks "holders") :
      Missing r .holders
  | firstShare (h : r.holders.LacksHolderFact) : Missing r .firstShare
  | liquidity {fact : RequiredFact} (h : r.liquidity.LacksLiquidityFact fact) : Missing r fact

/-- The gathering ends without a refusal: at a tax of a failed honeypot report, or at holders that
have no first one. -/
def Stopped (r : Reports) : Prop :=
  r.honeypot.FailsWithLargeTax ∨ (r.honeypot.PassesForHoneypot ∧ r.holders.UnlistedHolders)

end Reports

variable {report d : Datum} {entries : List (String × Datum)} {source key : String}
  {e : ReportFault} {fact : RequiredFact} {r : Reports}

/-- A fault is contained exactly when it is a refusal. -/
theorem contained_error_iff {α : Type} :
    Contained (.error e : Except ReportFault α) ↔ ∃ error, e = refusal error := by
  simp [Contained]

/-- What is needed of a report is refused exactly when the report lacks it. -/
theorem need_eq_error_iff :
    need source report key = .error e ↔ report.Lacks key ∧ e = refusal (.reportGap source key) := by
  unfold need Datum.Lacks Datum.Has
  cases report with
  | dict entries =>
    cases hlookup : Datum.lookup? key entries with
    | none => simp [hlookup, eq_comm]
    | some value => simp [hlookup]
  | _ => simp [eq_comm]

/-! ## The report on a honeypot -/

/-- A percentage with a default is refused exactly when it is a whole number beyond all
floating-point numbers. -/
theorem percentageOr_eq_error_iff :
    percentageOr (Datum.lookup? key entries) = .error e ↔
      e = .signal .tooLarge ∧ ∃ n : Int, (Datum.dict entries).Has key (.int n) ∧
        Binary64.overflowBound ≤ n.natAbs := by
  have hlarge : ((Datum.lookup? key entries).getD .null).amount = .error .tooLarge ↔
      ∃ n : Int, (Datum.dict entries).Has key (.int n) ∧ Binary64.overflowBound ≤ n.natAbs := by
    rw [Datum.amount_eq_tooLarge_iff]
    cases hlookup : Datum.lookup? key entries with
    | none => simp [Datum.Has, hlookup]
    | some d => simp [Datum.Has, hlookup]
  rw [← hlarge]
  unfold percentageOr
  simp only
  split
  · next hok => simp [hok]
  · next htoo => simp [htoo, eq_comm]
  · next fault hne hother =>
    have hfault : ¬ fault = .tooLarge := hne
    simp [hother, hfault]

/-- A failed honeypot report ends the reading only by a large tax. -/
theorem honeypotFacts_eq_error_of_failed (hfailed : lookupFailed report = true)
    (h : honeypotFacts report = .error e) : e = .signal .tooLarge ∧ report.FailsWithLargeTax := by
  unfold honeypotFacts at h
  rw [succeeded?_eq_none_iff.2 hfailed] at h
  simp only at h
  split at h
  · next entries =>
    rcases bind_eq_error_iff.1 h with h | ⟨_, -, h⟩
    · obtain ⟨he, hlarge⟩ := percentageOr_eq_error_iff.1 h
      exact ⟨he, hfailed, "sellTax", by simp, hlarge⟩
    · rcases bind_eq_error_iff.1 h with h | ⟨_, -, h⟩
      · obtain ⟨he, hlarge⟩ := percentageOr_eq_error_iff.1 h
        exact ⟨he, hfailed, "buyTax", by simp, hlarge⟩
      · cases h
  · cases h

/-- So there is none where the reading goes on. -/
theorem not_failsWithLargeTax_of_honeypotFacts {facts : HoneypotFacts}
    (h : honeypotFacts report = .ok facts) : ¬ report.FailsWithLargeTax := by
  rintro ⟨hfailed, key, hkey, n, ⟨entries, rfl, hlookup⟩, hlarge⟩
  have hfault : percentageOr (Datum.lookup? key entries) = .error (.signal .tooLarge) :=
    percentageOr_eq_error_iff.2 ⟨rfl, n, ⟨entries, rfl, hlookup⟩, hlarge⟩
  unfold honeypotFacts at h
  rw [succeeded?_eq_none_iff.2 hfailed] at h
  obtain ⟨sellTax, hsell, h⟩ := bind_eq_ok_iff.1 h
  obtain ⟨buyTax, hbuy, -⟩ := bind_eq_ok_iff.1 h
  simp only [List.mem_cons, List.not_mem_nil, or_false] at hkey
  rcases hkey with rfl | rfl
  · rw [hsell] at hfault
    cases hfault
  · rw [hbuy] at hfault
    cases hfault

/-- One that did not fail ends the reading only by a fact that it lacks. -/
theorem honeypotFacts_eq_error_of_succeeded (hsucceeded : lookupFailed report = false)
    (h : honeypotFacts report = .error e) :
    ∃ fact, report.LacksHoneypotFact fact ∧ e = fact.gap := by
  obtain ⟨entries, -, hentries⟩ := exists_succeeded hsucceeded
  unfold honeypotFacts at h
  rw [hentries] at h
  rcases bind_eq_error_iff.1 h with h | ⟨_, -, h⟩
  · obtain ⟨hlacks, he⟩ := need_eq_error_iff.1 h
    exact ⟨.honeypot, ⟨rfl, hsucceeded, hlacks⟩, he⟩
  rcases bind_eq_error_iff.1 h with h | ⟨_, -, h⟩
  · obtain ⟨hlacks, he⟩ := need_eq_error_iff.1 h
    exact ⟨.sellTax, ⟨rfl, hsucceeded, hlacks⟩, he⟩
  rcases bind_eq_error_iff.1 h with h | ⟨_, -, h⟩
  · obtain ⟨hlacks, he⟩ := need_eq_error_iff.1 h
    exact ⟨.buyTax, ⟨rfl, hsucceeded, hlacks⟩, he⟩
  · cases h

/-- A honeypot report that lacks a fact is not one that passes. -/
theorem Datum.LacksHoneypotFact.not_passes (h : report.LacksHoneypotFact fact) :
    ¬ report.PassesForHoneypot := by
  obtain ⟨hsource, hsucceeded, hlacks⟩ := h
  rintro (hfailed | hall)
  · rw [hsucceeded] at hfailed
    cases hfailed
  · have hkey : fact.key ∈ ["isHoneypot", "sellTax", "buyTax"] := by
      revert hsource
      cases fact <;> decide
    obtain ⟨value, hvalue⟩ := hall _ hkey
    exact hlacks value hvalue

/-! ## The report on holders -/

/-- Holders that are given have a first one unless they are of a kind that has none. -/
theorem lacksFirst_of_firstHolder (hgiven : d.isGiven = true) (h : firstHolder d = .error e) :
    d.lacksFirst = true := by
  cases d with
  | list items =>
    cases items with
    | nil => cases hgiven
    | cons first others => cases h
  | null => cases hgiven
  | text content => cases h
  | bytes bs => cases h
  | _ => rfl

/-- The first share is lacking exactly when there is a first holder to ask, in whom it is. -/
theorem lacksFirstShare_iff :
    d.LacksFirstShare ↔
      d.isGiven = true ∧ ∃ first, firstHolder d = .ok first ∧ first.Lacks "percentage" := by
  constructor
  · intro h
    cases h with
    | list lacks => exact ⟨rfl, _, rfl, lacks⟩
    | text nonempty => exact ⟨by simpa [Datum.isGiven] using nonempty, _, rfl, nofun⟩
    | bytes nonempty => exact ⟨by simpa [Datum.isGiven] using nonempty, _, rfl, nofun⟩
  · rintro ⟨hgiven, first, hfirst, hlacks⟩
    cases d with
    | list items =>
      cases items with
      | nil => cases hgiven
      | cons head others =>
        cases hfirst
        exact .list hlacks
    | text content => exact .text (by simpa [Datum.isGiven] using hgiven)
    | bytes bs => exact .bytes (by simpa [Datum.isGiven] using hgiven)
    | null => cases hgiven
    | _ => cases hfirst

/-- A report on listed holders ends the reading only by the share that it lacks. -/
theorem topHolderFact_eq_error (h : topHolderFact report = .error e)
    (hlisted : ¬ report.UnlistedHolders) :
    report.LacksHolderFact ∧ e = RequiredFact.firstShare.gap := by
  cases hfailed : lookupFailed report with
  | true =>
    rw [topHolderFact_of_failed hfailed] at h
    cases h
  | false =>
    obtain ⟨entries, hreport, hentries⟩ := exists_succeeded hfailed
    unfold topHolderFact at h
    rw [hentries] at h
    simp only at h
    split at h
    · next holders hgiven =>
      obtain ⟨hlookup, hgiven⟩ := given?_eq_some_iff.1 hgiven
      have hholders : report.Has "holders" holders := ⟨entries, hreport, hlookup⟩
      rcases bind_eq_error_iff.1 h with h | ⟨first, hfirst, h⟩
      · have hlacks := lacksFirst_of_firstHolder hgiven h
        exact absurd ⟨hfailed, holders, hholders, hgiven, hlacks⟩ hlisted
      · obtain ⟨hlacks, he⟩ := need_eq_error_iff.1 h
        have hshare := lacksFirstShare_iff.2 ⟨hgiven, first, hfirst, hlacks⟩
        exact ⟨⟨hfailed, holders, hholders, hshare⟩, he⟩
    · cases h

/-- Where that share is lacking it is named. -/
theorem topHolderFact_of_lacksHolderFact (h : report.LacksHolderFact) :
    topHolderFact report = .error RequiredFact.firstShare.gap := by
  obtain ⟨hsucceeded, holders, ⟨entries, rfl, hlookup⟩, hshare⟩ := h
  obtain ⟨hgiven, first, hfirst, hlacks⟩ := lacksFirstShare_iff.1 hshare
  obtain ⟨_, hreport, hentries⟩ := exists_succeeded hsucceeded
  cases hreport
  unfold topHolderFact
  rw [hentries]
  simp only
  rw [given?_eq_some_iff.2 ⟨hlookup, hgiven⟩]
  exact bind_eq_error_iff.2 (.inr ⟨first, hfirst, need_eq_error_iff.2 ⟨hlacks, rfl⟩⟩)

/-- Of a report that lacks them the holders count as none. -/
theorem topHolderFact_of_lacks (hsucceeded : lookupFailed report = false)
    (hlacks : report.Lacks "holders") : topHolderFact report = .ok (.text "0%") := by
  obtain ⟨entries, rfl, hentries⟩ := exists_succeeded hsucceeded
  have hnone : given? entries "holders" = none := by
    rw [Option.eq_none_iff_forall_ne_some]
    intro holders hholders
    exact hlacks holders ⟨entries, rfl, (given?_eq_some_iff.1 hholders).1⟩
  unfold topHolderFact
  rw [hentries]
  simp only
  rw [hnone]

/-! ## The report on liquidity -/

/-- The facts on liquidity stand under their own key, or in the report where there is none. -/
theorem hasLiquidity_iff {info : Datum} :
    (Datum.dict entries).HasLiquidity info ↔
      (Datum.lookup? "liquidity" entries).getD (.dict entries) = info := by
  unfold Datum.HasLiquidity Datum.Lacks Datum.Has
  cases hlookup : Datum.lookup? "liquidity" entries with
  | none => simp [hlookup, eq_comm]
  | some found => simp [hlookup]

/-- A report on liquidity ends the reading only by a fact that it lacks. -/
theorem liquidityFacts_eq_error (h : liquidityFacts report = .error e) :
    ∃ fact, report.LacksLiquidityFact fact ∧ e = fact.gap := by
  cases hfailed : lookupFailed report with
  | true =>
    rw [liquidityFacts_of_failed hfailed] at h
    cases h
  | false =>
    obtain ⟨entries, rfl, hentries⟩ := exists_succeeded hfailed
    have hinfo := hasLiquidity_iff.2 (Eq.refl ((Datum.lookup? "liquidity" entries).getD _))
    unfold liquidityFacts at h
    rw [hentries] at h
    rcases bind_eq_error_iff.1 h with h | ⟨_, -, h⟩
    · obtain ⟨hlacks, he⟩ := need_eq_error_iff.1 h
      exact ⟨.liquidityLocked, ⟨rfl, hfailed, _, hinfo, hlacks⟩, he⟩
    rcases bind_eq_error_iff.1 h with h | ⟨_, -, h⟩
    · obtain ⟨hlacks, he⟩ := need_eq_error_iff.1 h
      exact ⟨.lockShare, ⟨rfl, hfailed, _, hinfo, hlacks⟩, he⟩
    · cases h

/-- So it lacks none where the reading goes on. -/
theorem not_lacksLiquidityFact_of_liquidityFacts {locked share : Datum}
    (h : liquidityFacts report = .ok (locked, share)) : ¬ report.LacksLiquidityFact fact := by
  rintro ⟨hsource, hsucceeded, info, hinfo, hlacks⟩
  obtain ⟨entries, rfl, hentries⟩ := exists_succeeded hsucceeded
  rw [hasLiquidity_iff] at hinfo
  unfold liquidityFacts at h
  rw [hentries] at h
  simp only at h
  rw [hinfo] at h
  obtain ⟨locked, hlocked, h⟩ := bind_eq_ok_iff.1 h
  obtain ⟨share, hshare, -⟩ := bind_eq_ok_iff.1 h
  cases fact with
  | liquidityLocked => exact hlacks _ (need_eq_ok_iff.1 hlocked)
  | lockShare => exact hlacks _ (need_eq_ok_iff.1 hshare)
  | _ => exact absurd hsource (by decide)

/-! ## The bundle -/

/-- What is wrong with a bundle is never that a report lacks a fact. -/
theorem Signals.ofSource_ne_reportGap (fields : FieldSource) :
    Signals.ofSource fields ≠ .error (.refused (.reportGap source key)) := by
  intro h
  unfold Signals.ofSource at h
  split at h
  · cases h
  · split at h
    · simp only at h
      split at h <;> cases h
    · cases h

namespace Reports

/-- The reports are refused for a fact that they lack. -/
def NamesMissing (r : Reports) : Prop :=
  ∃ fact, r.Missing fact ∧ fact ≠ .holders ∧ r.signals = .error fact.gap

/-- Where the honeypot report is read and the holders are listed, the gathering is not stopped. -/
theorem not_stopped {facts : HoneypotFacts} (hhoneypot : honeypotFacts r.honeypot = .ok facts)
    (hlisted : ¬ r.holders.UnlistedHolders) : ¬ r.Stopped := by
  rintro (hlarge | ⟨-, hunlisted⟩)
  · exact not_failsWithLargeTax_of_honeypotFacts hhoneypot hlarge
  · exact hlisted hunlisted

/-- Reports that end at the honeypot are refused for a fact, or stopped by a tax. -/
theorem cases_of_honeypot_error (h : honeypotFacts r.honeypot = .error e) :
    (r.NamesMissing ∧ ¬ r.Stopped) ∨ (r.Stopped ∧ ¬ Contained r.signals) := by
  have hsignals : r.signals = .error e := bind_eq_error_iff.2 (.inl h)
  cases hfailed : lookupFailed r.honeypot with
  | true =>
    obtain ⟨rfl, hlarge⟩ := honeypotFacts_eq_error_of_failed hfailed h
    right
    rw [hsignals]
    exact ⟨.inl hlarge, by simp [contained_error_iff, refusal]⟩
  | false =>
    obtain ⟨fact, hlacks, rfl⟩ := honeypotFacts_eq_error_of_succeeded hfailed h
    left
    constructor
    · refine ⟨fact, .honeypot hlacks, ?_, hsignals⟩
      rintro rfl
      exact absurd hlacks.source (by decide)
    · rintro (⟨hfailed', -⟩ | ⟨hpasses, -⟩)
      · rw [hfailed] at hfailed'
        cases hfailed'
      · exact hlacks.not_passes hpasses

/-- Reports that end at the holders are refused for the share of the first of them, or stopped
because there is no first one. -/
theorem cases_of_holders_error {facts : HoneypotFacts}
    (hhoneypot : honeypotFacts r.honeypot = .ok facts) (h : topHolderFact r.holders = .error e) :
    (r.NamesMissing ∧ ¬ r.Stopped) ∨ (r.Stopped ∧ ¬ Contained r.signals) := by
  have hsignals : r.signals = .error e :=
    bind_eq_error_iff.2 (.inr ⟨_, hhoneypot, bind_eq_error_iff.2 (.inl h)⟩)
  by_cases hunlisted : r.holders.UnlistedHolders
  · right
    refine ⟨.inr ⟨passesForHoneypot_of_honeypotFacts hhoneypot, hunlisted⟩, ?_⟩
    have hcontained : ¬ Contained (topHolderFact r.holders) := by
      rw [contained_topHolderFact_iff]
      exact not_not.2 hunlisted
    -- the fault is the same in the bundle, so it is no refusal there either
    rw [h, contained_error_iff] at hcontained
    rwa [hsignals, contained_error_iff]
  · left
    obtain ⟨hlacks, rfl⟩ := topHolderFact_eq_error h hunlisted
    exact ⟨⟨.firstShare, .firstShare hlacks, by decide, hsignals⟩, not_stopped hhoneypot hunlisted⟩

/-- Reports that are refused for their liquidity are refused for a fact they lack. -/
theorem cases_of_liquidity_error {facts : HoneypotFacts} {topHolder : Datum}
    (hhoneypot : honeypotFacts r.honeypot = .ok facts)
    (hholders : topHolderFact r.holders = .ok topHolder)
    (h : liquidityFacts r.liquidity = .error e) : r.NamesMissing := by
  have hsignals : r.signals = .error e :=
    bind_eq_error_iff.2 (.inr ⟨_, hhoneypot, bind_eq_error_iff.2 (.inr ⟨_, hholders,
      bind_eq_error_iff.2 (.inl h)⟩)⟩)
  obtain ⟨fact, hlacks, rfl⟩ := liquidityFacts_eq_error h
  refine ⟨fact, .liquidity hlacks, ?_, hsignals⟩
  rintro rfl
  exact absurd hlacks.source (by decide)

/-- Reports of which each gives its facts lack none but the holders, and are not refused for one. -/
theorem no_gap_of_facts {facts : HoneypotFacts} {topHolder : Datum} {liquidity : Datum × Datum}
    (hhoneypot : honeypotFacts r.honeypot = .ok facts)
    (hholders : topHolderFact r.holders = .ok topHolder)
    (hliquidity : liquidityFacts r.liquidity = .ok liquidity) :
    (∀ fact, r.Missing fact → fact = .holders) ∧
      ∀ source key, r.signals ≠ .error (refusal (.reportGap source key)) := by
  constructor
  · intro fact hmissing
    cases hmissing with
    | honeypot h => exact absurd (passesForHoneypot_of_honeypotFacts hhoneypot) h.not_passes
    | holders => rfl
    | firstShare h =>
      rw [topHolderFact_of_lacksHolderFact h] at hholders
      cases hholders
    | liquidity h => exact absurd h (not_lacksLiquidityFact_of_liquidityFacts hliquidity)
  · intro source key hsignals
    rcases bind_eq_error_iff.1 hsignals with h | ⟨_, -, h⟩
    · rw [hhoneypot] at h
      cases h
    rcases bind_eq_error_iff.1 h with h | ⟨_, -, h⟩
    · rw [hholders] at h
      cases h
    rcases bind_eq_error_iff.1 h with h | ⟨_, -, h⟩
    · rw [hliquidity] at h
      cases h
    rcases bind_eq_error_iff.1 h with h | ⟨_, -, h⟩
    · unfold verifiedFact at h
      split at h <;> cases h
    · obtain ⟨fault, hsource, hfault⟩ := mapError_eq_error_iff.1 h
      cases hfault
      exact Signals.ofSource_ne_reportGap _ hsource

/-- The reports are refused for a fact that they lack, or the gathering is stopped, or they lack no
fact but the holders. -/
theorem signals_cases (r : Reports) :
    (r.NamesMissing ∧ ¬ r.Stopped) ∨ (r.Stopped ∧ ¬ Contained r.signals) ∨
      ((∀ fact, r.Missing fact → fact = .holders) ∧
        ∀ source key, r.signals ≠ .error (refusal (.reportGap source key))) := by
  rw [← or_assoc]
  -- the first report that does not give its facts decides
  cases hhoneypot : honeypotFacts r.honeypot with
  | error e => exact .inl (cases_of_honeypot_error hhoneypot)
  | ok honeypot =>
    cases hholders : topHolderFact r.holders with
    | error e => exact .inl (cases_of_holders_error hhoneypot hholders)
    | ok topHolder =>
      cases hliquidity : liquidityFacts r.liquidity with
      | error e =>
        have hlisted : ¬ r.holders.UnlistedHolders := by
          rw [← contained_topHolderFact_iff, hholders]
          exact contained_ok _
        exact .inl (.inl ⟨cases_of_liquidity_error hhoneypot hholders hliquidity,
          not_stopped hhoneypot hlisted⟩)
      | ok liquidity => exact .inr (no_gap_of_facts hhoneypot hholders hliquidity)

/-- Holders are missing exactly when the lookup did not fail and nothing is under their key. -/
theorem missing_holders_iff :
    r.Missing .holders ↔ lookupFailed r.holders = false ∧ r.holders.Lacks "holders" := by
  constructor
  · intro hmissing
    cases hmissing with
    | holders hsucceeded hlacks => exact ⟨hsucceeded, hlacks⟩
    | honeypot h => exact absurd h.source (by decide)
    | liquidity h => exact absurd h.source (by decide)
  · rintro ⟨hsucceeded, hlacks⟩
    exact .holders hsucceeded hlacks

/-- The share of no holders is zero. -/
theorem textAmount?_noShare : textAmount? "0%" = some (.ofInt 0) := by
  decide +kernel

/-- A bundle made of reports that lack the holders has no share of the top holder. -/
theorem topHolderShare_of_missing {s : Signals} (h : r.signals = .ok s)
    (hmissing : r.Missing .holders) :
    s.topHolderShare.shown = "0%" ∧ s.topHolderShare.amount = .ofInt 0 := by
  obtain ⟨hsucceeded, hlacks⟩ := missing_holders_iff.1 hmissing
  obtain ⟨hshown, hreads⟩ := topHolderShare_of_text h (topHolderFact_of_lacks hsucceeded hlacks)
  exact ⟨hshown, Option.some.inj (hreads.symm.trans textAmount?_noShare)⟩

/-- Nothing is held against a token whose holders are missing from their report. -/
theorem checkTopHolder_of_missing {s : Signals} (h : r.signals = .ok s)
    (hmissing : r.Missing .holders) : s.checkTopHolder = .clear := by
  have hhigh : holderShareHigh.lt (.ofInt 0) = false := by decide +kernel
  have hmedium : holderShareMedium.lt (.ofInt 0) = false := by decide +kernel
  unfold Signals.checkTopHolder
  rw [(topHolderShare_of_missing h hmissing).2, hhigh, hmedium]
  rfl

/-- Reports that lack the holders make what they would make with an empty list of them. -/
theorem signals_eq_of_missing (hmissing : r.Missing .holders) :
    r.signals = { r with holders := .dict [("holders", .list [])] }.signals := by
  obtain ⟨hsucceeded, hlacks⟩ := missing_holders_iff.1 hmissing
  have hempty : topHolderFact (.dict [("holders", .list [])]) = .ok (.text "0%") := rfl
  unfold Reports.signals
  rw [topHolderFact_of_lacks hsucceeded hlacks, hempty]

end Reports

/-- Reports that lack a fact other than the holders make no bundle, and are refused for a fact that
they lack unless the gathering is stopped; a refusal for a fact names one that is missing. Reports
that lack the holders are taken for reports with an empty list of them, so that no share is held
against the token. -/
theorem missing_facts_refused_iff (r : Reports) :
    (∀ fact, r.Missing fact → fact ≠ .holders →
        (∀ s, r.signals ≠ .ok s) ∧ ((∃ e, r.signals = .error (refusal e)) ↔ ¬ r.Stopped) ∧
          (¬ r.Stopped → ∃ found, r.Missing found ∧ found ≠ .holders ∧
            r.signals = .error found.gap)) ∧
      (∀ source key, r.signals = .error (refusal (.reportGap source key)) →
        ∃ found, r.Missing found ∧ found ≠ .holders ∧ found.source = source ∧ found.key = key) ∧
      (r.Missing .holders →
        r.signals = { r with holders := .dict [("holders", .list [])] }.signals ∧
          ∀ s, r.signals = .ok s →
            s.topHolderShare.shown = "0%" ∧ s.topHolderShare.amount = .ofInt 0 ∧
              s.checkTopHolder = .clear) := by
  refine ⟨?_, ?_, ?_⟩
  · intro fact hmissing hfact
    rcases r.signals_cases with ⟨hnames, hgoes⟩ | ⟨hstopped, hcontained⟩ | ⟨honly, -⟩
    · have hnamed := hnames
      obtain ⟨found, -, -, hsignals⟩ := hnames
      refine ⟨?_, iff_of_true ⟨_, hsignals⟩ hgoes, fun _ => hnamed⟩
      intro s hs
      rw [hsignals] at hs
      cases hs
    · refine ⟨?_, iff_of_false ?_ (not_not.2 hstopped), fun hgoes => absurd hstopped hgoes⟩
      · intro s hs
        exact hcontained (.inl ⟨s, hs⟩)
      · intro hrefused
        exact hcontained (.inr hrefused)
    · exact absurd (honly fact hmissing) hfact
  · intro source key hsignals
    rcases r.signals_cases with ⟨⟨found, hmissing, hfound, hgap⟩, -⟩ | ⟨-, hcontained⟩ | ⟨-, hno⟩
    · rw [hgap] at hsignals
      cases hsignals
      exact ⟨found, hmissing, hfound, rfl, rfl⟩
    · exact absurd (.inr ⟨_, hsignals⟩) hcontained
    · exact absurd hsignals (hno source key)
  · intro hmissing
    refine ⟨Reports.signals_eq_of_missing hmissing, fun s hs => ?_⟩
    obtain ⟨hshown, hamount⟩ := Reports.topHolderShare_of_missing hs hmissing
    exact ⟨hshown, hamount, Reports.checkTopHolder_of_missing hs hmissing⟩

/-- Reports in order but for the first holder, of whom only an address is known. -/
def addressedHolder : Reports where
  honeypot := .dict [("isHoneypot", .bool false), ("sellTax", .text "1%"), ("buyTax", .text "1%")]
  holders := .dict [("holders", .list [.dict [("address", .text "0x1")]])]
  liquidity := .dict [("liquidity", .dict [("liquidityLocked", .bool true),
    ("lockPercentage", .text "90%")])]
  verified := .bool true

/-- The share of the first holder is missing. -/
theorem addressedHolder_missing : addressedHolder.Missing .firstShare := by
  refine .firstShare ⟨rfl, _, ⟨_, rfl, rfl⟩, .list ?_⟩
  rintro value ⟨entries, hentries, hlookup⟩
  cases hentries
  cases hlookup

/-- The gathering is not stopped by it. -/
theorem addressedHolder_not_stopped : ¬ addressedHolder.Stopped := by
  rintro (⟨hfailed, -⟩ | ⟨-, -, holders, ⟨entries, hentries, hlookup⟩, -, hlacks⟩)
  · cases hfailed
  · cases hentries
    cases hlookup
    cases hlacks

/-- The same reports without any holders. -/
def unnamedHolders : Reports :=
  { addressedHolder with holders := .dict [("status", .text "success")] }

/-- The holders are missing. -/
theorem unnamedHolders_missing : unnamedHolders.Missing .holders := by
  refine .holders rfl ?_
  rintro value ⟨entries, hentries, hlookup⟩
  cases hentries
  cases hlookup

/-- The bundle made of the reports without holders. -/
def unnamedSignals : Signals where
  honeypot := false
  sellTax := .text "1%" (.ofInt 1) (by decide +kernel)
  buyTax := .text "1%" (.ofInt 1) (by decide +kernel)
  topHolderShare := .text "0%" (.ofInt 0) Reports.textAmount?_noShare
  liquidityLocked := true
  liquidityLockShare := .text "90%" (.ofInt 90) (by decide +kernel)
  verified := true
  warnings := []

/-- Reports whose first holder has no share are refused; without the holders they are taken for
reports with none. -/
theorem missing_facts_refused_iff_addressedHolder :
    addressedHolder.Missing .firstShare ∧ ¬ addressedHolder.Stopped ∧
      (∃ e, addressedHolder.signals = .error (refusal e)) ∧ unnamedHolders.Missing .holders ∧
      unnamedHolders.signals = .ok unnamedSignals ∧ unnamedSignals.checkTopHolder = .clear := by
  obtain ⟨hrefused, -, -⟩ := missing_facts_refused_iff addressedHolder
  obtain ⟨-, -, hnone⟩ := missing_facts_refused_iff unnamedHolders
  have hsignals : unnamedHolders.signals = .ok unnamedSignals := by decide +kernel
  obtain ⟨-, hiff, -⟩ := hrefused .firstShare addressedHolder_missing (by decide)
  exact ⟨addressedHolder_missing, addressedHolder_not_stopped, hiff.2 addressedHolder_not_stopped,
    unnamedHolders_missing, hsignals, ((hnone unnamedHolders_missing).2 _ hsignals).2.2⟩

/-- Reports that did not fail and lack the holders make a bundle, and the token is rated low with no
reason against it. -/
theorem unnamedHolders_rated_low :
    lookupFailed unnamedHolders.holders = false ∧ unnamedHolders.holders.Lacks "holders" ∧
      unnamedHolders.signals = .ok unnamedSignals ∧ unnamedSignals.topHolderShare.shown = "0%" ∧
      unnamedSignals.rating = .clear := by
  obtain ⟨hsucceeded, hlacks⟩ := Reports.missing_holders_iff.1 unnamedHolders_missing
  exact ⟨hsucceeded, hlacks, by decide +kernel, rfl, by decide +kernel⟩

end TokenAudit
