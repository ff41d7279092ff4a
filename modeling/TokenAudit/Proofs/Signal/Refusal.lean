import Mathlib.Data.Set.List
import TokenAudit.Proofs.Signal.Finiteness
import TokenAudit.Proofs.Signal.Keys

/-!
# Which dictionaries are refused as bundles

A dictionary whose percentages are not too large makes a bundle or is refused. It is refused for
the required fields that it has under neither of their names, whenever there are any and whatever
the others hold, and the refusal names exactly these, in the order of the fields. With all required
fields it is refused exactly when a field that it has is malformed: an answer that is no boolean, a
value that is rejected as a percentage, or warnings that are neither null nor a list of texts.
-/

set_option autoImplicit false

namespace TokenAudit

/-- The wire name and the plain name of each required field, in order. -/
def requiredNames : List (String × String) :=
  [("honeypot", "honeypot"), ("sellTax", "sell_tax"), ("buyTax", "buy_tax"),
    ("topHolderShare", "top_holder_share"), ("liquidityLocked", "liquidity_locked"),
    ("liquidityLockShare", "liquidity_lock_share"), ("verified", "verified")]

/-- The wire names of the required fields that are absent under both of their names, in order. -/
def absentNames (entries : List (String × Datum)) : List String :=
  (requiredNames.filter fun names =>
    names.1 ∉ entries.map (·.1) ∧ names.2 ∉ entries.map (·.1)).map (·.1)

/-- The dictionary has the value for the field: under its wire name, or under its plain name where
the wire name is absent. -/
def HasField (entries : List (String × Datum)) (field : SignalField) (d : Datum) : Prop :=
  Datum.lookup? field.wireName entries = some d ∨
    (Datum.lookup? field.wireName entries = none ∧
      Datum.lookup? field.plainName entries = some d)

/-- No field of percentages has a whole number beyond all floating-point numbers. -/
def PercentagesFit (entries : List (String × Datum)) : Prop :=
  ∀ field ∈ SignalField.percentages, ∀ n : Int,
    HasField entries field (.int n) → n.natAbs < Binary64.overflowBound

/-- The fields that hold answers of yes or no, in order. -/
def SignalField.answers : List SignalField :=
  [honeypot, liquidityLocked, verified]

/-- The value is a list of texts. -/
def Datum.IsTexts (d : Datum) : Prop :=
  ∃ texts : List RawText, d = .list (texts.map .text)

/-- A field that the dictionary has is malformed. -/
inductive Malformed (entries : List (String × Datum)) : Prop
  | answer {field : SignalField} {d : Datum} (field_mem : field ∈ SignalField.answers)
      (has : HasField entries field d) (other : ∀ b, d ≠ .bool b) : Malformed entries
  | percentage {field : SignalField} {d : Datum} {fault : PercentageFault}
      (field_mem : field ∈ SignalField.percentages) (has : HasField entries field d)
      (rejected : d.amount = .error fault) : Malformed entries
  | warnings {d : Datum} (has : HasField entries .warnings d) (given : d ≠ .null)
      (other : ¬ d.IsTexts) : Malformed entries

variable {entries : List (String × Datum)} {source : FieldSource} {field : SignalField} {d : Datum}

/-! ## Absent fields -/

/-- A field is absent exactly when the dictionary has neither of its names. -/
theorem dictionarySource_eq_none_iff :
    dictionarySource entries field = none ↔
      field.wireName ∉ entries.map (·.1) ∧ field.plainName ∉ entries.map (·.1) := by
  rw [← lookup?_eq_none_iff, ← lookup?_eq_none_iff]
  unfold dictionarySource foundAt?
  cases Datum.lookup? field.wireName entries <;> simp

/-- A value is found for a field exactly when the dictionary has it there. -/
theorem exists_dictionarySource_iff :
    (∃ f, dictionarySource entries field = some f ∧ f.value = d) ↔ HasField entries field d := by
  unfold HasField
  constructor
  · rintro ⟨f, hf, rfl⟩
    rcases dictionarySource_eq_some_iff.1 hf with ⟨hwire, -⟩ | ⟨hwire, hplain, -⟩
    · exact .inl hwire
    · exact .inr ⟨hwire, hplain⟩
  · rintro (hwire | ⟨hwire, hplain⟩)
    · exact ⟨⟨field.wireName, d⟩, dictionarySource_eq_some_iff.2 (.inl ⟨hwire, rfl⟩), rfl⟩
    · exact ⟨⟨field.plainName, d⟩,
        dictionarySource_eq_some_iff.2 (.inr ⟨hwire, hplain, rfl⟩), rfl⟩

/-- What a dictionary has for a field is what is found for it. -/
theorem HasField.value_eq {f : Found} (h : HasField entries field d)
    (hf : dictionarySource entries field = some f) : f.value = d := by
  obtain ⟨found, hfound, rfl⟩ := exists_dictionarySource_iff.2 h
  rw [Option.some.inj (hf.symm.trans hfound)]

/-- The absent names are those of the required fields that are not found. -/
theorem absentNames_eq (entries : List (String × Datum)) :
    absentNames entries =
      (SignalField.required.filter fun f => (dictionarySource entries f).isNone).map
        SignalField.wireName := by
  have hnames : requiredNames =
      SignalField.required.map fun f => (f.wireName, f.plainName) := rfl
  rw [absentNames, hnames, List.filter_map, List.map_map]
  congr 1
  apply List.filter_congr
  intro f _
  rw [Bool.eq_iff_iff, Option.isNone_iff_eq_none, dictionarySource_eq_none_iff]
  simp

/-- A source that lacks a required field is refused for those that it lacks, unless it holds too
large a number. -/
theorem Signals.ofSource_of_missing
    (hfit : ∀ field ∈ SignalField.percentages, holdsTooLarge source field = false)
    (hmissing : (SignalField.required.filter fun f => (source f).isNone) ≠ []) :
    Signals.ofSource source =
      .error (.refused (.missing (SignalField.required.filter fun f => (source f).isNone))) := by
  have hnone : ¬ SignalField.percentages.any (holdsTooLarge source) = true := by
    rw [List.any_eq_true]
    rintro ⟨field, hfield, hlarge⟩
    rw [hfit field hfield] at hlarge
    cases hlarge
  unfold Signals.ofSource
  rw [if_neg hnone]
  split
  · next h1 h2 h3 h4 h5 h6 h7 =>
    exact absurd (by simp [SignalField.required, h1, h2, h3, h4, h5, h6, h7]) hmissing
  · rfl

/-! ## Malformed fields -/

/-- A value is kept as some percentage exactly when it gives a number. -/
theorem Datum.exists_keptAs_iff : (∃ p, d.KeptAs p) ↔ ∃ x, d.amount = .ok x := by
  constructor
  · rintro ⟨p, h⟩
    exact ⟨p.amount, h.amount_eq⟩
  · rintro ⟨x, h⟩
    rcases amount_cases h with ⟨content, rfl, hreads⟩ | ⟨hother, hfinite⟩
    · exact ⟨_, .text hreads⟩
    · exact ⟨_, .number hother h hfinite⟩

/-- A warning is in order exactly when it is a text. -/
theorem warningProblem?_eq_none_iff {location : String} {index : Nat} :
    warningProblem? location index d = none ↔ ∃ content, d = .text content := by
  cases d <;> simp [warningProblem?]

/-- Values without a problem are texts. -/
theorem isTexts_of_problems {location : String} {items : List Datum}
    (h : (items.zipIdx.filterMap fun (d, i) => warningProblem? location i d) = []) :
    (Datum.list items).IsTexts := by
  have htexts : items ∈ Set.range (List.map Datum.text) := by
    rw [Set.range_list_map]
    intro d hd
    obtain ⟨i, hi⟩ := List.mem_iff_getElem?.1 hd
    have hmem : (d, i) ∈ items.zipIdx := List.mem_zipIdx_iff_getElem?.2 hi
    obtain ⟨content, hcontent⟩ :=
      warningProblem?_eq_none_iff.1 (List.filterMap_eq_nil_iff.1 h _ hmem)
    exact ⟨content, hcontent.symm⟩
  obtain ⟨texts, rfl⟩ := htexts
  exact ⟨texts, rfl⟩

/-- Warnings read as a list when they are absent, null or texts. -/
theorem exists_warningList_iff {found : Option Found} :
    (∃ texts, warningList found = .ok texts) ↔
      ∀ f, found = some f → f.value = .null ∨ f.value.IsTexts := by
  constructor
  · rintro ⟨texts, h⟩ f rfl
    unfold warningList at h
    simp only at h
    split at h
    · next hnull => exact .inl hnull
    · next items hitems =>
      split at h
      · next hproblems =>
        rw [hitems]
        exact .inr (isTexts_of_problems hproblems)
      · cases h
    · cases h
  · intro h
    cases found with
    | none => exact ⟨[], rfl⟩
    | some f =>
      obtain ⟨location, value⟩ := f
      rcases h _ rfl with hnull | ⟨texts, htexts⟩
      · cases hnull
        exact ⟨[], rfl⟩
      · cases htexts
        exact ⟨texts, warningList_texts location texts⟩

/-- The source has a value for the field that reads as a boolean. -/
def HasBoolean (source : FieldSource) (field : SignalField) : Prop :=
  ∃ f, source field = some f ∧ ∃ b, f.value = .bool b

/-- The source has a value for the field that gives a number. -/
def HasAmount (source : FieldSource) (field : SignalField) : Prop :=
  ∃ f, source field = some f ∧ ∃ x, f.value.amount = .ok x

/-- A source has a boolean exactly when one can be read. -/
theorem hasBoolean_iff :
    HasBoolean source field ↔ ∃ b f, source field = some f ∧ f.boolean = .ok b := by
  simp only [Found.boolean_eq_ok_iff]
  constructor
  · rintro ⟨f, hf, b, hb⟩
    exact ⟨b, f, hf, hb⟩
  · rintro ⟨b, f, hf, hb⟩
    exact ⟨f, hf, b, hb⟩

/-- It has an amount exactly when a percentage can be read. -/
theorem hasAmount_iff :
    HasAmount source field ↔ ∃ p f, source field = some f ∧ f.percentage field = .ok p := by
  simp only [Found.percentage_eq_ok_iff]
  constructor
  · rintro ⟨f, hf, hx⟩
    obtain ⟨p, hp⟩ := Datum.exists_keptAs_iff.2 hx
    exact ⟨p, f, hf, hp⟩
  · rintro ⟨p, f, hf, hp⟩
    exact ⟨f, hf, Datum.exists_keptAs_iff.1 ⟨p, hp⟩⟩

/-- A source makes some bundle exactly when its answers are booleans, its percentages give numbers
and its warnings read as a list. -/
theorem Signals.exists_ofSource_iff :
    (∃ s, Signals.ofSource source = .ok s) ↔
      (∀ field ∈ SignalField.answers, HasBoolean source field) ∧
      (∀ field ∈ SignalField.percentages, HasAmount source field) ∧
      ∃ texts, warningList (source .warnings) = .ok texts := by
  simp only [ofSource_eq_ok_iff, SignalField.answers, SignalField.percentages,
    List.forall_mem_cons, hasBoolean_iff, hasAmount_iff, List.not_mem_nil, false_imp_iff,
    implies_true, and_true]
  constructor
  · rintro ⟨s, h⟩
    exact ⟨⟨⟨_, h.honeypot⟩, ⟨_, h.liquidityLocked⟩, _, h.verified⟩, ⟨⟨_, h.sellTax⟩,
      ⟨_, h.buyTax⟩, ⟨_, h.topHolderShare⟩, _, h.liquidityLockShare⟩, _, h.warnings⟩
  · rintro ⟨⟨⟨honeypot, h1⟩, ⟨liquidityLocked, h5⟩, verified, h7⟩, ⟨⟨sellTax, h2⟩,
      ⟨buyTax, h3⟩, ⟨topHolderShare, h4⟩, liquidityLockShare, h6⟩, warnings, h8⟩
    exact ⟨⟨honeypot, sellTax, buyTax, topHolderShare, liquidityLocked, liquidityLockShare,
      verified, warnings⟩, h1, h2, h3, h4, h5, h6, h7, h8⟩

/-! ## Dictionaries -/

/-- The percentages of a dictionary fit when all of its whole numbers do. -/
theorem percentagesFit_of_mem
    (h : ∀ (key : String) (n : Int), (key, .int n) ∈ entries → n.natAbs < Binary64.overflowBound) :
    PercentagesFit entries := by
  rintro field - n (hwire | ⟨-, hplain⟩)
  · exact h _ n (Datum.mem_of_lookup? hwire)
  · exact h _ n (Datum.mem_of_lookup? hplain)

/-- Where the percentages fit, no field holds a number that is too large. -/
theorem holdsTooLarge_dictionarySource (hfit : PercentagesFit entries)
    (hfield : field ∈ SignalField.percentages) :
    holdsTooLarge (dictionarySource entries) field = false := by
  rw [Bool.eq_false_iff, ne_eq, holdsTooLarge_iff]
  rintro ⟨f, hf, hlarge⟩
  obtain ⟨n, hn, hle⟩ := Datum.amount_eq_tooLarge_iff.1 hlarge
  have hlt := hfit field hfield n (exists_dictionarySource_iff.1 ⟨f, hf, hn⟩)
  omega

/-- A dictionary with all required fields makes a bundle exactly when no field is malformed. -/
theorem exists_ofDatum_iff_not_malformed (hpresent : absentNames entries = []) :
    (∃ s, Signals.ofDatum (.dict entries) = .ok s) ↔ ¬ Malformed entries := by
  have hfound : ∀ field ∈ SignalField.required, ∃ f, dictionarySource entries field = some f := by
    intro field hfield
    rw [absentNames_eq, List.map_eq_nil_iff, List.filter_eq_nil_iff] at hpresent
    exact Option.ne_none_iff_exists'.1 (by simpa using hpresent field hfield)
  have hanswers : SignalField.answers ⊆ SignalField.required := by decide
  have hpercentages : SignalField.percentages ⊆ SignalField.required := by decide
  rw [Signals.ofDatum, Signals.exists_ofSource_iff, exists_warningList_iff]
  constructor
  · rintro ⟨hbooleans, hamounts, hwarnings⟩ hmalformed
    cases hmalformed with
    | answer field_mem has other =>
      obtain ⟨f, hf, b, hb⟩ := hbooleans _ field_mem
      exact other b (has.value_eq hf ▸ hb)
    | percentage field_mem has rejected =>
      obtain ⟨f, hf, x, hx⟩ := hamounts _ field_mem
      rw [has.value_eq hf, rejected] at hx
      cases hx
    | warnings has given other =>
      obtain ⟨f, hf, rfl⟩ := exists_dictionarySource_iff.2 has
      exact (hwarnings f hf).elim given other
  · intro hwell
    refine ⟨?_, ?_, ?_⟩
    · intro field hfield
      obtain ⟨f, hf⟩ := hfound field (hanswers hfield)
      refine ⟨f, hf, ?_⟩
      by_contra! hother
      exact hwell (.answer hfield (exists_dictionarySource_iff.1 ⟨f, hf, rfl⟩) hother)
    · intro field hfield
      obtain ⟨f, hf⟩ := hfound field (hpercentages hfield)
      refine ⟨f, hf, ?_⟩
      cases hamount : f.value.amount with
      | ok x => exact ⟨x, rfl⟩
      | error fault =>
        exact absurd (.percentage hfield (exists_dictionarySource_iff.1 ⟨f, hf, rfl⟩) hamount) hwell
    · intro f hf
      by_contra! hother
      exact hwell (.warnings (exists_dictionarySource_iff.1 ⟨f, hf, rfl⟩) hother.1 hother.2)

/-- So the reading does not end by one. -/
theorem ofDatum_ne_tooLarge (hfit : PercentagesFit entries) :
    Signals.ofDatum (.dict entries) ≠ .error .tooLarge := by
  rw [Signals.ofDatum, ne_eq, Signals.ofSource_eq_tooLarge_iff]
  rintro ⟨field, hfield, hlarge⟩
  rw [holdsTooLarge_dictionarySource hfit hfield] at hlarge
  cases hlarge

/-- A dictionary whose percentages are not too large is refused for the required fields that are
absent, which the refusal names in order, whenever there are any. When there are none, it is refused
exactly when a field that it has is malformed, and makes a bundle otherwise. -/
theorem dictionary_refused_iff (hfit : PercentagesFit entries) :
    (absentNames entries ≠ [] → ∃ e, Signals.ofDatum (.dict entries) = .error (.refused e) ∧
      e.message = "missing signal fields: " ++ ", ".intercalate (absentNames entries)) ∧
    (absentNames entries = [] →
      ((∃ e, Signals.ofDatum (.dict entries) = .error (.refused e)) ↔ Malformed entries) ∧
      ((∃ s, Signals.ofDatum (.dict entries) = .ok s) ↔ ¬ Malformed entries)) := by
  constructor
  · intro habsent
    rw [absentNames_eq] at habsent ⊢
    rw [ne_eq, List.map_eq_nil_iff] at habsent
    exact ⟨_, Signals.ofSource_of_missing
      (fun field hfield => holdsTooLarge_dictionarySource hfit hfield) habsent, rfl⟩
  · intro hpresent
    have hok := exists_ofDatum_iff_not_malformed hpresent
    refine ⟨?_, hok⟩
    rw [← not_iff_not, ← hok]
    cases hread : Signals.ofDatum (.dict entries) with
    | ok s => simp
    | error fault =>
      cases fault with
      | refused e => simp
      | tooLarge => exact absurd hread (ofDatum_ne_tooLarge hfit)

/-- A dictionary that lacks two required fields and has one of the others under its plain name,
with a value of another kind. -/
def partialEntries : List (String × Datum) :=
  [("sell_tax", .bool true), ("verified", .bool true), ("buyTax", .text "4%"),
    ("liquidityLocked", .null), ("honeypot", .bool false)]

/-- The same dictionary with the fields that it lacks. -/
def filledEntries : List (String × Datum) :=
  partialEntries ++ [("topHolderShare", .int 15), ("liquidity_lock_share", .text "90%")]

/-- It is refused for what it lacks, and when that is added, for the value of another kind. -/
theorem dictionary_refused_iff_partialEntries :
    PercentagesFit partialEntries ∧ PercentagesFit filledEntries ∧
      (∃ e, Signals.ofDatum (.dict partialEntries) = .error (.refused e) ∧
        e.message = "missing signal fields: topHolderShare, liquidityLockShare") ∧
      absentNames filledEntries = [] ∧ Malformed filledEntries ∧
      ∃ e, Signals.ofDatum (.dict filledEntries) = .error (.refused e) := by
  have hfits : PercentagesFit partialEntries := by
    apply percentagesFit_of_mem
    intro key n hmem
    simp [partialEntries] at hmem
  have hfilledFits : PercentagesFit filledEntries := by
    apply percentagesFit_of_mem
    intro key n hmem
    obtain ⟨-, rfl⟩ : key = "topHolderShare" ∧ n = 15 := by
      simpa [filledEntries, partialEntries] using hmem
    decide +kernel
  have habsent : absentNames partialEntries = ["topHolderShare", "liquidityLockShare"] := by
    decide
  have hpresent : absentNames filledEntries = [] := by decide
  have hsellTax : HasField filledEntries .sellTax (.bool true) := .inr ⟨rfl, rfl⟩
  have hmalformed : Malformed filledEntries := .percentage (by decide) hsellTax rfl
  obtain ⟨hmissing, -⟩ := dictionary_refused_iff hfits
  obtain ⟨-, hrefused⟩ := dictionary_refused_iff hfilledFits
  rw [habsent] at hmissing
  exact ⟨hfits, hfilledFits, hmissing (by decide), hpresent, hmalformed,
    (hrefused hpresent).1.2 hmalformed⟩

end TokenAudit
