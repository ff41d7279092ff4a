import TokenAudit.Proofs.Binary64.Rounding
import TokenAudit.Signal.Bundle

/-!
# Reading a bundle

What it takes for the fields of a source to make a bundle: each of them is read on its own, and the
bundle holds what was read; a bundle given back under its wire names reads as itself. The one way to
fail without a refusal is a whole number in a field of percentages whose magnitude reaches the
overflow bound.
-/

set_option autoImplicit false

namespace TokenAudit

/-- The bundle holds what its fields in the source read as. -/
structure Signals.ReadFrom (source : FieldSource) (s : Signals) : Prop where
  honeypot : ∃ f, source .honeypot = some f ∧ f.boolean = .ok s.honeypot
  sellTax : ∃ f, source .sellTax = some f ∧ f.percentage .sellTax = .ok s.sellTax
  buyTax : ∃ f, source .buyTax = some f ∧ f.percentage .buyTax = .ok s.buyTax
  topHolderShare :
    ∃ f, source .topHolderShare = some f ∧ f.percentage .topHolderShare = .ok s.topHolderShare
  liquidityLocked : ∃ f, source .liquidityLocked = some f ∧ f.boolean = .ok s.liquidityLocked
  liquidityLockShare : ∃ f, source .liquidityLockShare = some f ∧
    f.percentage .liquidityLockShare = .ok s.liquidityLockShare
  verified : ∃ f, source .verified = some f ∧ f.boolean = .ok s.verified
  warnings : warningList (source .warnings) = .ok s.warnings

/-- The percentage that a bundle holds in a field. -/
def Signals.percentageAt? (s : Signals) : SignalField → Option Percentage
  | .sellTax => some s.sellTax
  | .buyTax => some s.buyTax
  | .topHolderShare => some s.topHolderShare
  | .liquidityLockShare => some s.liquidityLockShare
  | _ => none

/-- A percentage of a bundle is what its field in the source reads as. -/
theorem Signals.ReadFrom.percentageAt? {source : FieldSource} {s : Signals} {field : SignalField}
    {p : Percentage} (h : s.ReadFrom source) (hp : s.percentageAt? field = some p) :
    ∃ f, source field = some f ∧ f.percentage field = .ok p := by
  cases field with
  | sellTax =>
    cases hp
    exact h.sellTax
  | buyTax =>
    cases hp
    exact h.buyTax
  | topHolderShare =>
    cases hp
    exact h.topHolderShare
  | liquidityLockShare =>
    cases hp
    exact h.liquidityLockShare
  | _ => cases hp

/-- What is found among entries is one of them. -/
theorem Datum.mem_of_lookup? {entries : List (String × Datum)} {key : String} {d : Datum}
    (h : lookup? key entries = some d) : (key, d) ∈ entries := by
  obtain ⟨before, after, hsplit, -⟩ := List.lookup_eq_some_iff.1 h
  rw [← List.mem_reverse, hsplit]
  exact List.mem_append_right _ List.mem_cons_self

/-- A value is too large a percentage exactly when it is a whole number from the overflow bound
on. -/
theorem Datum.amount_eq_tooLarge_iff {d : Datum} :
    d.amount = .error .tooLarge ↔ ∃ n : Int, d = .int n ∧ Binary64.overflowBound ≤ n.natAbs := by
  cases d with
  | int n =>
    have hfinite := Binary64.isFinite_ofInt_iff n
    simp only [amount]
    split
    · next h =>
      have hlt := hfinite.1 h
      simp [hlt]
    · next h =>
      have hle := Nat.le_of_not_lt fun hlt => h (hfinite.2 hlt)
      simp [hle]
  | float x =>
    simp only [amount]
    split <;> simp
  | text content =>
    simp only [amount]
    split <;> simp
  | _ => simp [amount]

/-- A field holds too large a number exactly when the value found for it is too large a
percentage. -/
theorem holdsTooLarge_iff {source : FieldSource} {field : SignalField} :
    holdsTooLarge source field = true ↔
      ∃ f, source field = some f ∧ f.value.amount = .error .tooLarge := by
  unfold holdsTooLarge
  cases hsource : source field with
  | none => simp
  | some f =>
    simp only [Option.some.injEq, exists_eq_left']
    split
    · next h => simp [h]
    · next h => simpa using h

/-- Only a boolean is read as one. -/
theorem Found.boolean_eq_ok_iff {f : Found} {b : Bool} :
    f.boolean = .ok b ↔ f.value = .bool b := by
  unfold Found.boolean
  split
  · next b' hvalue => simp [hvalue]
  · next hvalue =>
    constructor
    · intro h
      cases h
    · intro h
      exact absurd h (hvalue b)

/-- A value is kept as a percentage: a text verbatim, any other by its number. -/
inductive Datum.KeptAs : Datum → Percentage → Prop
  | text {content : RawText} {x : Binary64} (reads : textAmount? content = some x) :
      KeptAs (.text content) (.text content x reads)
  | number {d : Datum} {x : Binary64} (other : ∀ content, d ≠ .text content)
      (amount : d.amount = .ok x) (finite : x.isFinite = true) : KeptAs d (.number x finite)

/-- A value reads as the percentage that it is kept as, wherever it was found. -/
theorem Found.percentage_eq_ok_iff {f : Found} {field : SignalField} {p : Percentage} :
    f.percentage field = .ok p ↔ f.value.KeptAs p := by
  obtain ⟨location, value⟩ := f
  unfold Found.percentage
  constructor
  · intro h
    split at h
    · next content hcontent =>
      cases hcontent
      split at h
      · next x reads =>
        cases h
        exact .text reads
      · cases h
    · next hother =>
      split at h
      · cases h
      · next x hx =>
        split at h
        · next finite =>
          cases h
          exact .number hother hx finite
        · cases h
  · intro h
    cases h with
    | text reads =>
      simp only
      split
      · next x reads' =>
        cases reads.symm.trans reads'
        rfl
      · next hnone =>
        rw [reads] at hnone
        cases hnone
    | number other amount finite =>
      split
      · next content hcontent => exact absurd hcontent (other content)
      · simp only
        split
        · next fault hfault =>
          rw [amount] at hfault
          cases hfault
        · next x hx =>
          cases amount.symm.trans hx
          rw [dif_pos finite]

/-- A text that reads as a percentage is shown verbatim and has the number of its prefix. -/
theorem Found.percentage_of_text {f : Found} {field : SignalField} {p : Percentage}
    {content : RawText} (hvalue : f.value = .text content) (h : f.percentage field = .ok p) :
    p.shown = content ∧ textAmount? content = some p.amount := by
  have hkept := Found.percentage_eq_ok_iff.1 h
  rw [hvalue] at hkept
  cases hkept with
  | text reads => exact ⟨rfl, reads⟩
  | number other => exact absurd rfl (other content)

/-- What is kept as a percentage has the percentage's number. -/
theorem Datum.KeptAs.amount_eq {d : Datum} {p : Percentage} (h : d.KeptAs p) :
    d.amount = .ok p.amount := by
  cases h with
  | text reads =>
    simp only [amount]
    rw [reads]
    rfl
  | number other amount finite => exact amount

/-- What reads as a percentage has the percentage's number. -/
theorem Found.amount_of_percentage {f : Found} {field : SignalField} {p : Percentage}
    (h : f.percentage field = .ok p) : f.value.amount = .ok p.amount :=
  (Found.percentage_eq_ok_iff.1 h).amount_eq

/-- What reads as a percentage is not too large. -/
theorem holdsTooLarge_of_percentage {source : FieldSource} {field : SignalField} {f : Found}
    {p : Percentage} (hf : source field = some f) (hp : f.percentage field = .ok p) :
    holdsTooLarge source field = false := by
  rw [Bool.eq_false_iff]
  intro h
  obtain ⟨f', hf', htoo⟩ := holdsTooLarge_iff.1 h
  have hsame : f = f' := Option.some.inj (hf.symm.trans hf')
  rw [← hsame, Found.amount_of_percentage hp] at htoo
  cases htoo

/-- A source makes a bundle exactly when each of its fields reads as the bundle has it. -/
theorem Signals.ofSource_eq_ok_iff {source : FieldSource} {s : Signals} :
    Signals.ofSource source = .ok s ↔ s.ReadFrom source := by
  constructor
  · intro h
    unfold Signals.ofSource at h
    split at h
    · cases h
    · split at h
      · next h1 h2 h3 h4 h5 h6 h7 =>
        simp only at h
        split at h
        · next k1 k2 k3 k4 k5 k6 k7 k8 =>
          cases h
          exact ⟨⟨_, h1, k1⟩, ⟨_, h2, k2⟩, ⟨_, h3, k3⟩, ⟨_, h4, k4⟩, ⟨_, h5, k5⟩, ⟨_, h6, k6⟩,
            ⟨_, h7, k7⟩, k8⟩
        · cases h
      · cases h
  · rintro ⟨⟨f1, h1, k1⟩, ⟨f2, h2, k2⟩, ⟨f3, h3, k3⟩, ⟨f4, h4, k4⟩, ⟨f5, h5, k5⟩, ⟨f6, h6, k6⟩,
      ⟨f7, h7, k7⟩, k8⟩
    have hnone : SignalField.percentages.any (holdsTooLarge source) = false := by
      simp [SignalField.percentages, holdsTooLarge_of_percentage h2 k2,
        holdsTooLarge_of_percentage h3 k3, holdsTooLarge_of_percentage h4 k4,
        holdsTooLarge_of_percentage h6 k6]
    unfold Signals.ofSource
    simp only [hnone, h1, h2, h3, h4, h5, h6, h7, k1, k2, k3, k4, k5, k6, k7, k8]
    rfl

/-- A source fails without a refusal exactly when some field of percentages holds too large a
number. -/
theorem Signals.ofSource_eq_tooLarge_iff {source : FieldSource} :
    Signals.ofSource source = .error .tooLarge ↔
      ∃ field ∈ SignalField.percentages, holdsTooLarge source field = true := by
  rw [← List.any_eq_true]
  constructor
  · intro h
    unfold Signals.ofSource at h
    split at h
    · assumption
    · split at h
      · simp only at h
        split at h <;> cases h
      · cases h
  · intro h
    unfold Signals.ofSource
    rw [if_pos h]

/-- A dictionary has a field under its wire name, or under its plain name where the wire name is
absent. -/
theorem dictionarySource_eq_some_iff {entries : List (String × Datum)} {field : SignalField}
    {f : Found} :
    dictionarySource entries field = some f ↔
      (Datum.lookup? field.wireName entries = some f.value ∧ f.location = field.wireName) ∨
        (Datum.lookup? field.wireName entries = none ∧
          Datum.lookup? field.plainName entries = some f.value ∧ f.location = field.plainName) := by
  obtain ⟨location, value⟩ := f
  unfold dictionarySource foundAt?
  cases Datum.lookup? field.wireName entries with
  | some d => simp [and_comm, eq_comm]
  | none => simp [and_comm, eq_comm]

/-- A percentage given back as a value reads as itself. -/
theorem Percentage.percentage_toDatum (location : String) (field : SignalField) (p : Percentage) :
    Found.percentage field ⟨location, p.toDatum⟩ = .ok p := by
  rw [Found.percentage_eq_ok_iff]
  cases p with
  | text content x reads => exact .text reads
  | number x finite =>
    refine .number ?_ (amount_toDatum (.number x finite)) finite
    intro content hcontent
    cases hcontent

/-- Texts given back as a list of values read as themselves. -/
theorem warningList_texts (location : String) (texts : List RawText) :
    warningList (some ⟨location, .list (texts.map .text)⟩) = .ok texts := by
  have hproblems : (texts.map Datum.text).zipIdx.filterMap
      (fun item => warningProblem? location item.2 item.1) = [] := by
    rw [List.filterMap_eq_nil_iff]
    intro item hitem
    obtain ⟨content, -, hcontent⟩ := List.mem_map.1 (List.fst_mem_of_mem_zipIdx hitem)
    rw [← hcontent]
    rfl
  have htexts : (texts.map Datum.text).filterMap warningText? = texts := by
    rw [List.filterMap_map]
    exact List.filterMap_some
  unfold warningList
  simp only
  rw [hproblems, htexts]

/-- A bundle given back as a dictionary under its wire names reads as itself. -/
theorem Signals.ofDatum_toDatum (s : Signals) : Signals.ofDatum s.toDatum = .ok s := by
  rw [toDatum, ofDatum, ofSource_eq_ok_iff]
  exact {
    honeypot := ⟨⟨"honeypot", _⟩, rfl, rfl⟩
    sellTax := ⟨⟨"sellTax", _⟩, rfl, Percentage.percentage_toDatum _ _ _⟩
    buyTax := ⟨⟨"buyTax", _⟩, rfl, Percentage.percentage_toDatum _ _ _⟩
    topHolderShare := ⟨⟨"topHolderShare", _⟩, rfl, Percentage.percentage_toDatum _ _ _⟩
    liquidityLocked := ⟨⟨"liquidityLocked", _⟩, rfl, rfl⟩
    liquidityLockShare := ⟨⟨"liquidityLockShare", _⟩, rfl, Percentage.percentage_toDatum _ _ _⟩
    verified := ⟨⟨"verified", _⟩, rfl, rfl⟩
    warnings := warningList_texts "warnings" s.warnings }

end TokenAudit
