import TokenAudit.Proofs.Signal.Reading
import TokenAudit.Signal.Rating

/-!
# What escapes the rating of a value

Rating a decoded value ends in a result or in a refusal, with one exception: a whole number in a
field of percentages that no floating-point number can hold. Such a number stops the reading of the
bundle before any refusal is made, whatever the other fields hold.
-/

set_option autoImplicit false

namespace TokenAudit

/-- The value is a dictionary that holds, in a field of percentages, a whole number from the
overflow bound `2 ^ 1024 - 2 ^ 970` on. -/
def Datum.HoldsTooLarge (d : Datum) : Prop :=
  ∃ entries, d = .dict entries ∧ ∃ field ∈ SignalField.percentages, ∃ n : Int,
    Binary64.overflowBound ≤ n.natAbs ∧
      (Datum.lookup? field.wireName entries = some (.int n) ∨
        Datum.lookup? field.wireName entries = none ∧
          Datum.lookup? field.plainName entries = some (.int n))

/-- A dictionary holds too large a number in a field exactly when its entries say so. -/
theorem holdsTooLarge_dictionary_iff {entries : List (String × Datum)} {field : SignalField} :
    holdsTooLarge (dictionarySource entries) field = true ↔
      ∃ n : Int, Binary64.overflowBound ≤ n.natAbs ∧
        (Datum.lookup? field.wireName entries = some (.int n) ∨
          Datum.lookup? field.wireName entries = none ∧
            Datum.lookup? field.plainName entries = some (.int n)) := by
  rw [holdsTooLarge_iff]
  constructor
  · rintro ⟨f, hf, hamount⟩
    obtain ⟨n, hn, hle⟩ := Datum.amount_eq_tooLarge_iff.1 hamount
    refine ⟨n, hle, ?_⟩
    rcases dictionarySource_eq_some_iff.1 hf with ⟨hwire, -⟩ | ⟨hwire, hplain, -⟩
    · exact .inl (hn ▸ hwire)
    · exact .inr ⟨hwire, hn ▸ hplain⟩
  · rintro ⟨n, hle, hlookup⟩
    have hamount : (Datum.int n).amount = .error .tooLarge :=
      Datum.amount_eq_tooLarge_iff.2 ⟨n, rfl, hle⟩
    rcases hlookup with hwire | ⟨hwire, hplain⟩
    · exact ⟨⟨field.wireName, .int n⟩,
        dictionarySource_eq_some_iff.2 (.inl ⟨hwire, rfl⟩), hamount⟩
    · exact ⟨⟨field.plainName, .int n⟩,
        dictionarySource_eq_some_iff.2 (.inr ⟨hwire, hplain, rfl⟩), hamount⟩

/-- A value makes no bundle and is not refused exactly when it holds too large a number. -/
theorem Signals.ofDatum_eq_tooLarge_iff {d : Datum} :
    Signals.ofDatum d = .error .tooLarge ↔ d.HoldsTooLarge := by
  unfold Datum.HoldsTooLarge
  cases d with
  | dict entries =>
    unfold Signals.ofDatum
    simp only [ofSource_eq_tooLarge_iff, holdsTooLarge_dictionary_iff, Datum.dict.injEq,
      exists_eq_left']
  | _ => simp [Signals.ofDatum]

/-- Rating a value gives a result or a refusal exactly when no field of percentages holds a whole
number beyond all floating-point numbers. -/
theorem rating_ok_or_refused_iff (d : Datum) :
    ((∃ r, d.rating = .ok r) ∨ ∃ e, d.rating = .error (.refused e)) ↔ ¬ d.HoldsTooLarge := by
  rw [← Signals.ofDatum_eq_tooLarge_iff]
  unfold Datum.rating
  cases Signals.ofDatum d with
  | ok s => simp [Except.map]
  | error fault =>
    cases fault with
    | refused e => simp [Except.map]
    | tooLarge => simp [Except.map]

/-- A bundle in order but for a sell tax of `10 ^ 400`. -/
def hugeTaxBundle : Datum :=
  .dict
    [ ("honeypot", .bool false), ("sellTax", .int (10 ^ 400)), ("buyTax", .text "0%"),
      ("topHolderShare", .text "5%"), ("liquidityLocked", .bool true),
      ("liquidityLockShare", .text "90%"), ("verified", .bool true) ]

/-- A sell tax of `10 ^ 400` is neither rated nor refused. -/
theorem hugeTaxBundle_escapes :
    hugeTaxBundle.rating = .error .tooLarge ∧
      ¬ ((∃ r, hugeTaxBundle.rating = .ok r) ∨
        ∃ e, hugeTaxBundle.rating = .error (.refused e)) := by
  have h : hugeTaxBundle.rating = .error .tooLarge := by decide +kernel
  refine ⟨h, ?_⟩
  rw [h]
  simp

end TokenAudit
