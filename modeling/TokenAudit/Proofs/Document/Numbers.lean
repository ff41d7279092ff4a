import TokenAudit.Binary64.Decimal
import TokenAudit.Proofs.Document.Reading

/-!
# Numbers in a document

A number that is written by its parts is split into the same parts, whatever follows it, as long as
that does not go on with the number. Its digits spell what they spell on paper: zeros before them
make no difference, and zeros after them multiply by powers of ten.
-/

set_option autoImplicit false

namespace TokenAudit.Document

/-! ## Digits -/

/-- The value of digits is that which the library gives them. -/
theorem decimalValue_eq (digits : List Char) :
    decimalValue digits = Nat.ofDigitChars 10 digits 0 := by
  rw [decimalValue, Text.numeralValue_eq_foldl, List.foldl_map, Nat.ofDigitChars_eq_foldl]
  simp only [Nat.add_comm]

/-- The digits of a number spell the number. -/
theorem decimalValue_toDigits (n : Nat) : decimalValue (Nat.toDigits 10 n) = n := by
  rw [decimalValue_eq, Nat.ofDigitChars_ten_toDigits]

/-- Zeros spell zero. -/
theorem decimalValue_zeros (zeros : Nat) : decimalValue (List.replicate zeros '0') = 0 := by
  rw [decimalValue_eq, Nat.ofDigitChars_replicate_zero, Nat.mul_zero]

/-- Zeros in front of digits do not count. -/
theorem decimalValue_zeros_append (zeros : Nat) (digits : List Char) :
    decimalValue (List.replicate zeros '0' ++ digits) = decimalValue digits := by
  rw [decimalValue_eq, decimalValue_eq, Nat.ofDigitChars_append, Nat.ofDigitChars_replicate_zero,
    Nat.mul_zero]

/-- A zero behind digits counts as a factor of ten. -/
theorem decimalValue_append_zeros (digits : List Char) (zeros : Nat) :
    decimalValue (digits ++ List.replicate zeros '0') =
      decimalValue digits * Nat.pow 10 zeros := by
  rw [decimalValue_eq, decimalValue_eq, Nat.ofDigitChars_append, Nat.ofDigitChars_replicate_zero,
    Nat.mul_comm]
  rfl

/-- The digits of a number are digits of ASCII. -/
theorem isDigit_of_mem_toDigits {n : Nat} : ∀ c ∈ Nat.toDigits 10 n, c.isDigit = true :=
  fun _ hc => Nat.isDigit_of_mem_toDigits (by decide) (by decide) hc

/-- A row of zeros is a row of digits. -/
theorem isDigit_of_mem_zeros {zeros : Nat} : ∀ c ∈ List.replicate zeros '0', c.isDigit = true := by
  intro c hc
  rw [List.eq_of_mem_replicate hc]
  rfl

/-- The digits of a positive number do not begin with a zero. -/
theorem head_toDigits_ne_zero {n : Nat} (h : n ≠ 0) : (Nat.toDigits 10 n).head? ≠ some '0' := by
  induction n using Nat.strong_induction_on with
  | _ n ih =>
    by_cases hsmall : n < 10
    · have hdigit : ∀ d < 10, d ≠ 0 → Nat.digitChar d ≠ '0' := by decide
      rw [Nat.toDigits_of_lt_base hsmall, List.head?_cons, ne_eq, Option.some.injEq]
      exact hdigit n hsmall h
    · rw [Nat.toDigits_of_base_le (by decide) (by omega),
        List.head?_append_of_ne_nil _ Nat.toDigits_ne_nil]
      exact ih (n / 10) (by omega) (by omega)

/-- Digits that a whole number may be written with: they begin with a zero only if that is all. -/
structure AreWhole (digits : List Char) : Prop where
  nonempty : digits ≠ []
  isDigit : ∀ c ∈ digits, c.isDigit = true
  zero : digits.head? = some '0' → digits = ['0']

/-- A single zero is a row of whole digits. -/
theorem areWhole_zero : AreWhole ['0'] :=
  ⟨by simp, List.forall_mem_singleton.2 (by decide), fun _ => rfl⟩

/-- So are the digits of any number. -/
theorem areWhole_toDigits (n : Nat) : AreWhole (Nat.toDigits 10 n) := by
  refine ⟨Nat.toDigits_ne_nil, isDigit_of_mem_toDigits, ?_⟩
  intro hzero
  by_cases hn : n = 0
  · rw [hn, Nat.toDigits_zero]
  · exact absurd hzero (head_toDigits_ne_zero hn)

/-! ## The parts of a number -/

/-- The text does not go on with a digit. -/
def EndsDigits (rest : List Char) : Prop :=
  ∀ c, rest.head? = some c → c.isDigit = false

/-- The text goes on with nothing that belongs to a number. -/
def EndsNumber (rest : List Char) : Prop :=
  ∀ c, rest.head? = some c → c.isDigit = false ∧ c ≠ '.' ∧ c ≠ 'e' ∧ c ≠ 'E'

/-- What may follow a number may follow digits. -/
theorem EndsNumber.endsDigits {rest : List Char} (h : EndsNumber rest) : EndsDigits rest :=
  fun c hc => (h c hc).1

/-- Digits end in front of what is no digit. -/
theorem endsDigits_cons {c : Char} (h : c.isDigit = false) (rest : List Char) :
    EndsDigits (c :: rest) := by
  intro first hfirst
  cases hfirst
  exact h

/-- The fraction of a number as it is written. -/
def fractionChars : Option (List Char) → List Char
  | some digits => '.' :: digits
  | none => []

/-- The exponent of a number as it is written. -/
def exponentChars : Option Int → List Char
  | some e => (Binary64.exponentText e).toList
  | none => []

/-- A number as it is written by its parts. -/
def NumberParts.chars (p : NumberParts) : List Char :=
  (Binary64.signText p.negative).toList ++ p.whole ++ fractionChars p.fraction ++
    exponentChars p.exponent

/-- The digits of a number are such as a number may be written with. -/
structure NumberParts.AreWritten (p : NumberParts) : Prop where
  whole : AreWhole p.whole
  fraction : ∀ digits, p.fraction = some digits → digits ≠ [] ∧ ∀ c ∈ digits, c.isDigit = true

section

variable {digits rest : List Char}

/-- Digits are taken off up to their end. -/
theorem splitDigits_append (hdigits : ∀ c ∈ digits, c.isDigit = true) (hrest : EndsDigits rest) :
    splitDigits (digits ++ rest) = (digits, rest) := by
  have hnone : rest.takeWhile Char.isDigit = [] ∧ rest.dropWhile Char.isDigit = rest := by
    cases rest with
    | nil => exact ⟨rfl, rfl⟩
    | cons c rest =>
      have hc := hrest c rfl
      exact ⟨List.takeWhile_cons_of_neg (by simp [hc]), List.dropWhile_cons_of_neg (by simp [hc])⟩
  rw [splitDigits, List.span_eq_takeWhile_dropWhile, List.takeWhile_append_of_pos hdigits,
    List.dropWhile_append_of_pos hdigits, hnone.1, hnone.2, List.append_nil]

/-- Whole digits are taken off up to their end. -/
theorem splitWhole_append (hdigits : AreWhole digits) (hrest : EndsDigits rest) :
    splitWhole (digits ++ rest) = (digits, rest) := by
  obtain ⟨c, more, rfl⟩ := List.exists_cons_of_ne_nil hdigits.nonempty
  unfold splitWhole
  split
  next tail heq =>
    rw [List.cons_append, List.cons.injEq] at heq
    obtain ⟨rfl, rfl⟩ := heq
    have hmore : more = [] := by simpa using hdigits.zero rfl
    rw [hmore]
    rfl
  next => exact splitDigits_append hdigits.isDigit hrest

/-- A fraction, or none, is taken off as it was written. -/
theorem splitFraction_append {fraction : Option (List Char)}
    (hfraction : ∀ digits, fraction = some digits → digits ≠ [] ∧ ∀ c ∈ digits, c.isDigit = true)
    (hrest : EndsDigits rest) (hpoint : rest.head? ≠ some '.') :
    splitFraction (fractionChars fraction ++ rest) = (fraction, rest) := by
  cases fraction with
  | none =>
    rw [fractionChars, List.nil_append]
    unfold splitFraction
    split
    next tail => exact absurd rfl hpoint
    next => rfl
  | some digits =>
    obtain ⟨hne, hdigits⟩ := hfraction digits rfl
    rw [fractionChars, List.cons_append]
    unfold splitFraction
    simp only [splitDigits_append hdigits hrest]

/-- An exponent that is written with its sign is taken off. -/
theorem splitExponent_of_sign (negative : Bool) (hne : digits ≠ [])
    (hdigits : ∀ c ∈ digits, c.isDigit = true) (hrest : EndsDigits rest) :
    splitExponent ('e' :: (if negative then '-' else '+') :: (digits ++ rest)) =
      (some (if negative then -(decimalValue digits : Int) else decimalValue digits), rest) := by
  have hsplit := splitDigits_append hdigits hrest
  obtain ⟨d, more, rfl⟩ := List.exists_cons_of_ne_nil hne
  generalize d :: more ++ rest = input at hsplit ⊢
  cases negative with
  | true => simp [splitExponent, hsplit]
  | false => simp [splitExponent, hsplit]

/-- The digits of an exponent as they are written. -/
def exponentDigits (e : Int) : List Char :=
  List.replicate (2 - (Nat.toDigits 10 e.natAbs).length) '0' ++ Nat.toDigits 10 e.natAbs

/-- The text of an exponent is its mark, its sign and its digits. -/
theorem toList_exponentText (e : Int) :
    (Binary64.exponentText e).toList =
      'e' :: (if decide (e < 0) then '-' else '+') :: exponentDigits e := by
  unfold Binary64.exponentText
  rw [String.toList_append, String.toList_ofList]
  by_cases hnegative : e < 0
  · simp only [hnegative, if_true, decide_true]
    rfl
  · simp only [hnegative, if_false, decide_false]
    rfl

/-- Its digits spell its magnitude. -/
theorem decimalValue_exponentDigits (e : Int) : decimalValue (exponentDigits e) = e.natAbs := by
  rw [exponentDigits, decimalValue_zeros_append, decimalValue_toDigits]

/-- They are digits of ASCII. -/
theorem isDigit_of_mem_exponentDigits (e : Int) : ∀ c ∈ exponentDigits e, c.isDigit = true :=
  List.forall_mem_append.2 ⟨isDigit_of_mem_zeros, isDigit_of_mem_toDigits⟩

/-- An exponent, or none, is taken off as it was written. -/
theorem splitExponent_append (exponent : Option Int) (hrest : EndsNumber rest) :
    splitExponent (exponentChars exponent ++ rest) = (exponent, rest) := by
  cases exponent with
  | none =>
    rw [exponentChars, List.nil_append]
    unfold splitExponent
    split
    next mark tail =>
      have hmark := hrest mark rfl
      rw [if_neg (by simp [hmark.2.2])]
    next => rfl
  | some e =>
    have hne : exponentDigits e ≠ [] := by simp [exponentDigits, Nat.toDigits_ne_nil]
    rw [exponentChars, toList_exponentText, List.cons_append, List.cons_append,
      splitExponent_of_sign _ hne (isDigit_of_mem_exponentDigits e) hrest.endsDigits,
      decimalValue_exponentDigits]
    by_cases hnegative : e < 0
    · simp only [hnegative, decide_true, if_true, Prod.mk.injEq, Option.some.injEq, and_true]
      omega
    · simp only [hnegative, decide_false, Bool.false_eq_true, if_false, Prod.mk.injEq,
        Option.some.injEq, and_true]
      omega

/-- After the sign, which is no part of the digits, the parts of a number are taken one by one. -/
theorem splitNumber_of_whole {unsigned whole afterWhole : List Char}
    (hwhole : splitWhole unsigned = (whole, afterWhole)) (hne : whole ≠ [])
    (hminus : unsigned.head? ≠ some '-') (negative : Bool) :
    splitNumber? ((Binary64.signText negative).toList ++ unsigned) =
      some (⟨negative, whole, (splitFraction afterWhole).1,
        (splitExponent (splitFraction afterWhole).2).1⟩,
        (splitExponent (splitFraction afterWhole).2).2) := by
  obtain ⟨d, more, rfl⟩ := List.exists_cons_of_ne_nil hne
  cases negative with
  | true =>
    have hsigned : (Binary64.signText true).toList ++ unsigned = '-' :: unsigned := rfl
    rw [hsigned]
    simp only [splitNumber?, hwhole]
  | false =>
    have hsigned : (Binary64.signText false).toList ++ unsigned = unsigned := rfl
    rw [hsigned]
    have hunsigned : ∀ tail, unsigned ≠ '-' :: tail := by
      rintro tail rfl
      exact hminus rfl
    simp only [splitNumber?, hwhole]

/-- A number is split into the parts that it is written by. -/
theorem splitNumber_chars {p : NumberParts} (h : p.AreWritten) (hrest : EndsNumber rest) :
    splitNumber? (p.chars ++ rest) = some (p, rest) := by
  obtain ⟨negative, whole, fraction, exponent⟩ := p
  obtain ⟨hwhole, hfraction⟩ := h
  simp only at hwhole hfraction
  have hafter : EndsDigits (exponentChars exponent ++ rest) ∧
      (exponentChars exponent ++ rest).head? ≠ some '.' := by
    cases exponent with
    | none => exact ⟨hrest.endsDigits, fun hpoint => absurd rfl (hrest '.' hpoint).2.1⟩
    | some e =>
      rw [exponentChars, toList_exponentText]
      exact ⟨endsDigits_cons (by decide) _, by simp⟩
  have hbefore : EndsDigits (fractionChars fraction ++ (exponentChars exponent ++ rest)) := by
    cases fraction with
    | none => exact hafter.1
    | some digits => exact endsDigits_cons (by decide) _
  have hdigits := splitWhole_append hwhole hbefore
  have hminus : (whole ++ (fractionChars fraction ++ (exponentChars exponent ++ rest))).head? ≠
      some '-' := by
    rw [List.head?_append_of_ne_nil _ hwhole.nonempty]
    intro hhead
    exact absurd (hwhole.isDigit '-' (List.mem_of_head? hhead)) (by decide)
  have hsplit := splitNumber_of_whole hdigits hwhole.nonempty hminus negative
  rw [splitFraction_append hfraction hafter.1 hafter.2, splitExponent_append exponent hrest]
    at hsplit
  simpa only [NumberParts.chars, List.append_assoc] using hsplit

end

end TokenAudit.Document
