import TokenAudit.Proofs.Binary64.Nearest
import TokenAudit.Proofs.Document.NumberText
import TokenAudit.Proofs.Signal.Numeral

/-!
# The percentage of a text

A text is refused as a percentage exactly when no number starts after its white space and its sign.
Otherwise it gives the floating-point number nearest to what its longest numeral writes. So nothing
that follows the numeral counts, and a whole number that is written out gives what the number itself
gives.
-/

set_option autoImplicit false

namespace TokenAudit

/-! ## What a text gives -/

/-- The number is nearest to the decimal number that the longest numeral of a text writes, after
white space. -/
def Binary64.NearestToNumeral (x : Binary64) (text : List Char) : Prop :=
  ∃ numeral p, LongestNumeral (text.dropWhile Text.isBlank) numeral p ∧
    x.NearestTo p.negative (writtenNumber (p.whole ++ p.fraction))
      (Nat.pow 10 p.fraction.length)

variable {content suffix : RawText} {x : Binary64}

/-- The value of a numeral is the number nearest to what it writes. -/
theorem NumericPrefix.value_eq_iff {p : NumericPrefix} :
    p.value = x ↔ x.NearestTo p.negative (writtenNumber (p.whole ++ p.fraction))
      (Nat.pow 10 p.fraction.length) := by
  rw [Binary64.nearestTo_iff (Binary64.pow_ten_pos _), value, digitsValue_eq]

/-- A text has an amount exactly when that is nearest to the numeral it begins with. -/
theorem textAmount?_eq_some_iff :
    textAmount? content = some x ↔ x.NearestToNumeral content.chars := by
  rw [textAmount?, Option.map_eq_some_iff, Binary64.NearestToNumeral]
  constructor
  · rintro ⟨p, hp, hvalue⟩
    obtain ⟨numeral, hnumeral⟩ := numericPrefix?_eq_some_iff_longest.1 hp
    exact ⟨numeral, p, hnumeral, NumericPrefix.value_eq_iff.1 hvalue⟩
  · rintro ⟨numeral, p, hnumeral, hnearest⟩
    exact ⟨p, numericPrefix?_eq_some_iff_longest.2 ⟨numeral, hnumeral⟩,
      NumericPrefix.value_eq_iff.2 hnearest⟩

/-- It has none exactly when it begins with no number, behind blanks and a sign. -/
theorem textAmount?_eq_none_iff :
    textAmount? content = none ↔
      ¬ StartsNumber (dropSign (content.chars.dropWhile Text.isBlank)) := by
  rw [textAmount?, Option.map_eq_none_iff, numericPrefix?_eq_none_iff]

/-- A value that is a text has the amount of the text. -/
theorem Datum.amount_text_eq_ok_iff :
    (Datum.text content).amount = .ok x ↔ textAmount? content = some x := by
  cases h : textAmount? content with
  | none => simp [Datum.amount, h]
  | some y => simp [Datum.amount, h]

/-- It is refused exactly when the text has none. -/
theorem Datum.amount_text_eq_refused_iff :
    (Datum.text content).amount = .error (.noNumber content) ↔ textAmount? content = none := by
  cases h : textAmount? content with
  | none => simp [Datum.amount, h]
  | some y => simp [Datum.amount, h]

/-! ## Suffixes -/

/-- A text that gives a number is not white space alone. -/
theorem ne_nil_of_textAmount? (h : textAmount? content = some x) :
    content.chars.dropWhile Text.isBlank ≠ [] := by
  intro hblank
  have hnone : ¬ StartsNumber (dropSign (content.chars.dropWhile Text.isBlank)) := by
    rw [hblank]
    rintro ⟨c, rest, -, hc | hc⟩
    · cases hc
    · cases hc
  rw [textAmount?_eq_none_iff.2 hnone] at h
  cases h

/-- A suffix that goes on with neither a digit nor a point changes nothing, unless there is only
white space before it. -/
theorem textAmount?_append (hsuffix : EndsNumeral suffix.chars)
    (hne : content.chars.dropWhile Text.isBlank ≠ []) :
    textAmount? (content ++ suffix) = textAmount? content := by
  rw [textAmount?, textAmount?, RawText.chars_append, numericPrefix?_append hsuffix hne]

/-! ## Whole numbers -/

/-- The digits of ASCII have their own value, and are no blanks. -/
theorem isDigit_of_ascii {c : Char} (h : c.isDigit = true) :
    Text.digitValue? c = some (c.toNat - '0'.toNat) ∧ Text.isBlank c = false := by
  have hrange : '0' ≤ c ∧ c ≤ '9' := by
    simpa [Char.isDigit, Char.le_def, UInt32.le_iff_toNat_le] using h
  have hlow : 48 ≤ c.toNat := UInt32.le_iff_toNat_le.1 hrange.1
  have hhigh : c.toNat ≤ 57 := UInt32.le_iff_toNat_le.1 hrange.2
  constructor
  · rw [Text.digitValue?, if_pos hrange]
  · have hsmall : c.toNat < 128 := by omega
    simp only [Text.isBlank, hsmall, if_true, Bool.or_eq_false_iff, Bool.and_eq_false_iff,
      beq_eq_false_iff_ne, decide_eq_false_iff_not]
    omega

/-- The digits of a natural number write it. -/
theorem writtenNumber_toDigits (n : Nat) : writtenNumber (Nat.toDigits 10 n) = n := by
  have hvalues : (Nat.toDigits 10 n).map (fun c => (Text.digitValue? c).getD 0) =
      (Nat.toDigits 10 n).map (fun c => c.toNat - '0'.toNat) := by
    apply List.map_congr_left
    intro c hc
    rw [(isDigit_of_ascii (Document.isDigit_of_mem_toDigits c hc)).1]
    rfl
  rw [← digitsValue_eq, digitsValue, hvalues]
  exact Document.decimalValue_toDigits n

/-- A whole number that is written out is a numeral of it. -/
theorem writtenBy_toString (n : Int) :
    NumericPrefix.WrittenBy ⟨decide (n < 0), Nat.toDigits 10 n.natAbs, []⟩ (toString n).toList := by
  rw [Document.toList_toString_int]
  refine ⟨_, _, rfl, ?_, .whole Nat.toDigits_ne_nil ?_⟩
  · cases decide (n < 0) with
    | true => exact .minus
    | false => exact .absent
  · intro c hc
    rw [Text.isDigit, (isDigit_of_ascii (Document.isDigit_of_mem_toDigits c hc)).1]
    rfl

/-- A whole number is written without blanks in front. -/
theorem dropWhile_toString (n : Int) :
    (toString n).toList.dropWhile Text.isBlank = (toString n).toList := by
  rw [Document.toList_toString_int]
  cases decide (n < 0) with
  | true => rfl
  | false =>
    have hunsigned : (Binary64.signText false).toList = [] := rfl
    obtain ⟨c, digits, hdigits⟩ := List.exists_cons_of_ne_nil (Nat.toDigits_ne_nil (n := n.natAbs))
    have hmem : c ∈ Nat.toDigits 10 n.natAbs := by
      rw [hdigits]
      exact List.mem_cons_self
    have hblank := (isDigit_of_ascii (Document.isDigit_of_mem_toDigits c hmem)).2
    rw [hunsigned, hdigits, List.nil_append, List.dropWhile_cons_of_neg (by simp [hblank])]

/-- A whole number that is written out, with a suffix that does not go on with it, gives what the
number rounds to. -/
theorem textAmount?_toString (n : Int) (hsuffix : EndsNumeral suffix.chars) :
    textAmount? (RawText.ofString (toString n) ++ suffix) = some (.ofInt n) := by
  have hchars := RawText.chars_ofString (toString n)
  have hne : (RawText.ofString (toString n)).chars.dropWhile Text.isBlank ≠ [] := by
    rw [hchars, dropWhile_toString, Document.toList_toString_int]
    simp [Nat.toDigits_ne_nil]
  rw [textAmount?_append hsuffix hne, textAmount?, hchars,
    numericPrefix?_of_writtenBy (writtenBy_toString n) (dropWhile_toString n), Option.map_some,
    NumericPrefix.value, digitsValue_eq, List.append_nil, writtenNumber_toDigits]
  rfl

/-- What a text gives as a percentage, exactly: it is refused when no number starts after its white
space and its sign, and gives the number nearest to its longest numeral otherwise. A suffix that
goes on with neither a digit nor a point changes neither a number that is given nor, unless there is
only white space before it, a refusal; after a whole number that is written out such a suffix leaves
what the number itself gives. -/
theorem text_percentage_exact (content : RawText) :
    ((Datum.text content).amount = .error (.noNumber content) ↔
        ¬ StartsNumber (dropSign (content.chars.dropWhile Text.isBlank))) ∧
      (StartsNumber (dropSign (content.chars.dropWhile Text.isBlank)) →
        ∃ x, (Datum.text content).amount = .ok x) ∧
      (∀ x, (Datum.text content).amount = .ok x ↔ x.NearestToNumeral content.chars) ∧
      (∀ suffix : RawText, EndsNumeral suffix.chars →
        (∀ x, (Datum.text content).amount = .ok x →
          (Datum.text (content ++ suffix)).amount = .ok x) ∧
        (content.chars.dropWhile Text.isBlank ≠ [] →
          (Datum.text content).amount = .error (.noNumber content) →
          (Datum.text (content ++ suffix)).amount = .error (.noNumber (content ++ suffix)))) ∧
      ∀ (n : Int) (x : Binary64) (suffix : RawText), (Datum.int n).amount = .ok x →
        EndsNumeral suffix.chars →
          (Datum.text (RawText.ofString (toString n) ++ suffix)).amount = .ok x := by
  simp only [Datum.amount_text_eq_ok_iff, Datum.amount_text_eq_refused_iff]
  refine ⟨textAmount?_eq_none_iff, ?_, fun x => textAmount?_eq_some_iff, ?_, ?_⟩
  · intro hstarts
    rw [← Option.ne_none_iff_exists', Ne, textAmount?_eq_none_iff]
    exact not_not.2 hstarts
  · intro suffix hsuffix
    constructor
    · intro x hx
      rw [textAmount?_append hsuffix (ne_nil_of_textAmount? hx), hx]
    · intro hne hnone
      rw [textAmount?_append hsuffix hne, hnone]
  · intro n x suffix hx hsuffix
    have hrounded : x = .ofInt n := by
      unfold Datum.amount at hx
      simp only at hx
      split at hx
      · cases hx
        rfl
      · cases hx
    rw [hrounded]
    exact textAmount?_toString n hsuffix

/-- White space, a sign and digits of two scripts, with more than one point. -/
def mixedDigits : RawText := (" -\u0660\u0667.5.1" : String)

/-- Only the first point counts, whatever follows, and a whole number may be followed by a sign. -/
theorem text_percentage_exact_mixedDigits :
    StartsNumber (dropSign (mixedDigits.chars.dropWhile Text.isBlank)) ∧
      (Datum.text mixedDigits).amount = .ok (.ofRatio true 15 2) ∧
      (Binary64.ofRatio true 15 2).NearestToNumeral mixedDigits.chars ∧
      EndsNumeral (RawText.ofString "% + 3").chars ∧
      (Datum.text (mixedDigits ++ RawText.ofString "% + 3")).amount = .ok (.ofRatio true 15 2) ∧
      (Datum.int (-12)).amount = .ok (.ofInt (-12)) ∧
      (Datum.text (RawText.ofString (toString (-12 : Int)) ++ RawText.ofString "% + 3")).amount =
        .ok (.ofInt (-12)) ∧
      (Datum.text (RawText.ofString "+")).amount = .error (.noNumber (RawText.ofString "+")) ∧
      (Datum.text (RawText.ofString "+" ++ RawText.ofString "% + 3")).amount =
        .error (.noNumber (RawText.ofString "+" ++ RawText.ofString "% + 3")) := by
  obtain ⟨-, -, hnearest, hsuffix, hwhole⟩ := text_percentage_exact mixedDigits
  obtain ⟨hrefused, -, -, hkept, -⟩ := text_percentage_exact (RawText.ofString "+")
  have hstarts : StartsNumber (dropSign (mixedDigits.chars.dropWhile Text.isBlank)) :=
    ⟨'\u0660', "\u0667.5.1".toList, by decide +kernel, .inl (by decide +kernel)⟩
  have hamount : (Datum.text mixedDigits).amount = .ok (.ofRatio true 15 2) := by decide +kernel
  have hends : EndsNumeral (RawText.ofString "% + 3").chars := by
    intro c hc
    have hpercent : c = '%' := by
      have hhead : (RawText.ofString "% + 3").chars.head? = some '%' := by decide +kernel
      exact (Option.some.inj (hhead.symm.trans hc)).symm
    rw [hpercent]
    decide
  have hint : (Datum.int (-12)).amount = .ok (.ofInt (-12)) := by decide +kernel
  have hsign : (Datum.text (RawText.ofString "+")).amount =
      .error (.noNumber (RawText.ofString "+")) := by decide +kernel
  exact ⟨hstarts, hamount, (hnearest _).1 hamount, hends, (hsuffix _ hends).1 _ hamount, hint,
    hwhole _ _ _ hint hends, hsign, (hkept _ hends).2 (by decide +kernel) hsign⟩

end TokenAudit
