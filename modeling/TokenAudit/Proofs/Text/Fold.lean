import TokenAudit.Proofs.Text.Case
import TokenAudit.Text.Fold

/-!
# Marks up to letter case

A mark is an ASCII character that is no letter. No other character is equal to a mark when letter
case is ignored: inside ASCII only letters change their case, and the table leads no character
beyond ASCII to a mark.
-/

set_option autoImplicit false

namespace TokenAudit.Text

/-- Whether a character of ASCII is no letter. -/
def isMark (c : Char) : Bool :=
  c.toNat < 128 && !c.isAlpha

/-- What holds of the characters of all small code points holds of ASCII. -/
theorem of_lt_ascii {P : Char → Prop} (h : ∀ n < 128, P (Char.ofNat n)) {c : Char}
    (hc : c.toNat < 128) : P c := by
  have hpoint := h c.toNat hc
  rwa [Char.ofNat_toNat] at hpoint

/-- Marks are characters of ASCII. -/
theorem lt_of_isMark {c : Char} (h : isMark c = true) : c.toNat < 128 := by
  simp only [isMark, Bool.and_eq_true, decide_eq_true_eq] at h
  exact h.1

/-- A mark lies outside of the two runs of letters. -/
theorem toNat_of_isMark {c : Char} (h : isMark c = true) :
    c.toNat ≤ 0x60 ∨ 0x7b ≤ c.toNat ∧ c.toNat ≤ 0x7f := by
  have hlt := lt_of_isMark h
  revert h
  apply of_lt_ascii _ hlt
  decide +kernel

/-! ## The table -/

/-- A shift leads to characters, and to no mark. -/
def Shift.sparesMarks (s : Shift) : Bool :=
  Nat.blt (s.target s.last) 0x110000 && s.avoids 0xd800 0xdfff && s.avoids 0 0x60 &&
    s.avoids 0x7b 0x7f

/-- No shift of the table leads to a mark. -/
theorem foldShifts_spareMarks : ∀ s ∈ foldShifts, s.sparesMarks = true := by
  have h : foldShifts.toList.all Shift.sparesMarks = true := by decide +kernel
  intro s hs
  exact List.all_eq_true.1 h s (Array.mem_toList_iff.2 hs)

/-- Folding a character beyond ASCII leads to no mark. -/
theorem isMark_fold_of_le {c : Char} (h : 128 ≤ c.toNat) : isMark (fold c) = false := by
  rw [Bool.eq_false_iff]
  intro hmark
  have hranges := toNat_of_isMark hmark
  unfold fold at hranges
  rw [if_neg (by omega)] at hranges
  rcases moved_cases foldShifts c.toNat with hstays | ⟨s, hs, hmoves, hmoved⟩
  · rw [hstays, Char.ofNat_toNat] at hranges
    omega
  · have hspares := foldShifts_spareMarks s hs
    simp only [Shift.sparesMarks, Bool.and_eq_true, Nat.blt_eq] at hspares
    obtain ⟨⟨⟨hlimit, hsurrogate⟩, hlow⟩, hhigh⟩ := hspares
    have hlast := hmoves.target_le.2
    have hsurrogate := hmoves.lt_or_lt_of_avoids hsurrogate
    have hlow := hmoves.lt_or_lt_of_avoids hlow
    have hhigh := hmoves.lt_or_lt_of_avoids hhigh
    have hpoint : (Char.ofNat (s.target c.toNat)).toNat = s.target c.toNat := by
      apply Utf8.toNat_ofNat_of_isValidChar
      unfold Nat.isValidChar
      omega
    rw [hmoved, hpoint] at hranges
    omega

/-! ## Characters -/

/-- A mark is its own folded form. -/
theorem fold_of_isMark {c : Char} (h : isMark c = true) : fold c = c := by
  have hlt := lt_of_isMark h
  revert h
  apply of_lt_ascii _ hlt
  decide +kernel

/-- What folds to a mark is the mark. -/
theorem eq_of_isMark_fold {c : Char} (h : isMark (fold c) = true) : fold c = c := by
  rcases Nat.lt_or_ge c.toNat 128 with hlt | hge
  · revert h
    apply of_lt_ascii _ hlt
    decide +kernel
  · rw [isMark_fold_of_le hge] at h
    cases h

/-- A mark is equal, up to letter case, to itself only. -/
theorem fold_eq_fold_iff_of_isMark {c d : Char} (h : isMark c = true) :
    fold d = fold c ↔ d = c := by
  constructor
  · intro heq
    rw [fold_of_isMark h] at heq
    have hd : isMark (fold d) = true := by
      rw [heq]
      exact h
    rw [← eq_of_isMark_fold hd, heq]
  · rintro rfl
    rfl

/-- A text of marks is equal, up to letter case, to itself only. -/
theorem map_fold_eq_iff_of_isMark {marks text : List Char} (h : marks.all isMark = true) :
    text.map fold = marks.map fold ↔ text = marks := by
  induction marks generalizing text with
  | nil => simp
  | cons c marks ih =>
    rw [List.all_cons, Bool.and_eq_true] at h
    cases text with
    | nil => simp
    | cons d text =>
      simp only [List.map_cons, List.cons.injEq, fold_eq_fold_iff_of_isMark h.1, ih h.2]

end TokenAudit.Text
