import Mathlib.Data.List.Forall2
import TokenAudit.Proofs.Text.Fold
import TokenAudit.Text.Blank
import TokenAudit.Text.Lines

/-!
# Texts that differ in the case of letters

Any letters of ASCII in a text may be put into the other case. That changes no character into one
that folding tells from it, makes no white space and takes none away, and moves no line feed, so the
lines of the two texts differ in the case of letters only as well.
-/

set_option autoImplicit false

namespace TokenAudit.Text

/-- The same character, or the same letter of ASCII in either case. -/
def SameLetter (c d : Char) : Prop :=
  d = c ∨ d = c.toLower ∨ d = c.toUpper

/-- The second text is the first one with some letters of ASCII, at any places, in either case. -/
def Recased (text other : List Char) : Prop :=
  List.Forall₂ SameLetter text other

/-- A test of texts that cannot tell letters in either case apart. -/
def IgnoresCase (test : List Char → Bool) : Prop :=
  ∀ text other, Recased text other → test other = test text

instance (c d : Char) : Decidable (SameLetter c d) :=
  inferInstanceAs (Decidable (_ ∨ _ ∨ _))

instance (text other : List Char) : Decidable (Recased text other) :=
  inferInstanceAs (Decidable (List.Forall₂ SameLetter text other))

/-! ## Characters -/

/-- Beyond ASCII no character has another case. -/
theorem SameLetter.eq_of_le {c d : Char} (h : SameLetter c d) (hc : 128 ≤ c.toNat) : d = c := by
  have hsmall : ¬ (c.val ≥ 'a'.val ∧ c.val ≤ 'z'.val) := by
    rintro ⟨-, hlast⟩
    have hlast : c.toNat ≤ 0x7a := hlast
    omega
  rcases h with rfl | rfl | rfl
  · rfl
  · exact toLower_eq_of_not_capital (.inr (by omega))
  · unfold Char.toUpper
    rw [dif_neg hsmall]

/-- What is the same for the characters of ASCII in either case is the same for same letters. -/
theorem SameLetter.congr {α : Type} {f : Char → α}
    (hascii : ∀ n < 128, f (Char.ofNat n).toLower = f (Char.ofNat n) ∧
      f (Char.ofNat n).toUpper = f (Char.ofNat n)) {c d : Char} (h : SameLetter c d) :
    f d = f c := by
  rcases Nat.lt_or_ge c.toNat 128 with hlt | hge
  · have hcases := of_lt_ascii (P := fun c => f c.toLower = f c ∧ f c.toUpper = f c) hascii hlt
    rcases h with rfl | rfl | rfl
    · rfl
    · exact hcases.1
    · exact hcases.2
  · rw [h.eq_of_le hge]

/-- Two cases of a letter have one folded form. -/
theorem SameLetter.fold_eq {c d : Char} (h : SameLetter c d) : fold d = fold c :=
  h.congr (by decide +kernel)

/-- Of same letters either both are a blank or none is. -/
theorem SameLetter.isBlank_eq {c d : Char} (h : SameLetter c d) : isBlank d = isBlank c :=
  h.congr (by decide +kernel)

/-- Of same letters either both are a mark or none is. -/
theorem SameLetter.eq_iff_of_isMark {c d mark : Char} (h : SameLetter c d)
    (hmark : isMark mark = true) : d = mark ↔ c = mark := by
  rw [← fold_eq_fold_iff_of_isMark hmark, h.fold_eq, fold_eq_fold_iff_of_isMark hmark]

/-! ## Texts -/

/-- A text with other letter case is empty exactly when the text is. -/
theorem Recased.eq_nil_iff {text other : List Char} (h : Recased text other) :
    other = [] ↔ text = [] := by
  rw [← List.length_eq_zero_iff, ← List.length_eq_zero_iff, List.Forall₂.length_eq h]

/-- Pieces stay the same up to letter case when such a character is put in front of the first. -/
theorem forall₂_consFirst {c d : Char} {pieces others : List (List Char)} (hcd : SameLetter c d)
    (h : List.Forall₂ Recased pieces others) :
    List.Forall₂ Recased (consFirst c pieces) (consFirst d others) := by
  cases h with
  | nil => exact .cons (.cons hcd .nil) .nil
  | cons hfirst hrest => exact .cons (.cons hcd hfirst) hrest

/-- Texts that differ in the case of letters have lines that do. -/
theorem Recased.lines {text other : List Char} (h : Recased text other) :
    List.Forall₂ Recased (lines text) (lines other) := by
  unfold Text.lines
  induction h with
  | nil => exact .cons .nil .nil
  | @cons c d _ _ hcd _ ih =>
    have hnewline : d = '\n' ↔ c = '\n' := hcd.eq_iff_of_isMark (by decide)
    rw [cut_cons, cut_cons]
    by_cases hc : c = '\n'
    · rw [if_pos hc, if_pos (hnewline.2 hc)]
      exact .cons .nil ih
    · rw [if_neg hc, if_neg (mt hnewline.1 hc)]
      exact forall₂_consFirst hcd ih

end TokenAudit.Text
