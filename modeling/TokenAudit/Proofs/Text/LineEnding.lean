import Mathlib.Data.List.Basic
import TokenAudit.Text.Lines

/-!
# Lines that end in a carriage return

A text may end its lines by a line feed alone or by a carriage return and a line feed. Putting a
carriage return in front of every line feed can be undone, keeps the number of lines, and appends a
carriage return to every line but the last. A place in the longer text is a place in the shorter
one, unless it falls between a line feed and the carriage return in front of it.
-/

set_option autoImplicit false

namespace TokenAudit.Text

/-- A text with a carriage return put in front of every line feed. -/
def withReturns (text : List Char) : List Char :=
  text.flatMap fun c => if c = '\n' then ['\r', '\n'] else [c]

/-- A text without the carriage return in front of each line feed, as far as there is one. -/
def withoutReturns : List Char → List Char
  | [] => []
  | c :: rest =>
    if c = '\r' ∧ rest.head? = some '\n' then withoutReturns rest else c :: withoutReturns rest

/-- The empty text gets no carriage return. -/
@[simp]
theorem withReturns_nil : withReturns [] = [] := rfl

/-- A line feed gets one in front. -/
@[simp]
theorem withReturns_newline (text : List Char) :
    withReturns ('\n' :: text) = '\r' :: '\n' :: withReturns text := rfl

/-- No other character does. -/
theorem withReturns_cons {c : Char} (hc : c ≠ '\n') (text : List Char) :
    withReturns (c :: text) = c :: withReturns text := by
  simp [withReturns, hc]

/-- Two texts in a row get theirs one after the other. -/
@[simp]
theorem withReturns_append (a b : List Char) :
    withReturns (a ++ b) = withReturns a ++ withReturns b :=
  List.flatMap_append

/-- Only the empty text is empty with carriage returns. -/
theorem withReturns_eq_nil_iff {text : List Char} : withReturns text = [] ↔ text = [] := by
  constructor
  · intro h
    cases text with
    | nil => rfl
    | cons c text =>
      by_cases hc : c = '\n'
      · subst hc
        cases h
      · rw [withReturns_cons hc] at h
        cases h
  · rintro rfl
    rfl

/-- A text without line feeds stays as it is. -/
theorem withReturns_of_not_mem {text : List Char} (h : '\n' ∉ text) : withReturns text = text := by
  induction text with
  | nil => rfl
  | cons c text ih =>
    rw [List.mem_cons, not_or] at h
    rw [withReturns_cons (Ne.symm h.1), ih h.2]

/-- No text with carriage returns begins with a line feed. -/
theorem head?_withReturns_ne (text : List Char) : (withReturns text).head? ≠ some '\n' := by
  cases text with
  | nil => simp
  | cons c text =>
    by_cases hc : c = '\n'
    · subst hc
      simp
    · rw [withReturns_cons hc]
      simpa using hc

/-- It has as many line feeds as before. -/
theorem count_newline_withReturns (text : List Char) :
    (withReturns text).count '\n' = text.count '\n' := by
  induction text with
  | nil => rfl
  | cons c text ih =>
    by_cases hc : c = '\n'
    · subst hc
      simp [ih]
    · rw [withReturns_cons hc, List.count_cons, List.count_cons, ih]

/-- So it has as many lines. -/
@[simp]
theorem lineCount_withReturns (text : List Char) :
    lineCount (withReturns text) = lineCount text := by
  unfold lineCount
  rw [count_newline_withReturns]

/-- Without the carriage returns it is the text again. -/
theorem withoutReturns_withReturns (text : List Char) :
    withoutReturns (withReturns text) = text := by
  induction text with
  | nil => rfl
  | cons c text ih =>
    by_cases hc : c = '\n'
    · subst hc
      simp [withoutReturns, ih]
    · rw [withReturns_cons hc, withoutReturns]
      have hnot : ¬ (c = '\r' ∧ (withReturns text).head? = some '\n') := fun h =>
        head?_withReturns_ne text h.2
      rw [if_neg hnot, ih]

/-- Where the longer text is cut, and not between a carriage return and a line feed, the shorter
text can be cut as well. -/
theorem withReturns_eq_append {text x y : List Char} (h : withReturns text = x ++ y)
    (hcut : x.getLast? ≠ some '\r' ∨ y.head? ≠ some '\n') :
    ∃ u v, text = u ++ v ∧ x = withReturns u ∧ y = withReturns v := by
  have hshorter (d : Char) (z : List Char)
      (hz : (d :: z).getLast? ≠ some '\r' ∨ y.head? ≠ some '\n') :
      z.getLast? ≠ some '\r' ∨ y.head? ≠ some '\n' := by
    refine hz.imp ?_ id
    intro hlast hz
    apply hlast
    simp [List.getLast?_cons, hz]
  induction text generalizing x with
  | nil =>
    obtain ⟨rfl, rfl⟩ := List.append_eq_nil_iff.1 h.symm
    exact ⟨[], [], rfl, rfl, rfl⟩
  | cons c text ih =>
    cases x with
    | nil => exact ⟨[], c :: text, rfl, rfl, h.symm⟩
    | cons d x =>
      by_cases hc : c = '\n'
      · subst hc
        rw [withReturns_newline, List.cons_append] at h
        obtain ⟨rfl, hrest⟩ := List.cons_eq_cons.1 h
        cases x with
        | nil =>
          -- the cut would fall between the carriage return and its line feed
          exfalso
          rw [List.nil_append] at hrest
          rcases hcut with hlast | hhead
          · exact hlast rfl
          · exact hhead (by simp [← hrest])
        | cons e x =>
          obtain ⟨he, htail⟩ := List.cons_eq_cons.1 hrest
          subst he
          obtain ⟨u, v, rfl, rfl, rfl⟩ := ih htail (hshorter _ _ (hshorter _ _ hcut))
          exact ⟨'\n' :: u, v, rfl, rfl, rfl⟩
      · rw [withReturns_cons hc, List.cons_append] at h
        obtain ⟨rfl, htail⟩ := List.cons_eq_cons.1 h
        obtain ⟨u, v, rfl, rfl, rfl⟩ := ih htail (hshorter _ _ hcut)
        exact ⟨c :: u, v, rfl, (withReturns_cons hc u).symm, rfl⟩

/-- A line of the longer text is the line of the shorter one, or else that with a carriage return at
its end. -/
def SameLine (line longer : List Char) : Prop :=
  longer = line ∨ longer = line ++ ['\r']

/-- Its lines are those of the text, up to a carriage return at the end. -/
theorem lines_withReturns (text : List Char) :
    List.Forall₂ SameLine (lines text) (lines (withReturns text)) := by
  unfold lines
  induction text with
  | nil => exact .cons (.inl rfl) .nil
  | cons c text ih =>
    by_cases hc : c = '\n'
    · subst hc
      rw [withReturns_newline]
      simp only [cut_cons, if_true]
      exact .cons (.inr rfl) ih
    · rw [withReturns_cons hc]
      simp only [cut_cons, if_neg hc]
      generalize cut '\n' text = ls at ih
      generalize cut '\n' (withReturns text) = longer at ih
      cases ih with
      | nil => exact .cons (.inl rfl) .nil
      | cons hline hrest =>
        refine .cons ?_ hrest
        rcases hline with rfl | rfl
        · exact .inl rfl
        · exact .inr rfl

end TokenAudit.Text
