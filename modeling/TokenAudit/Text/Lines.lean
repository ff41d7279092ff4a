/-!
# Cutting a text

A text is cut at each occurrence of a separator and at nothing else, so a text with `n` separators
gives `n + 1` pieces, the empty text one. The lines of a text are its pieces between line feeds.
Main statement: the number of pieces is one more than the number of separators.
-/

set_option autoImplicit false

namespace TokenAudit.Text

/-- Puts a character in front of the first piece. -/
def consFirst (c : Char) : List (List Char) → List (List Char)
  | [] => [[c]]
  | piece :: rest => (c :: piece) :: rest

/-- The pieces of a text between separators. -/
def cut (separator : Char) (text : List Char) : List (List Char) :=
  text.foldr (fun c rest => if c = separator then [] :: rest else consFirst c rest) [[]]

/-- The lines of a text. -/
def lines (text : List Char) : List (List Char) :=
  cut '\n' text

/-- The number of lines of a text. -/
def lineCount (text : List Char) : Nat :=
  text.count '\n' + 1

/-- The empty text is one empty piece. -/
@[simp]
theorem cut_nil (separator : Char) : cut separator [] = [[]] := rfl

/-- A separator in front begins a new piece; another character joins the first. -/
@[simp]
theorem cut_cons (separator c : Char) (text : List Char) :
    cut separator (c :: text) =
      if c = separator then [] :: cut separator text else consFirst c (cut separator text) := rfl

/-- No text is without pieces. -/
theorem cut_ne_nil (separator : Char) (text : List Char) : cut separator text ≠ [] := by
  cases text with
  | nil => simp
  | cons c text =>
    rw [cut_cons]
    split
    · simp
    · cases cut separator text <;> simp [consFirst]

/-- A character put in front of the first piece adds no piece where there is one. -/
theorem length_consFirst (c : Char) {pieces : List (List Char)} (h : pieces ≠ []) :
    (consFirst c pieces).length = pieces.length := by
  cases pieces with
  | nil => exact absurd rfl h
  | cons piece rest => rfl

/-- The number of pieces is one more than the number of separators. -/
theorem length_cut (separator : Char) (text : List Char) :
    (cut separator text).length = text.count separator + 1 := by
  induction text with
  | nil => rfl
  | cons c text ih =>
    rw [cut_cons]
    split
    · next h => simp [h, ih]
    · next h =>
      rw [length_consFirst c (cut_ne_nil separator text), ih]
      simp [h]

/-- The number of lines is one more than the number of line feeds. -/
theorem length_lines (text : List Char) : (lines text).length = lineCount text :=
  length_cut '\n' text

end TokenAudit.Text
