/-!
# Grades of severity and risk

Findings and tokens are graded on one scale of three steps. Main statement: raising a grade gives
the least grade above both.
-/

set_option autoImplicit false

namespace TokenAudit

/-- A grade of severity or risk. -/
inductive Grade where
  | low
  | medium
  | high
  deriving DecidableEq

namespace Grade

/-- The position of a grade on the scale. -/
def rank : Grade → Nat
  | low => 1
  | medium => 2
  | high => 3

instance : LE Grade := ⟨fun a b => a.rank ≤ b.rank⟩

instance (a b : Grade) : Decidable (a ≤ b) := inferInstanceAs (Decidable (a.rank ≤ b.rank))

/-- The grades from the highest to the lowest. -/
def descending : List Grade := [high, medium, low]

/-- The grade in small letters. -/
def label : Grade → String
  | low => "low"
  | medium => "medium"
  | high => "high"

/-- The grade in capitals. -/
def heading : Grade → String
  | low => "LOW"
  | medium => "MEDIUM"
  | high => "HIGH"

/-- The grade of a label. -/
def ofLabel? (s : String) : Option Grade :=
  descending.find? (·.label == s)

/-- The first grade, raised to the second if that is higher. -/
def atLeast (a b : Grade) : Grade :=
  if a ≤ b then b else a

/-- Every grade is below itself. -/
theorem le_refl (a : Grade) : a ≤ a := Nat.le_refl a.rank

/-- A grade below a second is below every grade above the second. -/
theorem le_trans {a b c : Grade} (hab : a ≤ b) (hbc : b ≤ c) : a ≤ c := Nat.le_trans hab hbc

/-- The lowest grade is below all. -/
theorem low_le (a : Grade) : low ≤ a := by
  cases a <;> decide

/-- The highest grade is above all. -/
theorem le_high (a : Grade) : a ≤ high := by
  cases a <;> decide

/-- Only the highest grade is above the highest. -/
theorem eq_high_of_le {a : Grade} (h : high ≤ a) : a = high := by
  cases a with
  | low => exact absurd h (by decide)
  | medium => exact absurd h (by decide)
  | high => rfl

/-- Raising gives the least grade above both. -/
theorem atLeast_le_iff {a b g : Grade} : a.atLeast b ≤ g ↔ a ≤ g ∧ b ≤ g := by
  cases a <;> cases b <;> cases g <;> decide

end Grade

end TokenAudit
