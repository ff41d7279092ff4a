import TokenAudit.Binary64.Basic

/-!
# The order of floating-point numbers

Numbers are compared by their places; what is no number stands in no relation to anything, itself
included. Strict and weak comparison compose as they do on whole numbers.
-/

set_option autoImplicit false

namespace TokenAudit.Binary64

/-- Whether the first number is at most the second; nothing is above or below what is no number. -/
def le (x y : Binary64) : Bool :=
  match x.place?, y.place? with
  | some a, some b => a ≤ b
  | _, _ => false

/-- One number is less than another when both have places, in that order. -/
theorem lt_iff {x y : Binary64} :
    x.lt y = true ↔ ∃ a b, x.place? = some a ∧ y.place? = some b ∧ a < b := by
  unfold lt
  cases x.place? <;> cases y.place? <;> simp

/-- One number is at most another when both have places, in that order. -/
theorem le_iff {x y : Binary64} :
    x.le y = true ↔ ∃ a b, x.place? = some a ∧ y.place? = some b ∧ a ≤ b := by
  unfold le
  cases x.place? <;> cases y.place? <;> simp

/-- What lies above a number lies above all that is less than it. -/
theorem lt_of_lt_of_le {x y z : Binary64} (hxy : x.lt y = true) (hyz : y.le z = true) :
    x.lt z = true := by
  obtain ⟨a, b, hx, hy, hab⟩ := lt_iff.1 hxy
  obtain ⟨b', c, hy', hz, hbc⟩ := le_iff.1 hyz
  have hb : b = b' := Option.some.inj (hy.symm.trans hy')
  exact lt_iff.2 ⟨a, c, hx, hz, by omega⟩

/-- What lies below a number lies below all that is greater than it. -/
theorem lt_of_le_of_lt {x y z : Binary64} (hxy : x.le y = true) (hyz : y.lt z = true) :
    x.lt z = true := by
  obtain ⟨a, b, hx, hy, hab⟩ := le_iff.1 hxy
  obtain ⟨b', c, hy', hz, hbc⟩ := lt_iff.1 hyz
  have hb : b = b' := Option.some.inj (hy.symm.trans hy')
  exact lt_iff.2 ⟨a, c, hx, hz, by omega⟩

/-- Every number has a place, its own. -/
theorem le_self_of_ne_nan {x : Binary64} (h : x ≠ .nan) : x.le x = true := by
  cases x with
  | finite negative rank => simp [le, place?]
  | infinite negative => simp [le, place?]
  | nan => exact absurd rfl h

/-- A rounded quotient is a number. -/
theorem ofRatio_ne_nan (negative : Bool) (num den : Nat) : ofRatio negative num den ≠ .nan := by
  unfold ofRatio ofRank
  split <;> simp

end TokenAudit.Binary64
