/-!
# Binary floating-point numbers of double width

A finite number is a sign and a rank: the position of its magnitude in the increasing list of all
magnitudes that double width can represent, `0` first. Every magnitude is a whole number of units of
`2 ^ -1074`, given by `units`; ranks grow with magnitudes, and a rank is even exactly when the last
bit of the significand is zero. Rounding a quotient is therefore a matter of exact natural
arithmetic: find the last rank that is not above it, and compare with the middle of the gap to the
next.
-/

set_option autoImplicit false

namespace TokenAudit

/-- The rank that the first magnitude beyond all finite ones would have. -/
def overflowRank : Nat := 2047 * Nat.pow 2 52

/-- A floating-point number of double width. -/
inductive Binary64 where
  | finite (negative : Bool) (rank : Fin overflowRank)
  | infinite (negative : Bool)
  | nan
  deriving DecidableEq

namespace Binary64

/-- The number of units of `2 ^ -1074` in one. -/
def one : Nat := Nat.pow 2 1074

/-- The magnitude of a rank, in units of `2 ^ -1074`. -/
def units (rank : Nat) : Nat :=
  let level := rank / Nat.pow 2 52
  let fraction := rank % Nat.pow 2 52
  if level = 0 then fraction else (Nat.pow 2 52 + fraction) * Nat.pow 2 (level - 1)

/-- The last rank whose magnitude is at most a whole number of units. -/
def rankBelow (n : Nat) : Nat :=
  let shift := n.log2 - 52
  n / Nat.pow 2 shift + shift * Nat.pow 2 52

/-- The rank nearest to a quotient; of two nearest the even one. -/
def nearestRank (num den : Nat) : Nat :=
  let scaled := num * one
  let low := rankBelow (scaled / den)
  let twice := 2 * scaled
  let middle := (units low + units (low + 1)) * den
  if twice < middle then low
  else if middle < twice then low + 1
  else low + low % 2

/-- The number of a sign and a rank; ranks from the first overflow on give an infinity. -/
def ofRank (negative : Bool) (rank : Nat) : Binary64 :=
  if h : rank < overflowRank then .finite negative ⟨rank, h⟩ else .infinite negative

/-- The number nearest to a quotient of natural numbers, with a sign. -/
def ofRatio (negative : Bool) (num den : Nat) : Binary64 :=
  ofRank negative (nearestRank num den)

/-- The number nearest to a whole number. -/
def ofInt (n : Int) : Binary64 :=
  ofRatio (n < 0) n.natAbs 1

/-- A bound on the number of decimal digits of a natural number, three bits to a digit. -/
def digitBound (n : Nat) : Nat :=
  n.log2 / 3 + 1

/-- The number nearest to `coefficient * 10 ^ exponent`, with a sign. A positive decimal number
that reaches `10 ^ 310` overflows, and one below `10 ^ -400` is nearest to zero, so that no power
beyond these bounds is ever formed. -/
def ofDecimal (negative : Bool) (coefficient : Nat) (exponent : Int) : Binary64 :=
  if coefficient = 0 then .ofRank negative 0
  else if 310 < exponent then .infinite negative
  else if exponent + digitBound coefficient < -400 then .ofRank negative 0
  else ofRatio negative (coefficient * Nat.pow 10 exponent.toNat) (Nat.pow 10 (-exponent).toNat)

/-- Positive zero. -/
def zero : Binary64 := .ofRank false 0

/-- Whether a number is neither infinite nor undefined. -/
def isFinite : Binary64 → Bool
  | .finite _ _ => true
  | _ => false

/-- The place of a number in the order of all numbers; both zeros share theirs, and what is no
number has none. -/
def place? : Binary64 → Option Int
  | .finite negative rank => some (if negative then -(rank.val : Int) else rank.val)
  | .infinite negative => some (if negative then -(overflowRank : Int) else overflowRank)
  | .nan => none

/-- Whether the first number is less than the second; nothing is less or greater than what is no
number. -/
def lt (x y : Binary64) : Bool :=
  match x.place?, y.place? with
  | some a, some b => a < b
  | _, _ => false

/-- A quotient rounded to a whole number; of two nearest the even one. -/
def roundQuotient (num den : Nat) : Nat :=
  let low := num / den
  let twice := 2 * (num % den)
  if twice < den then low
  else if den < twice then low + 1
  else low + low % 2

/-- The number rounded to a count of decimal places. -/
def roundTo (places : Nat) : Binary64 → Binary64
  | .finite negative rank =>
    ofRatio negative (roundQuotient (units rank * Nat.pow 10 places) one) (Nat.pow 10 places)
  | x => x

end Binary64

end TokenAudit
