import TokenAudit.Binary64.Basic

/-!
# The shortest decimal that reads back

Among the decimal numbers that round to a given magnitude, the one with the fewest digits is chosen,
and of several with that many digits the nearest, an exact tie going to the even digit. For each
number of digits only the two neighbours of the magnitude on the decimal grid need a trial: if any
point of the grid rounds to the magnitude, so does one of them. The grid at last is so fine that the
magnitude lies on it.
-/

set_option autoImplicit false

namespace TokenAudit.Binary64

/-- A decimal number `coefficient * 10 ^ exponent`. -/
structure Decimal where
  coefficient : Nat
  exponent : Int
  deriving DecidableEq

/-- The rank nearest to a decimal number. -/
def Decimal.nearestRank (d : Decimal) : Nat :=
  Binary64.nearestRank (d.coefficient * Nat.pow 10 d.exponent.toNat)
    (Nat.pow 10 (-d.exponent).toNat)

/-- The numerator and denominator of a magnitude in units, divided by `10 ^ exponent`. -/
def scaledDown (magnitude : Nat) (exponent : Int) : Nat × Nat :=
  (magnitude * Nat.pow 10 (-exponent).toNat, one * Nat.pow 10 exponent.toNat)

/-- The least `point` in the range of double width with the magnitude below `10 ^ point`. -/
def decimalPoint (magnitude : Nat) : Int :=
  match (List.range 633).find? fun (i : Nat) =>
    let (num, den) := scaledDown magnitude ((i : Int) - 323)
    num < den
  with
  | some i => (i : Int) - 323
  | none => 310

/-- The neighbour of the rank's magnitude on the grid of `10 ^ exponent` that reads back, if one of
the two does: the nearer is tried first. -/
def neighbour? (rank : Nat) (exponent : Int) : Option Decimal :=
  let (num, den) := scaledDown (units rank) exponent
  let nearer := roundQuotient num den
  let further := if nearer = num / den then nearer + 1 else num / den
  let ordered : List Decimal := [⟨nearer, exponent⟩, ⟨further, exponent⟩]
  ordered.find? fun d => d.nearestRank = rank

/-- The shortest decimal number that rounds to the rank's magnitude. -/
def shortest (rank : Nat) : Decimal :=
  if rank = 0 then ⟨0, 0⟩
  else
    let point := decimalPoint (units rank)
    let finest := (point + 1074).toNat
    ((List.range (finest + 1)).findSome? fun (i : Nat) => neighbour? rank (point - 1 - i)).getD
      ⟨units rank * Nat.pow 5 1074, -1074⟩

end TokenAudit.Binary64
