/-!
# Tables of code points

A property of characters is held as a sorted array of spans of code points, and a one-to-one
change of characters as a sorted array of shifts. Both are searched by halving, so that a lookup
costs a handful of comparisons even for the longest of the tables.
-/

set_option autoImplicit false

namespace TokenAudit.Text

/-- The code points from `first` to `last`, both included. -/
structure Span where
  first : Nat
  last : Nat

/-- The code points `first, first + stride, …, last`, each of which moves by `offset`. -/
structure Shift where
  first : Nat
  last : Nat
  stride : Nat
  offset : Int

/-- The least index of `[lo, lo + width]` at which `below` fails, for a predicate that holds on an
initial part of that interval. -/
@[specialize]
def boundary (below : Nat → Bool) (lo width : Nat) : Nat :=
  if h : width = 0 then lo
  else
    let half := width / 2
    if below (lo + half) then boundary below (lo + half + 1) (width - half - 1)
    else boundary below lo half
termination_by width

/-- Whether a code point lies in one of the sorted spans. -/
def inSpans (spans : Array Span) (n : Nat) : Bool :=
  match spans[boundary (fun i => spans[i]?.any (·.first ≤ n)) 0 spans.size - 1]? with
  | some s => s.first ≤ n && n ≤ s.last
  | none => false

/-- The code point to which the sorted shifts move `n`; a code point in no shift stays. -/
def moved (shifts : Array Shift) (n : Nat) : Nat :=
  match shifts[boundary (fun i => shifts[i]?.any (·.first ≤ n)) 0 shifts.size - 1]? with
  | some s =>
    if s.first ≤ n && n ≤ s.last && (n - s.first) % s.stride == 0 then (n + s.offset).toNat else n
  | none => n

end TokenAudit.Text
