import TokenAudit.Grade

/-!
# Findings and their score

A finding is one hit of a rule in one source. Each severity has a weight; a list of findings is
scored by the sum of the weights, cut off at one hundred, and tallied by severity. Main statements:
the score is at most one hundred and does not depend on the order of findings.
-/

set_option autoImplicit false

namespace TokenAudit

/-- One hit of a rule. -/
structure Finding where
  id : String
  ruleKey : String
  name : String
  description : String
  severity : Grade
  solution : String
  line : Option Int
  deriving DecidableEq

/-- Named counts, in the order in which they are shown. -/
abbrev Tally := List (String × Int)

namespace Tally

/-- The count under a name; a name that is not listed counts nothing. -/
def count (t : Tally) (name : String) : Int :=
  (t.lookup name).getD 0

/-- Sets the count under a name, in its place if it is listed and at the end if not. -/
def set (t : Tally) (name : String) (n : Int) : Tally :=
  if t.any (·.1 == name) then t.map fun e => if e.1 == name then (name, n) else e
  else t ++ [(name, n)]

/-- Counts one more under a name. -/
def increment (t : Tally) (name : String) : Tally :=
  t.set name (t.count name + 1)

/-- Collects pairs of names and counts: a repeated name keeps its first place and its last
count. -/
def ofPairs (pairs : List (String × Int)) : Tally :=
  pairs.foldl (fun t p => t.set p.1 p.2) []

end Tally

/-- The weight of a severity. -/
def Grade.weight : Grade → Nat
  | .high => 25
  | .medium => 10
  | .low => 3

/-- The highest score. -/
def maxScore : Nat := 100

/-- The sum of the weights of a list of findings. -/
def totalWeight (findings : List Finding) : Nat :=
  findings.foldr (fun f total => f.severity.weight + total) 0

/-- The score of a list of findings. -/
def score (findings : List Finding) : Nat :=
  min maxScore (totalWeight findings)

/-- The number of findings of a severity. -/
def countOf (severity : Grade) (findings : List Finding) : Nat :=
  findings.countP (·.severity = severity)

/-- The numbers of findings of each severity, highest first. -/
def severityTally (findings : List Finding) : Tally :=
  Grade.descending.map fun g => (g.label, (countOf g findings : Int))

/-- No score exceeds the highest. -/
theorem score_le (findings : List Finding) : score findings ≤ maxScore :=
  Nat.min_le_left _ _

/-- The order of findings does not change the sum of their weights. -/
theorem totalWeight_perm {xs ys : List Finding} (h : xs.Perm ys) :
    totalWeight xs = totalWeight ys := by
  induction h with
  | nil => rfl
  | cons f _ ih => exact congrArg (f.severity.weight + ·) ih
  | swap f g rest =>
    simp only [totalWeight, List.foldr_cons]
    omega
  | trans _ _ first second => rw [first, second]

/-- The order of findings does not change their score. -/
theorem score_perm {xs ys : List Finding} (h : xs.Perm ys) : score xs = score ys := by
  unfold score
  rw [totalWeight_perm h]

end TokenAudit
