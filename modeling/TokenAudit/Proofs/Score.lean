import TokenAudit.Finding

/-!
# The score as a saturating sum

The weights of findings add up, and their sum is cut off once, at the end. Cutting off the parts
first changes nothing, so the score of joined lists is the cut off sum of their scores: it does not
depend on the order of findings and never falls when findings are added. The tally is what counting
the findings one after the other under the names of their severities comes to, so the score can be
read off its three entries.
-/

set_option autoImplicit false

namespace TokenAudit

variable {xs ys : List Finding}

/-! ## Counts by severity -/

/-- One finding more adds one to the number of its severity. -/
theorem countOf_cons (g : Grade) (f : Finding) (findings : List Finding) :
    countOf g (f :: findings) = countOf g findings + if f.severity = g then 1 else 0 := by
  simp [countOf, List.countP_cons]

/-- The tally by severity counts the findings of each. -/
theorem count_severityTally (g : Grade) (findings : List Finding) :
    (severityTally findings).count g.label = countOf g findings := by
  cases g <;> rfl

/-- It has an entry for each severity, from the highest on. -/
theorem severityTally_eq (findings : List Finding) :
    severityTally findings = [("high", (countOf .high findings : Int)),
      ("medium", (countOf .medium findings : Int)), ("low", (countOf .low findings : Int))] := rfl

/-- The numbers of findings of each severity, highest first, under names for the severities. -/
def tallyUnder (name : Grade → String) (findings : List Finding) : Tally :=
  Grade.descending.map fun g => (name g, (countOf g findings : Int))

/-- A tally counts the findings of a severity under its name. -/
theorem count_tallyUnder {name : Grade → String} (hname : ∀ a b, name a = name b → a = b)
    (g : Grade) (findings : List Finding) :
    (tallyUnder name findings).count (name g) = countOf g findings := by
  have hother {a : Grade} (h : g ≠ a) : (name g == name a) = false :=
    beq_false_of_ne fun heq => h (hname g a heq)
  unfold Tally.count tallyUnder Grade.descending
  simp only [List.map_cons, List.map_nil, List.lookup_cons]
  cases g with
  | high => simp
  | medium => simp [hother]
  | low => simp [hother]

/-- Counting one more finding under the name of its severity adds it to the tally. -/
theorem increment_tallyUnder {name : Grade → String} (hname : ∀ a b, name a = name b → a = b)
    (f : Finding) (findings : List Finding) :
    (tallyUnder name findings).increment (name f.severity) = tallyUnder name (f :: findings) := by
  have hother {a : Grade} (h : f.severity ≠ a) : name a ≠ name f.severity :=
    fun heq => h (hname a f.severity heq).symm
  unfold Tally.increment
  rw [count_tallyUnder hname]
  unfold Tally.set tallyUnder Grade.descending
  simp only [countOf_cons]
  generalize f.severity = g at hother
  cases g with
  | low => simp [hother]
  | medium => simp [hother]
  | high => simp [hother]

/-- The order of findings does not change their tally. -/
theorem tallyUnder_perm (name : Grade → String) (h : xs.Perm ys) :
    tallyUnder name xs = tallyUnder name ys := by
  unfold tallyUnder countOf
  simp only [h.countP_eq]

/-- Findings that are counted one after the other add up to the tally. -/
theorem foldl_increment_tallyUnder {name : Grade → String}
    (hname : ∀ a b, name a = name b → a = b) (xs ys : List Finding) :
    ys.foldl (fun t f => t.increment (name f.severity)) (tallyUnder name xs) =
      tallyUnder name (xs ++ ys) := by
  induction ys generalizing xs with
  | nil => simp
  | cons f ys ih =>
    rw [List.foldl_cons, increment_tallyUnder hname, ih]
    exact tallyUnder_perm name List.perm_middle.symm

/-- Counts one more finding under the name of its severity. -/
def Tally.countIn (t : Tally) (f : Finding) : Tally :=
  t.increment f.severity.label

/-- Every finding has one of the three severities. -/
theorem length_eq_countOf (findings : List Finding) :
    findings.length = countOf .high findings + countOf .medium findings +
      countOf .low findings := by
  induction findings with
  | nil => rfl
  | cons f findings ih =>
    simp only [countOf_cons, List.length_cons]
    cases f.severity with
    | low => simp; omega
    | medium => simp; omega
    | high => simp; omega

/-! ## Sums of weights -/

/-- No findings weigh nothing. -/
@[simp]
theorem totalWeight_nil : totalWeight [] = 0 := rfl

/-- A finding adds its own weight. -/
@[simp]
theorem totalWeight_cons (f : Finding) (findings : List Finding) :
    totalWeight (f :: findings) = f.severity.weight + totalWeight findings := rfl

/-- The weights of two lists add up. -/
theorem totalWeight_append (xs ys : List Finding) :
    totalWeight (xs ++ ys) = totalWeight xs + totalWeight ys := by
  induction xs with
  | nil => simp
  | cons f xs ih =>
    rw [List.cons_append, totalWeight_cons, totalWeight_cons, ih]
    omega

/-- Fewer findings weigh no more. -/
theorem totalWeight_le_of_sublist (h : xs.Sublist ys) : totalWeight xs ≤ totalWeight ys := by
  induction h with
  | slnil => exact Nat.le_refl _
  | cons f _ ih =>
    rw [totalWeight_cons]
    omega
  | cons_cons f _ ih =>
    rw [totalWeight_cons, totalWeight_cons]
    omega

/-- The weights are those of the counted findings. -/
theorem totalWeight_eq (findings : List Finding) :
    totalWeight findings = 25 * countOf .high findings + 10 * countOf .medium findings +
      3 * countOf .low findings := by
  induction findings with
  | nil => rfl
  | cons f findings ih =>
    simp only [totalWeight_cons, countOf_cons, ih]
    cases f.severity with
    | low => simp [Grade.weight]; omega
    | medium => simp [Grade.weight]; omega
    | high => simp [Grade.weight]; omega

/-! ## Scores -/

/-- The score of joined lists is the cut off sum of their scores. -/
theorem score_append (xs ys : List Finding) :
    score (xs ++ ys) = min maxScore (score xs + score ys) := by
  unfold score
  rw [totalWeight_append]
  omega

/-- So they score no more. -/
theorem score_le_of_sublist (h : xs.Sublist ys) : score xs ≤ score ys := by
  have hweight := totalWeight_le_of_sublist h
  unfold score
  omega

/-- The score is the weighted number of findings, up to a hundred. -/
theorem score_eq_of_counts (findings : List Finding) :
    score findings = min 100 (25 * countOf .high findings + 10 * countOf .medium findings +
      3 * countOf .low findings) := by
  rw [score, totalWeight_eq]
  rfl

/-- The score is a sum that saturates at one hundred: it is additive up to that, does not depend on
the order of findings, and does not fall when findings are added at whatever places. It can be read
off the tally, which always has the three severities for its keys, and counts every finding once and
under its own. -/
theorem score_saturates :
    (∀ xs ys : List Finding, score (xs ++ ys) = min 100 (score xs + score ys)) ∧
    (∀ xs ys : List Finding, xs.Perm ys → score xs = score ys) ∧
    (∀ xs ys : List Finding, xs.Sublist ys → score xs ≤ score ys) ∧
    ∀ findings : List Finding, 0 ≤ score findings ∧ score findings ≤ 100 ∧
      severityTally findings =
        findings.foldl Tally.countIn [("high", 0), ("medium", 0), ("low", 0)] ∧
      severityTally findings = [("high", (countOf .high findings : Int)),
        ("medium", (countOf .medium findings : Int)), ("low", (countOf .low findings : Int))] ∧
      countOf .high findings + countOf .medium findings + countOf .low findings =
        findings.length ∧
      score findings = min 100 (25 * countOf .high findings + 10 * countOf .medium findings +
        3 * countOf .low findings) := by
  refine ⟨score_append, fun _ _ => score_perm, fun _ _ => score_le_of_sublist, ?_⟩
  intro findings
  have hlength := length_eq_countOf findings
  have hlabel : ∀ a b : Grade, a.label = b.label → a = b := by
    intro a b
    cases a <;> cases b <;> decide
  have hcounted : findings.foldl Tally.countIn (tallyUnder Grade.label []) =
      tallyUnder Grade.label findings := foldl_increment_tallyUnder hlabel [] findings
  exact ⟨Nat.zero_le _, score_le findings, hcounted.symm, severityTally_eq findings, hlength.symm,
    score_eq_of_counts findings⟩

/-- A finding of a severity. -/
def plainFinding (g : Grade) : Finding :=
  { id := "V-x-0", ruleKey := "x", name := "X", description := "d", severity := g, solution := "s",
    line := none }

/-- Three severe findings and two milder ones, scored together, in either order, and twice. -/
theorem score_saturates_mixed :
    let severe := [plainFinding .high, plainFinding .high, plainFinding .high]
    let milder := [plainFinding .low, plainFinding .medium]
    score (severe ++ milder) = 75 + 13 ∧ score (milder ++ severe) = 88 ∧
      score (severe ++ milder ++ severe) = 100 ∧ score severe ≤ score (severe ++ milder) ∧
      severityTally (severe ++ milder) = [("high", 3), ("medium", 1), ("low", 1)] := by
  intro severe milder
  obtain ⟨happend, hperm, hsublist, hcounts⟩ := score_saturates
  have hjoined : score (severe ++ milder) = 75 + 13 := happend severe milder
  obtain ⟨-, -, -, htally, -⟩ := hcounts (severe ++ milder)
  refine ⟨hjoined, ?_, ?_, ?_, htally⟩
  · rw [hperm _ _ List.perm_append_comm, hjoined]
  · rw [happend, hjoined]
    rfl
  · exact hsublist _ _ (List.sublist_append_left _ _)

end TokenAudit
