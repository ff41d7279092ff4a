import TokenAudit.Proofs.Pattern.OneLine
import TokenAudit.Proofs.Scan.Reports
import TokenAudit.Proofs.Text.LinePosition

/-!
# What a recorded line shows

The line of a finding is found by searching each line alone, while the rule itself is searched in
the whole text, where a guard sees what follows the line. A line that is recorded therefore shows a
hit of the rule as far as the line goes. It shows a hit in the whole text as well, unless every hit
of the line alone is followed by a guard that is spelled past its end; of the built-in rules that
can happen only to the two whose guards hold white space.
-/

set_option autoImplicit false

namespace TokenAudit

/-- A phrase of the pattern is spelled from a place on the line of a number on, and what follows in
the text spells none of its guards. -/
def Pattern.HitsOnLine (ps : Pattern) (text : List Char) (n : Nat) : Prop :=
  ∃ p ∈ ps, ∃ before segment rest, text = before ++ segment ++ rest ∧ Text.lineCount before = n ∧
    Spells p.body segment ∧ ∀ guard ∈ p.guards, startsWith guard rest = false

/-- A phrase is spelled on the line of a number, and the rest of the line spells none of its guards;
what comes after the line is left out of account. -/
structure Phrase.HitsAlone (p : Phrase) (text : List Char) (n : Nat)
    (before segment rest after : List Char) : Prop where
  split : text = before ++ segment ++ rest ++ after
  number : Text.lineCount before = n
  unbroken : '\n' ∉ segment ++ rest
  ends : after = [] ∨ after.head? = some '\n'
  spells : Spells p.body segment
  unguarded : ∀ guard ∈ p.guards, startsWith guard rest = false

namespace Pattern

variable {ps : Pattern} {text : List Char} {n : Nat}

/-- A pattern hits from a line on exactly when the search succeeds at some place on it. -/
theorem hitsOnLine_iff :
    ps.HitsOnLine text n ↔ ∃ i < text.length + 1, Text.lineCount (text.take i) = n ∧
      ∃ p ∈ ps, spellsThen p.body p.unguarded (text.drop i) = true := by
  constructor
  · rintro ⟨p, hp, before, segment, rest, rfl, hnumber, hspells, hguards⟩
    refine ⟨before.length, ?_, ?_, p, hp, ?_⟩
    · simp only [List.length_append]
      omega
    · simpa using hnumber
    · refine spellsThen_iff.2 ⟨segment, rest, by simp, hspells, ?_⟩
      simpa [Phrase.unguarded] using hguards
  · rintro ⟨i, -, hnumber, p, hp, hsearch⟩
    obtain ⟨segment, rest, hdrop, hspells, hguards⟩ := spellsThen_iff.1 hsearch
    refine ⟨p, hp, text.take i, segment, rest, ?_, hnumber, hspells, ?_⟩
    · rw [List.append_assoc, ← hdrop, List.take_append_drop]
    · simpa [Phrase.unguarded] using hguards

instance : Decidable (ps.HitsOnLine text n) :=
  decidable_of_iff _ hitsOnLine_iff.symm

/-- A pattern that occurs in a line of the text hits that line alone. -/
theorem exists_hitsAlone {before line after : List Char}
    (hline : Text.LineAt text n before line after) (hoccurs : ps.occursIn line = true) :
    ∃ p ∈ ps, ∃ before segment rest after, p.HitsAlone text n before segment rest after := by
  obtain ⟨p, hp, hp_occurs⟩ := List.any_eq_true.1 hoccurs
  obtain ⟨start, segment, rest, rfl, hspells, hguards⟩ := Phrase.occursIn_iff.1 hp_occurs
  have hunbroken := hline.unbroken
  simp only [List.mem_append, not_or] at hunbroken
  refine ⟨p, hp, before ++ start, segment, rest, after, ?_⟩
  exact {
    split := by simp [hline.split]
    number := by
      have hnumber := hline.number
      unfold Text.lineCount at hnumber ⊢
      rw [List.count_append, List.count_eq_zero_of_not_mem hunbroken.1.1]
      exact hnumber
    unbroken := by simp [hunbroken]
    ends := hline.ends
    spells := hspells
    unguarded := hguards }

/-- A hit of a line alone is a hit in the whole text when no guard is spelled past its end. -/
theorem HitsOnLine.of_hitsAlone {p : Phrase} {before segment rest after : List Char} (hp : p ∈ ps)
    (h : p.HitsAlone text n before segment rest after)
    (hguards : ∀ guard ∈ p.guards, startsWith guard (rest ++ after) = false) :
    ps.HitsOnLine text n :=
  ⟨p, hp, before, segment, rest ++ after, by simp [h.split], h.number, h.spells, hguards⟩

/-- A hit of a line alone by a pattern whose guards stay on their line is a hit in the whole
text. -/
theorem HitsOnLine.of_guardsStayOnLine {p : Phrase} {before segment rest after : List Char}
    (hp : p ∈ ps) (h : p.HitsAlone text n before segment rest after)
    (hstay : p.guardsStayOnLine = true) : ps.HitsOnLine text n := by
  apply HitsOnLine.of_hitsAlone hp h
  intro guard hguard
  rw [p.startsWith_append_of_guardsStayOnLine hstay hguard h.ends]
  exact h.unguarded guard hguard

end Pattern

/-- The recorded line of a pattern's finding is a line that the pattern hits alone. -/
theorem Pattern.exists_hitsAlone_of_firstLine {ps : Pattern} {text : List Char} {n : Nat}
    (h : (Probe.pattern ps).firstLine text = .ok (some n)) :
    ∃ p ∈ ps, ∃ before segment rest after, p.HitsAlone text n before segment rest after := by
  obtain ⟨i, line, rfl, hline, hsearch, -⟩ := Probe.firstLineFrom_eq_some_iff.1 h
  have hoccurs : ps.occursIn line = true := Except.ok.inj hsearch
  obtain ⟨before, after, hplace⟩ := Text.exists_lineAt hline
  rw [Nat.add_comm 1 i]
  exact exists_hitsAlone hplace hoccurs

/-- All built-in rules but two have guards that stay on their line. -/
theorem builtinRules_guardsStayOnLine : ∀ rule ∈ builtinRules,
    rule.key = "reentrancy" ∨ rule.key = "unchecked_call_return" ∨
      ∃ ps, rule.probe = .pattern ps ∧ ∀ p ∈ ps, p.guardsStayOnLine = true := by
  have hrules : builtinRules.all (fun rule => rule.key == "reentrancy" ||
      (rule.key == "unchecked_call_return" ||
        rule.probe.isPatternWith fun ps => ps.all Phrase.guardsStayOnLine)) = true := by
    decide +kernel
  intro rule hrule
  have h := List.all_eq_true.1 hrules rule hrule
  simp only [Bool.or_eq_true, beq_iff_eq] at h
  rcases h with h | h | h
  · exact .inl h
  · exact .inr (.inl h)
  · obtain ⟨ps, hprobe, hstay⟩ := Probe.isPatternWith_iff.1 h
    exact .inr (.inr ⟨ps, hprobe, List.all_eq_true.1 hstay⟩)

/-- A recorded line of a built-in rule is hit by the rule's pattern when searched alone. In the
whole text a hit begins on that line as well, or else the rule is one of the two whose guards hold
white space, and every hit of the line alone is followed by a guard that goes past the end of the
line. -/
theorem recorded_line_hits {now : Binary64} {text : List Char} {fs : List Finding} {f : Finding}
    {rule : Rule} {n : Nat} (hscan : (builtinCatalog.scan now text).findings = .ok fs)
    (hf : f ∈ fs) (hrule : rule ∈ builtinRules) (hkey : f.ruleKey = rule.key)
    (hline : f.line = some (n : Int)) :
    ∃ ps, rule.probe = .pattern ps ∧
      (∃ p ∈ ps, ∃ before segment rest after, p.HitsAlone text n before segment rest after) ∧
      (ps.HitsOnLine text n ∨
        (rule.key = "reentrancy" ∨ rule.key = "unchecked_call_return") ∧
          ∀ p ∈ ps, ∀ before segment rest after, p.HitsAlone text n before segment rest after →
            ∃ guard ∈ p.guards, startsWith guard (rest ++ after) = true) := by
  obtain ⟨stamp, line, -, hfirst, rfl⟩ :=
    Catalog.found_of_mem_scan hscan hf hrule hkey
  have hn : line = some n := by
    cases line with
    | none => cases hline
    | some m =>
      simp only [Rule.finding, Option.map_some, Option.some.injEq, Int.ofNat_eq_natCast,
        Int.natCast_inj] at hline
      rw [hline]
  subst hn
  obtain ⟨ps, hprobe, -⟩ := builtinRules_patterns rule hrule
  rw [hprobe] at hfirst
  have halone := Pattern.exists_hitsAlone_of_firstLine hfirst
  refine ⟨ps, hprobe, halone, ?_⟩
  -- the split is on the whole text: without a hit from the line on, no hit of the line alone can
  -- have escaped a guard, and no guard that stays on its line can have been the cause
  by_cases hhits : ps.HitsOnLine text n
  · exact .inl hhits
  · right
    constructor
    · obtain ⟨p, hp, before, segment, rest, after, hat⟩ := halone
      rcases builtinRules_guardsStayOnLine rule hrule with hfirst | hsecond | ⟨ps', hprobe', hstay⟩
      · exact .inl hfirst
      · exact .inr hsecond
      · rw [hprobe] at hprobe'
        cases hprobe'
        exact absurd (Pattern.HitsOnLine.of_guardsStayOnLine hp hat (hstay p hp)) hhits
    · intro p hp before segment rest after hat
      by_contra hnone
      apply hhits
      apply Pattern.HitsOnLine.of_hitsAlone hp hat
      intro guard hguard
      rw [Bool.eq_false_iff]
      exact fun hspelled => hnone ⟨guard, hguard, hspelled⟩

/-! ## A line whose only hit is guarded from below -/

/-- A call that is followed, on the next line only, by the clearing of an amount, and further below
one that is not. -/
def clearedBelow : List Char :=
  "a.call\x7b\x7d();\n_amount = 0;\nb.call\x7b\x7d();".toList

/-- The first of the built-in rules. -/
def reentrancyRule : Rule :=
  builtinRules.head (by decide)

/-- The finding of the first rule is recorded on the first line. -/
theorem exists_finding_clearedBelow :
    ∃ fs f, (builtinCatalog.scan .zero clearedBelow).findings = .ok fs ∧ f ∈ fs ∧
      f.ruleKey = reentrancyRule.key ∧ f.line = some ((1 : Nat) : Int) := by
  have hscan : (builtinCatalog.scan .zero clearedBelow).findings.map
        (fun fs => fs.map fun f => (f.ruleKey, f.line)) =
      .ok [("reentrancy", some 1), ("unchecked_call_return", some 1)] := by decide +kernel
  obtain ⟨fs, hfs, hlist⟩ := map_eq_ok_iff.1 hscan
  obtain ⟨f, later, rfl, hf, -⟩ := List.map_eq_cons_iff.1 hlist
  obtain ⟨hkey, hline⟩ := Prod.mk.injEq _ _ _ _ ▸ hf
  exact ⟨f :: later, f, hfs, List.mem_cons_self, hkey, hline⟩

/-- No hit of the first rule in the whole text begins on the first line. -/
theorem not_hitsOnLine_clearedBelow {ps : Pattern} (hprobe : reentrancyRule.probe = .pattern ps) :
    ¬ ps.HitsOnLine clearedBelow 1 := by
  have hps : ps = [{ body := spacedCall, guards := [amountCleared] }] :=
    (Probe.pattern.inj hprobe).symm
  rw [hps]
  decide +kernel

/-- The recorded line holds a hit when searched alone, and all such hits are guarded from below. -/
theorem recorded_line_hits_clearedBelow :
    ∃ ps, reentrancyRule.probe = .pattern ps ∧
      (∃ p ∈ ps, ∃ before segment rest after,
        p.HitsAlone clearedBelow 1 before segment rest after) ∧
      ∀ p ∈ ps, ∀ before segment rest after,
        p.HitsAlone clearedBelow 1 before segment rest after →
          ∃ guard ∈ p.guards, startsWith guard (rest ++ after) = true := by
  obtain ⟨fs, f, hscan, hf, hkey, hline⟩ := exists_finding_clearedBelow
  have hrule : reentrancyRule ∈ builtinRules := List.head_mem _
  obtain ⟨ps, hprobe, halone, hhits⟩ := recorded_line_hits hscan hf hrule hkey hline
  have hguarded := hhits.resolve_left (not_hitsOnLine_clearedBelow hprobe)
  exact ⟨ps, hprobe, halone, hguarded.2⟩

/-- A line may be recorded on which no hit in the whole text begins. -/
theorem recorded_line_without_hit :
    (∃ fs f, (builtinCatalog.scan .zero clearedBelow).findings = .ok fs ∧ f ∈ fs ∧
        f.ruleKey = reentrancyRule.key ∧ f.line = some ((1 : Nat) : Int)) ∧
      ∀ ps, reentrancyRule.probe = .pattern ps → ¬ ps.HitsOnLine clearedBelow 1 :=
  ⟨exists_finding_clearedBelow, fun _ hprobe => not_hitsOnLine_clearedBelow hprobe⟩

end TokenAudit
