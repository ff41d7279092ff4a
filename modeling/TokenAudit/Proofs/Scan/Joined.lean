import TokenAudit.Proofs.Scan.RecordedLine
import TokenAudit.Proofs.Scan.Reports

/-!
# Scanning two texts as one

Code put before or after a text hides no finding of a rule whose guards stay on their line. When two
texts are joined by a line feed, the lines of the whole are those of the first and then those of the
second, so the line that is recorded is the first text's where one of its lines is hit, and else the
second text's, counted on from the lines of the first. All built-in rules but two are such rules.
-/

set_option autoImplicit false

namespace TokenAudit

namespace Pattern

variable {ps : Pattern} {a b : List Char}

/-- A pattern still occurs in a text when something is put in front. -/
theorem occursIn_append_left (before : List Char) (h : ps.occursIn b = true) :
    ps.occursIn (before ++ b) = true := by
  obtain ⟨p, hp, hoccurs⟩ := List.any_eq_true.1 h
  exact List.any_eq_true.2 ⟨p, hp, Phrase.occursIn_append_left before hoccurs⟩

/-- A pattern whose guards stay on their line, and that occurs in a text, occurs in it when lines
are added below. -/
theorem occursIn_append_right {after : List Char}
    (hps : ∀ p ∈ ps, p.guardsStayOnLine = true) (hafter : after = [] ∨ after.head? = some '\n')
    (h : ps.occursIn a = true) : ps.occursIn (a ++ after) = true := by
  obtain ⟨p, hp, hoccurs⟩ := List.any_eq_true.1 h
  exact List.any_eq_true.2 ⟨p, hp, Phrase.occursIn_append_right (hps p hp) hafter hoccurs⟩

/-- A pattern whose guards stay on their line occurs in a text that has a line in which it
occurs. -/
theorem occursIn_of_mem_lines {line : List Char} (hps : ∀ p ∈ ps, p.guardsStayOnLine = true)
    (hline : line ∈ Text.lines a) (h : ps.occursIn line = true) : ps.occursIn a = true := by
  obtain ⟨i, hi⟩ := List.mem_iff_getElem?.1 hline
  obtain ⟨before, after, hplace⟩ := Text.exists_lineAt hi
  rw [hplace.split, List.append_assoc]
  apply occursIn_append_left
  exact occursIn_append_right hps hplace.ends h

/-- The first line of two joined texts is that of the first text, or else that of the second,
counted on. -/
theorem firstLine?_joined : ps.firstLine? (a ++ '\n' :: b) =
    (ps.firstLine? a).or ((ps.firstLine? b).map ((Text.lines a).length + ·)) := by
  have hlines : Text.lines (a ++ '\n' :: b) = Text.lines a ++ Text.lines b :=
    Text.cut_append_cons '\n' a b
  unfold firstLine?
  rw [hlines, List.findIdx?_append]
  cases ha : (Text.lines a).findIdx? ps.occursIn with
  | some i => simp
  | none =>
    cases hb : (Text.lines b).findIdx? ps.occursIn with
    | none => simp
    | some j =>
      simp only [Option.none_or, Option.map_some, Option.map_none, Option.some.injEq]
      omega

end Pattern

/-- The built-in rules whose findings survive whatever code is put around a text have patterns whose
guards stay on their line. -/
theorem exists_pattern_of_staysOnLine {rule : Rule} (hrule : rule ∈ builtinRules)
    (hreentrancy : rule.key ≠ "reentrancy") (hcall : rule.key ≠ "unchecked_call_return") :
    ∃ ps, rule.probe = .pattern ps ∧ ∀ p ∈ ps, p.guardsStayOnLine = true := by
  rcases builtinRules_guardsStayOnLine rule hrule with h | h | h
  · exact absurd h hreentrancy
  · exact absurd h hcall
  · exact h

/-- A rule that is reported for one of two texts is reported for the two joined by a line feed, the
two rules with guards that leave their line apart. The line recorded is that of the first text when
the rule hits one of its lines, and otherwise the second text's, after all lines of the first. -/
theorem joined_reports {now : Binary64} (na nb : Binary64) (a b : List Char) {rule : Rule}
    (hrule : rule ∈ builtinRules) (hreentrancy : rule.key ≠ "reentrancy")
    (hcall : rule.key ≠ "unchecked_call_return") (hnow : Clock.Shows now) :
    ((∃ line, builtinCatalog.Reports na a rule.key line ∨
        builtinCatalog.Reports nb b rule.key line) →
      ∃ line, builtinCatalog.Reports now (a ++ '\n' :: b) rule.key line) ∧
    ((∃ l ∈ Text.lines a, rule.probe.search l = .ok true) →
      (∃ n, builtinCatalog.Reports now a rule.key (some n)) ∧
        ∀ line, builtinCatalog.Reports na a rule.key line →
          builtinCatalog.Reports now (a ++ '\n' :: b) rule.key line) ∧
    ((∀ l ∈ Text.lines a, rule.probe.search l = .ok false) →
      ∀ line, builtinCatalog.Reports nb b rule.key line →
        builtinCatalog.Reports now (a ++ '\n' :: b) rule.key
          (line.map ((Text.lines a).length + ·))) := by
  obtain ⟨ps, hps, hstay⟩ := exists_pattern_of_staysOnLine hrule hreentrancy hcall
  simp only [builtinCatalog_reports_iff hrule hps, hps, Probe.search, Except.ok.injEq]
  have hfromFirst (h : ps.occursIn a = true) : ps.occursIn (a ++ '\n' :: b) = true :=
    Pattern.occursIn_append_right hstay (.inr rfl) h
  have hfromSecond (h : ps.occursIn b = true) : ps.occursIn (a ++ '\n' :: b) = true := by
    have hjoined := Pattern.occursIn_append_left (a ++ ['\n']) h
    simpa using hjoined
  refine ⟨?_, ?_, ?_⟩
  · rintro ⟨line, ⟨-, h, -⟩ | ⟨-, h, -⟩⟩
    · exact ⟨_, hnow, hfromFirst h, rfl⟩
    · exact ⟨_, hnow, hfromSecond h, rfl⟩
  · rintro ⟨l, hl, hoccurs⟩
    have ha : ps.occursIn a = true := Pattern.occursIn_of_mem_lines hstay hl hoccurs
    obtain ⟨n, hn⟩ : ∃ n, ps.firstLine? a = some n := by
      apply Option.ne_none_iff_exists'.1
      intro hnone
      rw [Pattern.firstLine?_eq_none_iff.1 hnone l hl] at hoccurs
      cases hoccurs
    refine ⟨⟨n, hnow, ha, hn.symm⟩, ?_⟩
    rintro line ⟨-, -, rfl⟩
    refine ⟨hnow, hfromFirst ha, ?_⟩
    rw [Pattern.firstLine?_joined, hn]
    rfl
  · rintro hnone line ⟨-, hb, rfl⟩
    refine ⟨hnow, hfromSecond hb, ?_⟩
    rw [Pattern.firstLine?_joined, Pattern.firstLine?_eq_none_iff.2 hnone]
    rfl

/-! ## A text that is hit across its lines only, in front of one with a hit of its own -/

/-- A function to mint whose name stands on a line of its own, followed by a guard. -/
def brokenMint : List Char :=
  "function\nmint burn".toList

/-- A comment above a call that mints. -/
def mintBelow : List Char :=
  "// below\nmint()".toList

/-- The built-in rule on minting. -/
def mintingRule : Rule :=
  builtinRules[8]

/-- No line of the first text is hit, so the line of the second counts on from both of them. -/
theorem joined_reports_brokenMint :
    (∀ l ∈ Text.lines brokenMint, mintingRule.probe.search l = .ok false) ∧
      builtinCatalog.Reports .zero mintBelow mintingRule.key (some 2) ∧
      builtinCatalog.Reports .zero (brokenMint ++ '\n' :: mintBelow) mintingRule.key (some 4) := by
  have hnow : Clock.Shows .zero := ⟨0, by decide +kernel⟩
  have hrule : mintingRule ∈ builtinRules := List.getElem_mem _
  have hnone : ∀ l ∈ Text.lines brokenMint, mintingRule.probe.search l = .ok false := by
    decide +kernel
  have hsecond : builtinCatalog.Reports .zero mintBelow mintingRule.key (some 2) := by
    apply (builtinCatalog_reports_iff hrule rfl).2
    exact ⟨hnow, by decide +kernel, by decide +kernel⟩
  have hjoined := joined_reports .zero .zero brokenMint mintBelow hrule (by decide +kernel)
    (by decide +kernel) hnow
  exact ⟨hnone, hsecond, hjoined.2.2 hnone (some 2) hsecond⟩

end TokenAudit
