import TokenAudit.Proofs.Scan.Findings
import TokenAudit.Rule.Builtin

/-!
# Which rules a scan reports

A scan goes on as long as no search breaks down, on the text or on a line that it is put to, and the
search for a pattern never does. So a scan for patterns fails only when the clock shows no time, and
it reports a rule exactly when the rule's pattern occurs in the text; the line it records is the
first line in which the pattern occurs on its own. No pattern of the built-in catalog occurs in the
empty text, which makes this true of every text there.
-/

set_option autoImplicit false

namespace TokenAudit

/-- The clock shows a time. -/
def Clock.Shows (now : Binary64) : Prop :=
  ∃ stamp, Clock.milliseconds now = .ok stamp

/-- The number of the first line in which a pattern occurs. -/
def Pattern.firstLine? (ps : Pattern) (text : List Char) : Option Nat :=
  ((Text.lines text).findIdx? ps.occursIn).map (· + 1)

/-- A scan reaches its end and reports a rule once, with a line or without one. -/
def Catalog.Reports (catalog : Catalog) (now : Binary64) (text : List Char) (key : String)
    (line : Option Nat) : Prop :=
  ∃ fs f, (catalog.scan now text).findings = .ok fs ∧ f ∈ fs ∧ f.line = line.map Int.ofNat ∧
    ∀ g ∈ fs, g.ruleKey = key ↔ g = f

/-- The probe is a pattern that passes a test. -/
def Probe.isPatternWith (test : Pattern → Bool) : Probe → Bool
  | .pattern ps => test ps
  | .custom _ => false

/-- A search is tested as a pattern exactly when it is one, and passes. -/
theorem Probe.isPatternWith_iff {test : Pattern → Bool} {probe : Probe} :
    probe.isPatternWith test = true ↔ ∃ ps, probe = .pattern ps ∧ test ps = true := by
  cases probe with
  | pattern ps => simp [isPatternWith]
  | custom search => simp [isPatternWith]

/-- A pattern is first found on the first of the lines in which it occurs. -/
theorem Probe.firstLineFrom_pattern (ps : Pattern) (number : Nat) (ls : List (List Char)) :
    (Probe.pattern ps).firstLineFrom number ls =
      .ok ((ls.findIdx? ps.occursIn).map (· + number)) := by
  induction ls generalizing number with
  | nil => rfl
  | cons line ls ih =>
    unfold firstLineFrom
    rw [List.findIdx?_cons]
    cases hline : ps.occursIn line with
    | true => simp [search, hline]
    | false =>
      have hshift : (fun i => i + 1 + number) = fun i : Nat => i + (number + 1) := by
        funext i
        omega
      simp [search, hline, ih, Function.comp_def, hshift]

/-- Two searches with the same results have the same first line. -/
theorem Probe.firstLineFrom_congr {probe probe' : Probe}
    (h : ∀ part, probe.search part = probe'.search part) (number : Nat) (ls : List (List Char)) :
    probe.firstLineFrom number ls = probe'.firstLineFrom number ls := by
  induction ls generalizing number with
  | nil => rfl
  | cons line ls ih =>
    unfold firstLineFrom
    rw [h line, ih]

/-- The search by a pattern does not break down. -/
theorem Probe.firstLine_pattern (ps : Pattern) (text : List Char) :
    (Probe.pattern ps).firstLine text = .ok (ps.firstLine? text) := by
  unfold firstLine Pattern.firstLine?
  exact firstLineFrom_pattern ps 1 (Text.lines text)

/-- A pattern has no first line exactly when it occurs in no line. -/
theorem Pattern.firstLine?_eq_none_iff {ps : Pattern} {text : List Char} :
    ps.firstLine? text = none ↔ ∀ line ∈ Text.lines text, ps.occursIn line = false := by
  simp [firstLine?, List.findIdx?_eq_none_iff]

/-- A pattern first occurs on the same line of two texts whose lines it does not tell apart. -/
theorem Pattern.firstLine?_congr {ps : Pattern} {a b : List Char}
    (h : List.Forall₂ (fun x y => ps.occursIn y = ps.occursIn x) (Text.lines a) (Text.lines b)) :
    ps.firstLine? b = ps.firstLine? a := by
  unfold firstLine?
  congr 1
  generalize Text.lines a = xs at h ⊢
  generalize Text.lines b = ys at h ⊢
  induction h with
  | nil => rfl
  | cons hline _ ih => rw [List.findIdx?_cons, List.findIdx?_cons, hline, ih]

/-- A rule that looks for a pattern hits two texts alike when the pattern occurs in both or in none
of them, and first on the same line. -/
theorem Rule.hit?_congr {rule : Rule} {ps : Pattern} {a b : List Char}
    (hps : rule.probe = .pattern ps) (hoccurs : ps.occursIn b = ps.occursIn a)
    (hline : ps.firstLine? b = ps.firstLine? a) (stamp : Int) :
    rule.hit? stamp b = rule.hit? stamp a := by
  unfold Rule.hit?
  rw [hps, Probe.firstLine_pattern, Probe.firstLine_pattern, Probe.search, Probe.search, hoccurs,
    hline]

/-- A search holds up when a text is scanned: it breaks down neither on the text nor, once it finds
something there, on a line before which it finds nothing. -/
def Probe.HoldsUp (probe : Probe) (text : List Char) : Prop :=
  (∃ found, probe.search text = .ok found) ∧
    (probe.search text = .ok true →
      ∀ before line after, Text.lines text = before ++ line :: after →
        (∀ earlier ∈ before, probe.search earlier = .ok false) →
          ∃ found, probe.search line = .ok found)

/-- A pattern holds up on every text. -/
theorem Probe.holdsUp_pattern (ps : Pattern) (text : List Char) : (Probe.pattern ps).HoldsUp text :=
  ⟨⟨_, rfl⟩, fun _ _ _ _ _ _ => ⟨_, rfl⟩⟩

/-- A rule hits a text or misses it, and does not break down, exactly when its search holds up. -/
theorem Rule.exists_hit?_iff (rule : Rule) (stamp : Int) (text : List Char) :
    (∃ hit, rule.hit? stamp text = .ok hit) ↔ rule.probe.HoldsUp text := by
  have hlines := @Probe.exists_firstLineFrom_iff rule.probe 1 (Text.lines text)
  unfold hit? Probe.HoldsUp
  rw [← hlines]
  cases rule.probe.search text with
  | error e => simp [bind, Except.bind]
  | ok found =>
    cases found with
    | false => simp [bind, Except.bind, pure, Except.pure]
    | true =>
      unfold Probe.firstLine
      cases rule.probe.firstLineFrom 1 (Text.lines text) with
      | error e => simp [bind, Except.bind]
      | ok line => simp [bind, Except.bind, pure, Except.pure]

/-- A sweep reaches its end exactly when every search holds up. -/
theorem exists_sweep_findings_iff {stamp : Int} {text : List Char} {rules : List Rule} :
    (∃ fs, (sweep stamp text rules).findings = .ok fs) ↔
      ∀ rule ∈ rules, rule.probe.HoldsUp text := by
  induction rules with
  | nil => simp [sweep]
  | cons rule rules ih =>
    rw [List.forall_mem_cons, ← ih, ← rule.exists_hit?_iff stamp text, sweep]
    cases rule.hit? stamp text with
    | error b => simp
    | ok hit =>
      cases hit with
      | none => simp
      | some found => simp [map_eq_ok_iff]

/-- A scan at a time that the clock shows reaches its end exactly when every search holds up, or the
text is empty. -/
theorem Catalog.exists_scan_findings_iff {catalog : Catalog} {now : Binary64}
    (hnow : Clock.Shows now) {text : List Char} :
    (∃ fs, (catalog.scan now text).findings = .ok fs) ↔
      text = [] ∨ ∀ rule ∈ catalog.rules, rule.probe.HoldsUp text := by
  obtain ⟨stamp, hstamp⟩ := hnow
  unfold Catalog.scan
  by_cases htext : text = []
  · simp [htext]
  · rw [if_neg (by simpa using htext), hstamp]
    simp only [exists_sweep_findings_iff, htext, false_or]

/-- A scan by rules that look for patterns reaches its end when the clock shows a time. -/
theorem Catalog.scan_findings_of_patterns {catalog : Catalog} {now : Binary64} {stamp : Int}
    {text : List Char} (hpatterns : ∀ rule ∈ catalog.rules, ∃ ps, rule.probe = .pattern ps)
    (hstamp : Clock.milliseconds now = .ok stamp) (htext : text ≠ []) :
    (catalog.scan now text).findings =
      .ok (catalog.rules.filterMap fun rule => rule.found? stamp text) := by
  have hholds : ∀ rule ∈ catalog.rules, rule.probe.HoldsUp text := by
    intro rule hrule
    obtain ⟨ps, hps⟩ := hpatterns rule hrule
    rw [hps]
    exact Probe.holdsUp_pattern ps text
  obtain ⟨fs, hfs⟩ := (Catalog.exists_scan_findings_iff ⟨stamp, hstamp⟩).2 (.inr hholds)
  rcases Catalog.scan_findings hfs with ⟨hempty, -⟩ | ⟨shown, hshown, rfl⟩
  · exact absurd hempty htext
  · rw [hstamp, Except.ok.injEq] at hshown
    rw [hfs, hshown]

/-- A scan by rules that look for patterns reports a rule exactly when the clock shows a time and
the rule's pattern occurs in the text, which is not empty; it records the first line in which the
pattern occurs on its own. -/
theorem Catalog.reports_iff {catalog : Catalog} {now : Binary64} {text : List Char} {rule : Rule}
    {ps : Pattern} {line : Option Nat}
    (hpatterns : ∀ rule ∈ catalog.rules, ∃ ps, rule.probe = .pattern ps)
    (hrule : rule ∈ catalog.rules) (hps : rule.probe = .pattern ps) :
    catalog.Reports now text rule.key line ↔
      Clock.Shows now ∧ text ≠ [] ∧ ps.occursIn text = true ∧ line = ps.firstLine? text := by
  constructor
  · rintro ⟨fs, f, hscan, hf, hline, hunique⟩
    have hkey : f.ruleKey = rule.key := (hunique f hf).2 rfl
    obtain ⟨stamp, found, hsearch, hfirst, rfl⟩ :=
      Catalog.found_of_mem_scan hscan hf hrule hkey
    rw [hps, Probe.firstLine_pattern] at hfirst
    rw [hps, Probe.search, Except.ok.injEq] at hsearch
    have hfound : found = line := by
      have hinj : Function.Injective (Option.map Int.ofNat) :=
        Option.map_injective fun _ _ h => Int.ofNat.inj h
      exact hinj hline
    rcases Catalog.scan_findings hscan with ⟨-, hnil⟩ | ⟨stamp, hstamp, -⟩
    · rw [hnil] at hf
      cases hf
    · refine ⟨⟨stamp, hstamp⟩, ?_, hsearch, ?_⟩
      · rintro rfl
        have hempty : (catalog.scan now []).findings = .ok [] := rfl
        rw [hempty, Except.ok.injEq] at hscan
        rw [← hscan] at hf
        cases hf
      · rw [← hfound]
        exact (Except.ok.inj hfirst).symm
  · rintro ⟨⟨stamp, hstamp⟩, htext, hoccurs, rfl⟩
    have hscan := Catalog.scan_findings_of_patterns hpatterns hstamp htext
    have hfound : rule.found? stamp text = some (rule.finding stamp (ps.firstLine? text)) := by
      rw [Rule.found?_eq_some_iff, hps]
      refine ⟨?_, ps.firstLine? text, Probe.firstLine_pattern ps text, rfl⟩
      simp [Probe.search, hoccurs]
    refine ⟨_, _, hscan, List.mem_filterMap.2 ⟨rule, hrule, hfound⟩, rfl, ?_⟩
    intro g hg
    constructor
    · intro hkey
      obtain ⟨other, hother, hg⟩ := List.mem_filterMap.1 hg
      obtain ⟨-, found, -, hfinding⟩ := Rule.found?_eq_some_iff.1 hg
      have hsame : other = rule := by
        apply catalog.eq_of_key_eq hother hrule
        rw [← hkey, hfinding]
        rfl
      rw [hsame, hfound] at hg
      exact (Option.some.inj hg).symm
    · rintro rfl
      rfl

/-- If all rules are tested, each of them looks for a pattern that passes. -/
theorem exists_pattern_of_all {rules : List Rule} {test : Pattern → Bool}
    (h : rules.all (fun rule => rule.probe.isPatternWith test) = true) :
    ∀ rule ∈ rules, ∃ ps, rule.probe = .pattern ps ∧ test ps = true := by
  intro rule hrule
  exact Probe.isPatternWith_iff.1 (List.all_eq_true.1 h rule hrule)

/-- Every built-in rule looks for a pattern that does not occur in the empty text. -/
theorem builtinRules_patterns :
    ∀ rule ∈ builtinRules, ∃ ps, rule.probe = .pattern ps ∧ ps.occursIn [] = false := by
  have hrules : builtinRules.all
      (fun rule => rule.probe.isPatternWith fun ps => !ps.occursIn []) = true := by
    decide +kernel
  intro rule hrule
  obtain ⟨ps, hps, hempty⟩ := exists_pattern_of_all hrules rule hrule
  exact ⟨ps, hps, by simpa using hempty⟩

/-- A scan by the built-in catalog reaches its end when the clock shows a time. -/
theorem exists_builtinCatalog_scan {now : Binary64} (hnow : Clock.Shows now) (text : List Char) :
    ∃ fs, (builtinCatalog.scan now text).findings = .ok fs := by
  obtain ⟨stamp, hstamp⟩ := hnow
  by_cases htext : text = []
  · subst htext
    exact ⟨[], rfl⟩
  · have hpatterns : ∀ rule ∈ builtinCatalog.rules, ∃ ps, rule.probe = .pattern ps := by
      intro rule hrule
      obtain ⟨ps, hps, -⟩ := builtinRules_patterns rule hrule
      exact ⟨ps, hps⟩
    exact ⟨_, Catalog.scan_findings_of_patterns hpatterns hstamp htext⟩

/-- A scan by the built-in catalog reports a rule exactly when the clock shows a time and the rule's
pattern occurs in the text. -/
theorem builtinCatalog_reports_iff {now : Binary64} {text : List Char} {rule : Rule} {ps : Pattern}
    {line : Option Nat} (hrule : rule ∈ builtinRules) (hps : rule.probe = .pattern ps) :
    builtinCatalog.Reports now text rule.key line ↔
      Clock.Shows now ∧ ps.occursIn text = true ∧ line = ps.firstLine? text := by
  have hpatterns : ∀ rule ∈ builtinCatalog.rules, ∃ ps, rule.probe = .pattern ps := by
    intro r hr
    obtain ⟨qs, hqs, -⟩ := builtinRules_patterns r hr
    exact ⟨qs, hqs⟩
  rw [Catalog.reports_iff hpatterns hrule hps]
  constructor
  · rintro ⟨hnow, -, h⟩
    exact ⟨hnow, h⟩
  · rintro ⟨hnow, hoccurs, hline⟩
    refine ⟨hnow, ?_, hoccurs, hline⟩
    rintro rfl
    obtain ⟨qs, hqs, hempty⟩ := builtinRules_patterns rule hrule
    rw [hps, Probe.pattern.injEq] at hqs
    rw [hqs, hempty] at hoccurs
    cases hoccurs

/-- A built-in rule is reported, with a line or without one, exactly when its pattern occurs in the
text. -/
theorem exists_reports_iff {now : Binary64} (hnow : Clock.Shows now) {text : List Char}
    {key : String} {ps : Pattern}
    (hrule : ∃ rule ∈ builtinRules, rule.key = key ∧ rule.probe = .pattern ps) :
    (∃ line, builtinCatalog.Reports now text key line) ↔ ps.occursIn text = true := by
  obtain ⟨rule, hmem, rfl, hps⟩ := hrule
  simp [builtinCatalog_reports_iff hmem hps, hnow]

end TokenAudit
