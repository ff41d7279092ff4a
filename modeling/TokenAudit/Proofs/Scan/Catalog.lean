import Mathlib.Order.Bounds.Basic
import TokenAudit.Proofs.Pattern.Shape
import TokenAudit.Proofs.Scan.Words
import TokenAudit.Summary.Basic

/-!
# What a scan by any catalog reports

Rules make a catalog exactly when no two of them share a key, and else the refusal names the first
key that comes a second time. A scan by a catalog goes through its rules in order, so that its
findings are told by key: they are those of the rules that hit the text, in the order of the
catalog, each once. The line of a finding is the least one that its rule hits alone. A word that is
found in a text stands in one of its lines unless it holds a line feed, in which case no line holds
it.
-/

set_option autoImplicit false

namespace TokenAudit

/-- The key stands in the list for the second time, and none before it does. -/
def RepeatsFirst (keys : List String) (key : String) : Prop :=
  ∃ before after, keys = before ++ key :: after ∧ before.Nodup ∧ key ∈ before

/-- The probe hits the line of a number when it searches that line alone. -/
def Probe.HitsLine (probe : Probe) (text : List Char) (n : Nat) : Prop :=
  ∃ i line, n = i + 1 ∧ (Text.lines text)[i]? = some line ∧ probe.search line = .ok true

/-- Findings tell what the rules hit in a text. The keys of the findings are keys of the rules, in
their order and each once, and they are those of the rules that hit the text, which is not empty.
The line of a finding is the least that its rule hits alone, none if there is none; and a rule that
finds what the search for a word finds is without a line exactly when the word holds a line feed. -/
structure FindingsTell (rules : List Rule) (text : List Char) (fs : List Finding) : Prop where
  inOrder : (fs.map (·.ruleKey)).Sublist (rules.map (·.key))
  once : (fs.map (·.ruleKey)).Nodup
  exact : ∀ rule ∈ rules,
    rule.key ∈ fs.map (·.ruleKey) ↔ text ≠ [] ∧ rule.probe.search text = .ok true
  ids : (fs.map (·.id)).Nodup
  noLine : ∀ f ∈ fs, ∀ rule ∈ rules, f.ruleKey = rule.key →
    (f.line = none ↔ ∀ n, ¬ rule.probe.HitsLine text n)
  line : ∀ f ∈ fs, ∀ rule ∈ rules, f.ruleKey = rule.key →
    ∀ n : Nat, f.line = some (n : Int) ↔ IsLeast {n | rule.probe.HitsLine text n} n
  inText : ∀ f ∈ fs, ∀ n, f.line = some n →
    1 ≤ n ∧ ∀ findings, n ≤ (summarize text findings).linesOfCode
  word : ∀ f ∈ fs, ∀ rule ∈ rules, f.ruleKey = rule.key →
    ∀ w, (∀ part, rule.probe.search part = .ok ((Pattern.literal w).occursIn part)) →
      (f.line = none ↔ '\n' ∈ w.toList)

/-! ## Catalogs -/

/-- A key is the first to be repeated when it comes again, or was seen before, after keys that are
distinct and new. -/
theorem firstRepeated?_eq_some_iff {seen keys : List String} {key : String} :
    firstRepeated? seen keys = some key ↔
      ∃ before after, keys = before ++ key :: after ∧ before.Nodup ∧
        (∀ k ∈ before, k ∉ seen) ∧ (key ∈ seen ∨ key ∈ before) := by
  induction keys generalizing seen with
  | nil => simp [firstRepeated?]
  | cons first keys ih =>
    unfold firstRepeated?
    by_cases hseen : first ∈ seen
    · rw [if_pos (List.contains_iff_mem.2 hseen), Option.some.injEq]
      constructor
      · rintro rfl
        exact ⟨[], keys, rfl, List.nodup_nil, List.forall_mem_nil _, .inl hseen⟩
      · rintro ⟨before, after, hsplit, -, hnew, -⟩
        cases before with
        | nil => exact (List.cons_eq_cons.1 hsplit).1
        | cons k before =>
          obtain ⟨rfl, -⟩ := List.cons_eq_cons.1 hsplit
          exact absurd hseen (hnew first List.mem_cons_self)
    · rw [if_neg (by simpa using hseen), ih]
      constructor
      · rintro ⟨before, after, rfl, hnodup, hnew, hkey⟩
        have hfirst : first ∉ before := fun hmem => hnew first hmem List.mem_cons_self
        refine ⟨first :: before, after, rfl, List.nodup_cons.2 ⟨hfirst, hnodup⟩, ?_, ?_⟩
        · rw [List.forall_mem_cons]
          exact ⟨hseen, fun k hk hmem => hnew k hk (List.mem_cons_of_mem _ hmem)⟩
        · rcases hkey with hkey | hkey
          · rcases List.mem_cons.1 hkey with rfl | hkey
            · exact .inr List.mem_cons_self
            · exact .inl hkey
          · exact .inr (List.mem_cons_of_mem _ hkey)
      · rintro ⟨before, after, hsplit, hnodup, hnew, hkey⟩
        cases before with
        | nil =>
          obtain ⟨rfl, -⟩ := List.cons_eq_cons.1 hsplit
          simp [hseen] at hkey
        | cons k before =>
          obtain ⟨rfl, rfl⟩ := List.cons_eq_cons.1 hsplit
          rw [List.nodup_cons] at hnodup
          rw [List.forall_mem_cons] at hnew
          refine ⟨before, after, rfl, hnodup.2, ?_, ?_⟩
          · intro k hk hmem
            rcases List.mem_cons.1 hmem with rfl | hmem
            · exact hnodup.1 hk
            · exact hnew.2 k hk hmem
          · rcases hkey with hkey | hkey
            · exact .inl (List.mem_cons_of_mem _ hkey)
            · rcases List.mem_cons.1 hkey with rfl | hkey
              · exact .inl List.mem_cons_self
              · exact .inr hkey

/-- Rules make no catalog exactly when a key is repeated, and then the first such key is named. -/
theorem Catalog.ofRules_eq_error_iff {rules : List Rule} {e : DuplicateKey} :
    Catalog.ofRules rules = .error e ↔ RepeatsFirst (rules.map (·.key)) e.key := by
  have hfirst : firstRepeated? [] (rules.map (·.key)) = some e.key ↔
      RepeatsFirst (rules.map (·.key)) e.key := by
    rw [firstRepeated?_eq_some_iff]
    simp only [List.not_mem_nil, not_false_eq_true, implies_true, true_and, false_or]
    rfl
  rw [← hfirst]
  unfold Catalog.ofRules
  split
  · next hnone => simp [hnone]
  · next key hkey =>
    obtain ⟨other⟩ := e
    simp [hkey]

/-- A catalog is made of rules exactly when it holds them. -/
theorem Catalog.ofRules_eq_ok_iff {rules : List Rule} {catalog : Catalog} :
    Catalog.ofRules rules = .ok catalog ↔ catalog.rules = rules := by
  unfold Catalog.ofRules
  split
  · next hnone =>
    rw [Except.ok.injEq]
    constructor
    · rintro rfl
      rfl
    · rintro rfl
      rfl
  · next key hkey =>
    constructor
    · intro h
      cases h
    · rintro rfl
      rw [catalog.distinct] at hkey
      cases hkey

/-- Rules make no catalog exactly when two of them share a key. -/
theorem Catalog.exists_error_iff {rules : List Rule} :
    (∃ e, Catalog.ofRules rules = .error e) ↔ ¬ (rules.map (·.key)).Nodup := by
  have hnone : firstRepeated? [] (rules.map (·.key)) = none ↔ (rules.map (·.key)).Nodup := by
    rw [firstRepeated?_eq_none_iff]
    simp
  rw [← hnone]
  unfold Catalog.ofRules
  split
  · next h => simp [h]
  · next key h => simp [h]

/-! ## Keys and ids -/

/-- A finding bears the key of its rule. -/
theorem Rule.ruleKey_of_found? {rule : Rule} {stamp : Int} {text : List Char} {f : Finding}
    (h : rule.found? stamp text = some f) : f.ruleKey = rule.key := by
  obtain ⟨-, line, -, rfl⟩ := Rule.found?_eq_some_iff.1 h
  rfl

/-- The keys of the findings come in the order of the rules, each once at most. -/
theorem sublist_keys (stamp : Int) (text : List Char) (rules : List Rule) :
    ((rules.filterMap fun rule => rule.found? stamp text).map (·.ruleKey)).Sublist
      (rules.map (·.key)) := by
  induction rules with
  | nil => exact .slnil
  | cons rule rules ih =>
    rw [List.filterMap_cons, List.map_cons]
    cases hfound : rule.found? stamp text with
    | none => exact ih.cons _
    | some f =>
      rw [List.map_cons, Rule.ruleKey_of_found? hfound]
      exact ih.cons_cons _

/-- Findings of one time under distinct keys have distinct ids. -/
theorem nodup_ids {stamp : Int} {text : List Char} {rules : List Rule}
    (h : (rules.map (·.key)).Nodup) :
    ((rules.filterMap fun rule => rule.found? stamp text).map (·.id)).Nodup := by
  have hid : Function.Injective fun key => "V-" ++ key ++ "-" ++ toString stamp := by
    intro key other heq
    simpa using heq
  have hids : (rules.filterMap fun rule => rule.found? stamp text).map (·.id) =
      ((rules.filterMap fun rule => rule.found? stamp text).map (·.ruleKey)).map
        fun key => "V-" ++ key ++ "-" ++ toString stamp := by
    rw [List.map_map]
    apply List.map_congr_left
    intro f hf
    obtain ⟨rule, -, hfound⟩ := List.mem_filterMap.1 hf
    obtain ⟨-, line, -, rfl⟩ := Rule.found?_eq_some_iff.1 hfound
    rfl
  rw [hids]
  exact (h.sublist (sublist_keys stamp text rules)).map hid

/-! ## Lines -/

/-- A search hits a line that is numbered from one exactly when it finds something in it. -/
theorem Probe.hitsLine_succ_iff {probe : Probe} {text : List Char} {i : Nat} :
    probe.HitsLine text (i + 1) ↔
      ∃ line, (Text.lines text)[i]? = some line ∧ probe.search line = .ok true := by
  constructor
  · rintro ⟨j, line, hsucc, hj, hsearch⟩
    obtain rfl : i = j := by omega
    exact ⟨line, hj, hsearch⟩
  · rintro ⟨line, hi, hsearch⟩
    exact ⟨i, line, rfl, hi, hsearch⟩

/-- The first line of a probe is the least that it hits alone. -/
theorem Probe.isLeast_of_firstLine {probe : Probe} {text : List Char} {n : Nat}
    (h : probe.firstLine text = .ok (some n)) : IsLeast {n | probe.HitsLine text n} n := by
  obtain ⟨i, line, rfl, hi, hhit, hearlier⟩ := Probe.firstLineFrom_eq_some_iff.1 h
  rw [Nat.add_comm]
  refine ⟨Probe.hitsLine_succ_iff.2 ⟨line, hi, hhit⟩, ?_⟩
  rintro m ⟨j, other, rfl, hj, hother⟩
  apply Nat.le_of_not_lt
  intro hlate
  -- a line before the first one was searched and missed
  have hmem : other ∈ (Text.lines text).take i :=
    List.mem_iff_getElem?.2 ⟨j, by rw [List.getElem?_take_of_lt (by omega), hj]⟩
  rw [hearlier other hmem] at hother
  cases hother

/-- Without a first line, there is none that the probe hits alone. -/
theorem Probe.not_hitsLine_of_firstLine {probe : Probe} {text : List Char}
    (h : probe.firstLine text = .ok none) (n : Nat) : ¬ probe.HitsLine text n := by
  rintro ⟨i, line, -, hi, hhit⟩
  have hmiss := Probe.firstLineFrom_eq_none_iff.1 h line (List.mem_of_getElem? hi)
  rw [hmiss] at hhit
  cases hhit

/-- A line that a probe hits is one of the text's. -/
theorem Probe.HitsLine.le_lineCount {probe : Probe} {text : List Char} {n : Nat}
    (h : probe.HitsLine text n) : 1 ≤ n ∧ n ≤ Text.lineCount text := by
  obtain ⟨i, line, rfl, hi, -⟩ := h
  obtain ⟨hlt, -⟩ := List.getElem?_eq_some_iff.1 hi
  rw [Text.length_lines] at hlt
  omega

/-! ## Words and lines -/

/-- A word holds a line feed exactly when it does so in every letter case. -/
theorem newline_mem_of_sameWord {w : String} {word : List Char} (h : SameWord w word) :
    '\n' ∈ word ↔ '\n' ∈ w.toList := by
  have hfold (text : List Char) : '\n' ∈ text ↔ Text.fold '\n' ∈ text.map Text.fold := by
    rw [List.mem_map]
    constructor
    · intro hmem
      exact ⟨'\n', hmem, rfl⟩
    · rintro ⟨c, hc, heq⟩
      rwa [(Text.fold_eq_fold_iff_of_isMark (by decide)).1 heq] at hc
  rw [hfold, hfold, h]

/-- The steps of a word stay on a line if it has no line feed. -/
theorem staysOnLine_word {w : String} (h : '\n' ∉ w.toList) :
    (Step.word w).all Step.staysOnLine = true := by
  rw [List.all_eq_true]
  intro step hstep
  obtain ⟨c, hc, rfl⟩ := List.mem_map.1 hstep
  have hne : Text.fold '\n' ≠ Text.fold c := by
    intro heq
    rw [← (Text.fold_eq_fold_iff_of_isMark (by decide)).1 heq.symm] at h
    exact h hc
  simp [Step.staysOnLine, CharSet.has, hne]

/-- A word that a text holds stands on none of its lines exactly when it holds a line feed. -/
theorem firstLine?_literal_eq_none_iff {w : String} {text : List Char}
    (h : (Pattern.literal w).occursIn text = true) :
    (Pattern.literal w).firstLine? text = none ↔ '\n' ∈ w.toList := by
  have hphrase : .plain (Step.word w) ∈ Pattern.literal w := List.mem_singleton.2 rfl
  have hholds (text : List Char) : (Pattern.literal w).occursIn text = true ↔ HoldsWord w text := by
    simp [Pattern.literal, Pattern.occursIn, Phrase.occursIn_word_iff]
  constructor
  · intro hnone
    by_contra hnewline
    obtain ⟨before, word, after, rfl, hword⟩ := (hholds text).1 h
    obtain ⟨n, hn, -⟩ := Pattern.exists_firstLine?_of_word hphrase (staysOnLine_word hnewline)
      hword before after
    rw [hnone] at hn
    cases hn
  · intro hnewline
    rw [Pattern.firstLine?_eq_none_iff]
    intro line hline
    rw [Bool.eq_false_iff]
    intro hoccurs
    obtain ⟨before, word, after, rfl, hword⟩ := (hholds line).1 hoccurs
    have hmem := (newline_mem_of_sameWord hword).2 hnewline
    exact Text.not_mem_of_mem_cut hline (by simp [hmem])

/-! ## The findings of a scan -/

/-- The findings of a scan that reaches its end have the keys of the rules that hit the text. -/
theorem mem_keys_iff {catalog : Catalog} {stamp : Int} {text : List Char}
    (hends : ∃ fs, (sweep stamp text catalog.rules).findings = .ok fs) {rule : Rule}
    (hrule : rule ∈ catalog.rules) :
    rule.key ∈ (catalog.rules.filterMap fun r => r.found? stamp text).map (·.ruleKey) ↔
      rule.probe.search text = .ok true := by
  constructor
  · intro h
    obtain ⟨f, hf, hkey⟩ := List.mem_map.1 h
    obtain ⟨other, hother, hfound⟩ := List.mem_filterMap.1 hf
    have hsame : other = rule := by
      apply catalog.eq_of_key_eq hother hrule
      rw [← Rule.ruleKey_of_found? hfound, hkey]
    rw [← hsame]
    exact (Rule.found?_eq_some_iff.1 hfound).1
  · intro h
    have hholds := exists_sweep_findings_iff.1 hends rule hrule
    obtain ⟨line, hline⟩ : ∃ line, rule.probe.firstLine text = .ok line :=
      Probe.exists_firstLineFrom_iff.2 (hholds.2 h)
    have hfound : rule.found? stamp text = some (rule.finding stamp line) :=
      Rule.found?_eq_some_iff.2 ⟨h, line, hline, rfl⟩
    exact List.mem_map.2 ⟨_, List.mem_filterMap.2 ⟨rule, hrule, hfound⟩, rfl⟩

/-- What the rules of a catalog find in a text that is not empty tells what they hit, when the scan
reaches its end. -/
theorem findingsTell_filterMap (catalog : Catalog) (stamp : Int) {text : List Char}
    (htext : text ≠ []) (hends : ∃ fs, (sweep stamp text catalog.rules).findings = .ok fs) :
    FindingsTell catalog.rules text
      (catalog.rules.filterMap fun rule => rule.found? stamp text) := by
  have hkeys : (catalog.rules.map (·.key)).Nodup :=
    (firstRepeated?_eq_none_iff.1 catalog.distinct).1
  have hfound {f : Finding} (hf : f ∈ catalog.rules.filterMap fun rule => rule.found? stamp text)
      {rule : Rule} (hrule : rule ∈ catalog.rules) (hkey : f.ruleKey = rule.key) :
      rule.probe.search text = .ok true ∧
        ∃ line, rule.probe.firstLine text = .ok line ∧ f.line = line.map Int.ofNat := by
    obtain ⟨other, hother, h⟩ := List.mem_filterMap.1 hf
    rw [catalog.eq_of_key_eq hother hrule (Rule.ruleKey_of_found? h ▸ hkey)] at h
    obtain ⟨hsearch, line, hline, rfl⟩ := Rule.found?_eq_some_iff.1 h
    exact ⟨hsearch, line, hline, rfl⟩
  constructor
  case inOrder => exact sublist_keys stamp text catalog.rules
  case once => exact hkeys.sublist (sublist_keys stamp text catalog.rules)
  case exact =>
    intro rule hrule
    rw [mem_keys_iff hends hrule]
    simp [htext]
  case ids => exact nodup_ids hkeys
  case noLine =>
    intro f hf rule hrule hkey
    obtain ⟨-, line, hline, hf⟩ := hfound hf hrule hkey
    rw [hf, Option.map_eq_none_iff]
    cases line with
    | none => simpa using Probe.not_hitsLine_of_firstLine hline
    | some n => simpa using ⟨n, (Probe.isLeast_of_firstLine hline).1⟩
  case line =>
    intro f hf rule hrule hkey n
    obtain ⟨-, line, hline, hf⟩ := hfound hf hrule hkey
    rw [hf]
    cases line with
    | none =>
      constructor
      · intro hnone
        cases hnone
      · rintro ⟨hn, -⟩
        exact absurd hn (Probe.not_hitsLine_of_firstLine hline n)
    | some k =>
      have hleast := Probe.isLeast_of_firstLine hline
      constructor
      · intro hk
        obtain rfl : k = n := Int.ofNat.inj (Option.some.inj hk)
        exact hleast
      · intro hn
        rw [hleast.unique hn]
        rfl
  case inText =>
    intro f hf n hn
    obtain ⟨rule, hrule, h⟩ := List.mem_filterMap.1 hf
    obtain ⟨-, line, hline, hf⟩ := hfound hf hrule (Rule.ruleKey_of_found? h)
    rw [hf] at hn
    obtain ⟨k, rfl, rfl⟩ := Option.map_eq_some_iff.1 hn
    obtain ⟨hpos, hle⟩ := (Probe.isLeast_of_firstLine hline).1.le_lineCount
    refine ⟨Int.ofNat_le.2 hpos, ?_⟩
    intro findings
    exact Int.ofNat_le.2 hle
  case word =>
    intro f hf rule hrule hkey w hw
    obtain ⟨hsearch, line, hline, hf⟩ := hfound hf hrule hkey
    rw [hw text, Except.ok.injEq] at hsearch
    have hword : rule.probe.firstLine text = .ok ((Pattern.literal w).firstLine? text) := by
      rw [← Probe.firstLine_pattern]
      exact Probe.firstLineFrom_congr hw 1 (Text.lines text)
    rw [hword, Except.ok.injEq] at hline
    rw [hf, ← hline, Option.map_eq_none_iff, firstLine?_literal_eq_none_iff hsearch]

/-- Rules make a catalog unless two of them share a key, and the refusal names the first key that
comes a second time. A scan by a catalog reaches its end unless a search breaks down in it, whatever
the searches are, and its findings tell what the rules hit. -/
theorem catalog_findings_tell (rules : List Rule) :
    (∀ key, (∃ e, Catalog.ofRules rules = .error e ∧
        e.message = "Duplicate rule key in catalog: " ++ key) ↔
      RepeatsFirst (rules.map (·.key)) key) ∧
    ((∃ e, Catalog.ofRules rules = .error e) ↔ ¬ (rules.map (·.key)).Nodup) ∧
    ∀ catalog, Catalog.ofRules rules = .ok catalog → ∀ now text, Clock.Shows now →
      ((∃ fs, (catalog.scan now text).findings = .ok fs) ↔
        text = [] ∨ ∀ rule ∈ rules, rule.probe.HoldsUp text) ∧
      ∀ fs, (catalog.scan now text).findings = .ok fs → FindingsTell rules text fs := by
  refine ⟨?_, Catalog.exists_error_iff, ?_⟩
  · intro key
    constructor
    · rintro ⟨e, he, hmessage⟩
      have hkey : e.key = key := (String.append_right_inj _).1 hmessage
      exact hkey ▸ Catalog.ofRules_eq_error_iff.1 he
    · intro h
      exact ⟨⟨key⟩, Catalog.ofRules_eq_error_iff.2 h, rfl⟩
  · intro catalog hcatalog now text hnow
    obtain rfl := Catalog.ofRules_eq_ok_iff.1 hcatalog
    have hends : (∃ fs, (catalog.scan now text).findings = .ok fs) ↔
        text = [] ∨ ∀ rule ∈ catalog.rules, rule.probe.HoldsUp text :=
      catalog.exists_scan_findings_iff hnow
    refine ⟨hends, ?_⟩
    intro fs hfs
    by_cases htext : text = []
    · subst htext
      cases hfs
      constructor <;> simp
    · rcases Catalog.scan_findings hfs with ⟨hempty, -⟩ | ⟨stamp, -, rfl⟩
      · exact absurd hempty htext
      · have hholds := (hends.1 ⟨_, hfs⟩).resolve_left htext
        exact findingsTell_filterMap catalog stamp htext (exists_sweep_findings_iff.2 hholds)

/-- A rule that looks for something under a key. -/
def plainRule (key : String) (probe : Probe) : Rule :=
  { key, probe, severity := .low, description := "", solution := "" }

/-- A search for a letter that breaks down on what begins with another one. -/
def fussySearch (text : List Char) : Except Breakdown Bool :=
  if ['c'].isPrefixOf text then .error ⟨"catastrophe"⟩ else .ok (text.contains 'a')

/-- Five rules: one for a word that goes over two lines, one for a letter, one for what begins with
that letter, one with a search that breaks down, and one for a word that is empty. -/
def mixedRules : List Rule :=
  [plainRule "pair" (.pattern (.literal "b\nc")), plainRule "letter" (.pattern (.literal "B")),
    plainRule "opening" (.custom fun text => .ok (['b'].isPrefixOf text)),
    plainRule "fussy" (.custom fussySearch), plainRule "empty" (.pattern (.literal ""))]

/-- They find four things in three lines, on the last of which a search would break down, and with
the letter and the pair once more, they are refused for the letter. -/
theorem catalog_findings_tell_mixedRules :
    (∃ catalog fs, Catalog.ofRules mixedRules = .ok catalog ∧
      (catalog.scan .zero "a\nb\nc".toList).findings = .ok fs ∧
      FindingsTell mixedRules "a\nb\nc".toList fs ∧
      fs.map (fun f => (f.ruleKey, f.line)) =
        [("pair", none), ("letter", some 2), ("fussy", some 1), ("empty", some 1)]) ∧
    ∃ e, Catalog.ofRules (mixedRules ++ [plainRule "letter" (.pattern []),
        plainRule "pair" (.pattern [])]) = .error e ∧
      e.message = "Duplicate rule key in catalog: letter" := by
  have hnow : Clock.Shows .zero := ⟨0, by decide +kernel⟩
  constructor
  · obtain ⟨-, -, hscan⟩ := catalog_findings_tell mixedRules
    have hcatalog : Catalog.ofRules mixedRules = .ok ⟨mixedRules, by decide⟩ :=
      Catalog.ofRules_eq_ok_iff.2 rfl
    have hlines : (Catalog.scan ⟨mixedRules, by decide⟩ .zero "a\nb\nc".toList).findings.map
          (fun fs => fs.map fun f => (f.ruleKey, f.line)) =
        .ok [("pair", none), ("letter", some 2), ("fussy", some 1), ("empty", some 1)] := by
      decide +kernel
    obtain ⟨fs, hfs, hshown⟩ := map_eq_ok_iff.1 hlines
    exact ⟨_, fs, hcatalog, hfs, (hscan _ hcatalog .zero _ hnow).2 fs hfs, hshown⟩
  · obtain ⟨hrefused, -⟩ := catalog_findings_tell (mixedRules ++
      [plainRule "letter" (.pattern []), plainRule "pair" (.pattern [])])
    apply (hrefused "letter").2
    exact ⟨["pair", "letter", "opening", "fussy", "empty"], ["pair"], rfl, by decide, by decide⟩

end TokenAudit
