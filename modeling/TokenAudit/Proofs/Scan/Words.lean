import TokenAudit.Proofs.Pattern.Shape
import TokenAudit.Proofs.Scan.RecordedLine
import TokenAudit.Proofs.Scan.Reports

/-!
# Rules that look for words

Five of the built-in rules look for words and for nothing else. Wherever a text holds one of them,
in whatever letter case, the rule is reported, and the line recorded lies no further down than the
word.
-/

set_option autoImplicit false

namespace TokenAudit

namespace Pattern

variable {ps : Pattern} {w : String} {word : List Char}

/-- A pattern with a word among its phrases occurs wherever the word stands. -/
theorem occursIn_of_word (hw : .plain (Step.word w) ∈ ps)
    (hword : word.map Text.fold = w.toList.map Text.fold) (before after : List Char) :
    ps.occursIn (before ++ word ++ after) = true := by
  have hoccurs : (Phrase.plain (Step.word w)).occursIn (before ++ word ++ after) = true :=
    Phrase.occursIn_word_iff.2 ⟨before, word, after, rfl, hword⟩
  exact List.any_eq_true.2 ⟨_, hw, hoccurs⟩

/-- The first line in which a pattern occurs is no later than the line of any of its words. -/
theorem exists_firstLine?_of_word (hw : .plain (Step.word w) ∈ ps)
    (hline : (Step.word w).all Step.staysOnLine = true)
    (hword : word.map Text.fold = w.toList.map Text.fold) (before after : List Char) :
    ∃ n, ps.firstLine? (before ++ word ++ after) = some n ∧ n ≤ before.count '\n' + 1 := by
  have hunbroken : '\n' ∉ word :=
    (spells_word_iff.2 hword).newline_not_mem (List.all_eq_true.1 hline)
  obtain ⟨start, rest, -, hat⟩ := Text.exists_line_around hunbroken before after
  have hoccurs := occursIn_of_word hw hword start rest
  unfold firstLine?
  cases hfirst : (Text.lines (before ++ word ++ after)).findIdx? ps.occursIn with
  | none =>
    have hnone := List.findIdx?_eq_none_iff.1 hfirst _ (List.mem_of_getElem? hat)
    rw [hoccurs] at hnone
    cases hnone
  | some i =>
    refine ⟨i + 1, rfl, ?_⟩
    obtain ⟨hi, -, hbefore⟩ := List.findIdx?_eq_some_iff_getElem.1 hfirst
    apply Nat.le_of_not_lt
    intro hlate
    have hmiss := hbefore (before.count '\n') (by omega)
    obtain ⟨_, hitem⟩ := List.getElem?_eq_some_iff.1 hat
    rw [hitem] at hmiss
    exact hmiss hoccurs

end Pattern

/-- A built-in rule with a word among the phrases of its pattern is reported for a text that holds
the word, with a line no further down than the word. -/
theorem exists_reports_of_word {now : Binary64} (hnow : Clock.Shows now) {rule : Rule}
    (hrule : rule ∈ builtinRules) {ps : Pattern} (hps : rule.probe = .pattern ps) {w : String}
    (hw : .plain (Step.word w) ∈ ps) (hline : (Step.word w).all Step.staysOnLine = true)
    {word : List Char} (hword : word.map Text.fold = w.toList.map Text.fold)
    (before after : List Char) :
    ∃ n, n ≤ 1 + before.count '\n' ∧
      builtinCatalog.Reports now (before ++ word ++ after) rule.key (some n) := by
  obtain ⟨n, hfirst, hn⟩ := Pattern.exists_firstLine?_of_word hw hline hword before after
  have hoccurs := Pattern.occursIn_of_word hw hword before after
  exact ⟨n, by omega, (builtinCatalog_reports_iff hrule hps).2 ⟨hnow, hoccurs, hfirst.symm⟩⟩

/-- The words that the built-in rules look for which look for words only, each with the rule's
key. -/
def soughtWords : List (String × String) :=
  [("tx_origin", "tx.origin"), ("transfer_ownership", "transferOwnership"),
    ("pausable_tokens", "pause"), ("pausable_tokens", "pausable"),
    ("pausable_tokens", "whenNotPaused"), ("blacklist_feature", "blacklist"),
    ("blacklist_feature", "blocklist"), ("blacklist_feature", "banned"),
    ("blacklist_feature", "exclude"), ("self_destruct", "selfdestruct"),
    ("self_destruct", "suicide")]

/-- The rules for which words are listed look for these words and for nothing else. -/
theorem builtinRules_soughtWords : ∀ rule ∈ builtinRules, rule.key ∈ soughtWords.map Prod.fst →
    rule.probe = .pattern (.anyWord ((soughtWords.filter (·.1 = rule.key)).map Prod.snd)) := by
  have hrules : ∀ rule ∈ builtinRules, rule.key ∈ soughtWords.map Prod.fst →
      rule.probe.isPatternWith (fun ps =>
        ps == .anyWord ((soughtWords.filter (·.1 = rule.key)).map Prod.snd)) = true := by
    decide
  intro rule hrule hkey
  obtain ⟨ps, hps, hwords⟩ := Probe.isPatternWith_iff.1 (hrules rule hrule hkey)
  rw [hps, eq_of_beq hwords]

/-- Each word that is sought belongs to a rule, and stays on a line. -/
theorem exists_rule_of_soughtWord : ∀ sought ∈ soughtWords,
    (∃ rule ∈ builtinRules, rule.key = sought.1) ∧
      (Step.word sought.2).all Step.staysOnLine = true := by
  decide

/-- None of these words is empty. -/
theorem soughtWords_ne_nil : ∀ sought ∈ soughtWords, sought.2.toList ≠ [] := by
  decide

/-- A text that holds a word that a built-in rule looks for has the rule reported, with a line no
further down than the word. -/
theorem exists_reports_of_soughtWord {now : Binary64} (hnow : Clock.Shows now) {key w : String}
    (hsought : (key, w) ∈ soughtWords) {word : List Char}
    (hword : word.map Text.fold = w.toList.map Text.fold) (before after : List Char) :
    ∃ n, n ≤ 1 + before.count '\n' ∧
      builtinCatalog.Reports now (before ++ word ++ after) key (some n) := by
  obtain ⟨⟨rule, hrule, hkey⟩, hline⟩ := exists_rule_of_soughtWord (key, w) hsought
  have hlisted : rule.key ∈ soughtWords.map Prod.fst := by
    rw [hkey]
    exact List.mem_map_of_mem hsought
  have hps := builtinRules_soughtWords rule hrule hlisted
  have hw : w ∈ (soughtWords.filter (·.1 = rule.key)).map Prod.snd := by
    refine List.mem_map.2 ⟨(key, w), List.mem_filter.2 ⟨hsought, ?_⟩, rfl⟩
    simpa using hkey.symm
  have hphrase : .plain (Step.word w) ∈
      Pattern.anyWord ((soughtWords.filter (·.1 = rule.key)).map Prod.snd) :=
    List.mem_map_of_mem hw
  have hreports := exists_reports_of_word hnow hrule hps hphrase hline hword before after
  rwa [hkey] at hreports

end TokenAudit
