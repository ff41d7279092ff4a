import TokenAudit.Proofs.Scan.Words
import TokenAudit.Summary.Basic

/-!
# The findings behind the roles

A role is described when a capability's name and the owner's gate share a line, and the built-in
rules look for some of the same words. Whatever text has the role then has the finding as well,
with a line: the gate is a word of the rule on the owner's privileges, `pause` one of the rule on
pausable tokens, and `blacklist` and the beginning of `excludeFromFee` are words of the rule on
blacklists.
-/

set_option autoImplicit false

namespace TokenAudit

variable {text : List Char} {now : Binary64}

/-- Two words with anything of a line between them are both held. -/
theorem holdsWord_of_occursIn {a b : String}
    (h : (Phrase.plain (Step.word a ++ Step.sameLine ++ Step.word b)).occursIn text = true) :
    HoldsWord a text ∧ HoldsWord b text := by
  obtain ⟨before, segment, after, rfl, hspells, -⟩ := Phrase.occursIn_iff.1 h
  obtain ⟨front, second, rfl, hfront, hsecond⟩ := Spells.append_iff.1 hspells
  obtain ⟨first, between, rfl, hfirst, -⟩ := Spells.append_iff.1 hfront
  have ha := (holdsWord_of_spells hfirst).around before (between ++ second ++ after)
  have hb := (holdsWord_of_spells hsecond).around (before ++ (first ++ between)) after
  constructor
  · simpa using ha
  · simpa using hb

/-- A text with an owner's capability holds the capability's name and the owner's gate. -/
theorem Capability.holdsWords {c : Capability} (h : c.ownerGated.occursIn text = true) :
    HoldsWord c.name text ∧ HoldsWord ownerGate text := by
  obtain ⟨p, hp, hoccurs⟩ := List.any_eq_true.1 h
  rcases List.mem_pair.1 hp with rfl | rfl
  · exact holdsWord_of_occursIn hoccurs
  · exact (holdsWord_of_occursIn hoccurs).symm

/-- A role is privileged exactly when a capability of that name is gated. -/
theorem mem_privilegedRoles_iff {role : String} : role ∈ privilegedRoles text ↔
    ∃ c ∈ capabilities, c.ownerGated.occursIn text = true ∧ c.description = role := by
  simp [privilegedRoles, and_assoc]

/-- The description of a role tells its capability. -/
theorem eq_of_description_eq : ∀ c ∈ capabilities, ∀ c' ∈ capabilities,
    c.description = c'.description → c = c' := by
  decide

/-- A text with a role holds the name of the role's capability. -/
theorem holdsWord_of_role {c : Capability} (hc : c ∈ capabilities)
    (h : c.description ∈ privilegedRoles text) : HoldsWord c.name text := by
  obtain ⟨c', hc', hoccurs, hsame⟩ := mem_privilegedRoles_iff.1 h
  rw [eq_of_description_eq c' hc' c hc hsame] at hoccurs
  exact (Capability.holdsWords hoccurs).1

/-- A text with any role holds the owner's gate. -/
theorem holdsWord_ownerGate (h : privilegedRoles text ≠ []) : HoldsWord ownerGate text := by
  obtain ⟨role, hrole⟩ := List.exists_mem_of_ne_nil _ h
  obtain ⟨c, -, hoccurs, -⟩ := mem_privilegedRoles_iff.1 hrole
  exact (Capability.holdsWords hoccurs).2

/-- The owner's gate is a word of the rule on the owner's privileges. -/
theorem exists_rule_of_ownerGate : ∃ rule ∈ builtinRules, rule.key = "owner_privileges" ∧
    ∃ ps, rule.probe = .pattern ps ∧ .plain (Step.word ownerGate) ∈ ps ∧
      (Step.word ownerGate).all Step.staysOnLine = true := by
  have hrule : ∃ rule ∈ builtinRules, rule.key = "owner_privileges" ∧
      rule.probe.isPatternWith (·.contains (.plain (Step.word ownerGate))) = true ∧
      (Step.word ownerGate).all Step.staysOnLine = true := by
    decide
  obtain ⟨rule, hmem, hkey, hprobe, hline⟩ := hrule
  obtain ⟨ps, hps, hcontains⟩ := Probe.isPatternWith_iff.1 hprobe
  exact ⟨rule, hmem, hkey, ps, hps, List.contains_iff_mem.1 hcontains, hline⟩

/-- Privileges of an owner are reported on a line where the text holds the word that gates. -/
theorem exists_reports_ownerPrivileges (hnow : Clock.Shows now) (h : HoldsWord ownerGate text) :
    ∃ n, builtinCatalog.Reports now text "owner_privileges" (some n) := by
  obtain ⟨before, word, after, rfl, hword⟩ := h
  obtain ⟨rule, hrule, hkey, ps, hps, hw, hline⟩ := exists_rule_of_ownerGate
  obtain ⟨n, -, hreports⟩ := exists_reports_of_word hnow hrule hps hw hline hword before after
  exact ⟨n, hkey ▸ hreports⟩

/-- A text that holds a word that a rule looks for has the rule reported, with a line. -/
theorem exists_reports_of_holdsWord (hnow : Clock.Shows now) {key w : String}
    (hsought : (key, w) ∈ soughtWords) (h : HoldsWord w text) :
    ∃ n, builtinCatalog.Reports now text key (some n) := by
  obtain ⟨before, word, after, rfl, hword⟩ := h
  obtain ⟨n, -, hreports⟩ := exists_reports_of_soughtWord hnow hsought hword before after
  exact ⟨n, hreports⟩

/-- Every text with a role has the rule on the owner's privileges reported, one whose owner can
pause trading the rule on pausable tokens, and one whose owner can blacklist addresses, or exclude
them from fees, the rule on blacklists; each of them with a line. -/
theorem roles_have_findings (hnow : Clock.Shows now) (text : List Char) :
    (privilegedRoles text ≠ [] →
      ∃ n, builtinCatalog.Reports now text "owner_privileges" (some n)) ∧
    ("Owner can pause trading" ∈ privilegedRoles text →
      ∃ n, builtinCatalog.Reports now text "pausable_tokens" (some n)) ∧
    ("Owner can blacklist addresses" ∈ privilegedRoles text ∨
        "Owner can exclude addresses from fees" ∈ privilegedRoles text →
      ∃ n, builtinCatalog.Reports now text "blacklist_feature" (some n)) := by
  refine ⟨?_, ?_, ?_⟩
  · intro h
    exact exists_reports_ownerPrivileges hnow (holdsWord_ownerGate h)
  · intro h
    have hword := holdsWord_of_role (c := ⟨"pause", _⟩) (by decide) h
    exact exists_reports_of_holdsWord hnow (by decide) hword
  · rintro (h | h)
    · have hword := holdsWord_of_role (c := ⟨"blacklist", _⟩) (by decide) h
      exact exists_reports_of_holdsWord hnow (by decide) hword
    · have hword : HoldsWord ("exclude" ++ "FromFee") text :=
        holdsWord_of_role (c := ⟨"excludeFromFee", _⟩) (by decide) h
      have hexclude : HoldsWord "exclude" text := HoldsWord.of_append hword
      exact exists_reports_of_holdsWord hnow (by decide) hexclude

/-- Two lines, on each of which a capability and the gate stand in an order and a case of their
own. -/
def gatedLines : List Char :=
  "PAUSE() onlyowner {}\nonlyOwner excludefromfee;".toList

/-- All three rules are reported for them. -/
theorem roles_have_findings_gatedLines :
    Clock.Shows .zero ∧
      privilegedRoles gatedLines =
        ["Owner can pause trading", "Owner can exclude addresses from fees"] ∧
      (∃ n, builtinCatalog.Reports .zero gatedLines "owner_privileges" (some n)) ∧
      (∃ n, builtinCatalog.Reports .zero gatedLines "pausable_tokens" (some n)) ∧
      ∃ n, builtinCatalog.Reports .zero gatedLines "blacklist_feature" (some n) := by
  have hnow : Clock.Shows .zero := ⟨0, by decide +kernel⟩
  have hroles : privilegedRoles gatedLines =
      ["Owner can pause trading", "Owner can exclude addresses from fees"] := by
    decide
  obtain ⟨howner, hpause, hblacklist⟩ := roles_have_findings hnow gatedLines
  refine ⟨hnow, hroles, howner ?_, hpause ?_, hblacklist (.inr ?_)⟩
  all_goals rw [hroles]
  all_goals decide

end TokenAudit
