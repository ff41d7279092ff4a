import TokenAudit.Proofs.Audit.Ids
import TokenAudit.Proofs.Pattern.LetterCase
import TokenAudit.Summary.Role

/-!
# Audits and letter case

The patterns of the built-in rules and of the owner's capabilities leave out no letters by name. So
putting letters of ASCII into the other case, at any places of a text, takes no hit from a rule and
gives none to it, neither in the whole text nor in one of its lines, and it changes no role.
-/

set_option autoImplicit false

namespace TokenAudit

open Text (Recased)

variable {text recased : List Char}

/-- No built-in rule asks for a letter in one case only. -/
theorem builtinRules_spareLetters : ∀ rule ∈ builtinRules,
    ∃ ps, rule.probe = .pattern ps ∧ ∀ p ∈ ps, p.sparesLetters = true := by
  have hrules : builtinRules.all
      (fun rule => rule.probe.isPatternWith fun ps => ps.all Phrase.sparesLetters) = true := by
    decide +kernel
  intro rule hrule
  obtain ⟨ps, hps, hspares⟩ := exists_pattern_of_all hrules rule hrule
  exact ⟨ps, hps, List.all_eq_true.1 hspares⟩

/-- Neither does a pattern by which a role is recognised. -/
theorem capabilities_spareLetters :
    ∀ c ∈ capabilities, ∀ p ∈ c.ownerGated, p.sparesLetters = true := by
  decide +kernel

/-- Such a pattern has its first match on the same line of a text with other letter case. -/
theorem Pattern.firstLine?_of_recased {ps : Pattern} (hps : ∀ p ∈ ps, p.sparesLetters = true)
    (h : Recased text recased) : ps.firstLine? recased = ps.firstLine? text := by
  apply Pattern.firstLine?_congr
  apply h.lines.imp
  intro line line' hline
  exact Pattern.ignoresCase_occursIn hps line line' hline

/-- A built-in rule hits a text on the same line whatever the case of its letters. -/
theorem hit?_of_recased {rule : Rule} (hrule : rule ∈ builtinRules) (stamp : Int)
    (h : Recased text recased) : rule.hit? stamp recased = rule.hit? stamp text := by
  obtain ⟨ps, hps, hspares⟩ := builtinRules_spareLetters rule hrule
  exact Rule.hit?_congr hps (Pattern.ignoresCase_occursIn hspares text recased h)
    (Pattern.firstLine?_of_recased hspares h) stamp

/-- The built-in rules find the same in a text with other letter case. -/
theorem builtinCatalog_scan_of_recased (now : Binary64) (h : Recased text recased) :
    builtinCatalog.scan now recased = builtinCatalog.scan now text :=
  Catalog.scan_congr h.eq_nil_iff (fun _ hrule stamp => hit?_of_recased hrule stamp h) now

/-- Such a text has the same privileged roles. -/
theorem privilegedRoles_of_recased (h : Recased text recased) :
    privilegedRoles recased = privilegedRoles text := by
  unfold privilegedRoles
  congr 1
  apply List.filter_congr
  intro c hc
  exact Pattern.ignoresCase_occursIn (capabilities_spareLetters c hc) text recased h

/-- Two texts that differ in the case of letters of ASCII only, at whatever places, have the same
findings but for ids: the same rules in the same order with the same lines. They also have the same
roles. -/
theorem letter_case_does_not_matter (h : Recased text recased) {now now' : Binary64}
    (hnow : Clock.Shows now) (hnow' : Clock.Shows now') :
    (∃ fs fs', (builtinCatalog.scan now text).findings = .ok fs ∧
      (builtinCatalog.scan now' recased).findings = .ok fs' ∧
      fs'.map (fun f => (f.ruleKey, f.line)) = fs.map (fun f => (f.ruleKey, f.line)) ∧
      fs'.map Finding.withoutId = fs.map Finding.withoutId) ∧
    privilegedRoles recased = privilegedRoles text := by
  obtain ⟨fs, hfs⟩ := exists_builtinCatalog_scan hnow text
  obtain ⟨fs', hfs'⟩ := exists_builtinCatalog_scan hnow' text
  have hids := builtinCatalog.scan_findings_withoutId hnow hnow' text
  rw [hfs, hfs'] at hids
  have hsame : fs'.map Finding.withoutId = fs.map Finding.withoutId := (Except.ok.inj hids).symm
  refine ⟨⟨fs, fs', hfs, ?_, ?_, hsame⟩, privilegedRoles_of_recased h⟩
  · rw [builtinCatalog_scan_of_recased now' h, hfs']
  · have hkept := congrArg (List.map fun f : Finding => (f.ruleKey, f.line)) hsame
    rw [List.map_map, List.map_map] at hkept
    exact hkept

/-- A gated function with a call that is guarded from the line below, and an address. -/
def gatedMint : List Char :=
  ("function mint() onlyOwner \x7b a.call\x7b\x7d(); \x7d\n_amount = 0; " ++
    "address(0xabcdefabcdefabcdefabcdefabcdefabcdefabcd)").toList

/-- The same lines with other letters as capitals, those of the guard and of the address
included. -/
def capitalMint : List Char :=
  ("FUNCTION miNT() ONLYowner \x7b a.CALL\x7b\x7d(); \x7d\n_AMOUNT = 0; " ++
    "Address(0XABCDEFabcdefABCDEFabcdefABCDEFabcdefABCD)").toList

/-- What is found in the one is found in the other, on the same lines. -/
theorem letter_case_does_not_matter_gatedMint :
    Recased gatedMint capitalMint ∧ Clock.Shows .zero ∧ Clock.Shows (.ofInt 1700000000) ∧
      (∃ fs, (builtinCatalog.scan (.ofInt 1700000000) capitalMint).findings = .ok fs ∧
        fs.map (fun f => (f.ruleKey, f.line)) =
          [("unchecked_call_return", some 1), ("owner_privileges", some 1),
            ("hardcoded_address", some 2), ("minting_function", some 1)]) ∧
      privilegedRoles capitalMint = privilegedRoles gatedMint := by
  have hrecased : Recased gatedMint capitalMint := by decide +kernel
  have hzero : Clock.Shows .zero := ⟨0, by decide +kernel⟩
  have hlater : Clock.Shows (.ofInt 1700000000) := ⟨1700000000000, by decide +kernel⟩
  have hscan : (builtinCatalog.scan .zero gatedMint).findings.map
        (fun fs => fs.map fun f => (f.ruleKey, f.line)) =
      .ok [("unchecked_call_return", some 1), ("owner_privileges", some 1),
        ("hardcoded_address", some 2), ("minting_function", some 1)] := by decide +kernel
  obtain ⟨⟨fs, fs', hfs, hfs', hlines, -⟩, hroles⟩ :=
    letter_case_does_not_matter hrecased hzero hlater
  rw [hfs] at hscan
  exact ⟨hrecased, hzero, hlater, ⟨fs', hfs', hlines.trans (Except.ok.inj hscan)⟩, hroles⟩

end TokenAudit
