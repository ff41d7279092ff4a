import TokenAudit.Proofs.Audit.Ids
import TokenAudit.Proofs.Pattern.LineEnding
import TokenAudit.Proofs.Summary.LineEnding

/-!
# Audits and line endings

The patterns of the built-in catalog tolerate carriage returns, in the whole text and in each of its
lines. So a rule hits a text on the same line whichever way the lines end, a scan finds the same,
and an audit gives the same report.
-/

set_option autoImplicit false

namespace TokenAudit

open Text (withReturns)

/-- Every built-in rule tolerates carriage returns in front of line feeds. -/
theorem builtinRules_tolerateReturns : ∀ rule ∈ builtinRules,
    ∃ ps, rule.probe = .pattern ps ∧ ∀ p ∈ ps, p.toleratesReturns = true := by
  have hrules : builtinRules.all
      (fun rule => rule.probe.isPatternWith fun ps => ps.all Phrase.toleratesReturns) = true := by
    decide +kernel
  intro rule hrule
  obtain ⟨ps, hps, htolerates⟩ := exists_pattern_of_all hrules rule hrule
  exact ⟨ps, hps, List.all_eq_true.1 htolerates⟩

/-- A tolerant pattern has its first match on the same line when the returns are there. -/
theorem Pattern.firstLine?_withReturns {ps : Pattern}
    (hps : ∀ p ∈ ps, p.toleratesReturns = true) (text : List Char) :
    ps.firstLine? (withReturns text) = ps.firstLine? text := by
  apply Pattern.firstLine?_congr
  apply (Text.lines_withReturns text).imp
  rintro line line' (rfl | rfl)
  · rfl
  · exact Pattern.occursIn_append_return hps line

/-- A built-in rule hits a text on the same line whichever way the lines end. -/
theorem hit?_withReturns {rule : Rule} (hrule : rule ∈ builtinRules) (stamp : Int)
    (text : List Char) : rule.hit? stamp (withReturns text) = rule.hit? stamp text := by
  obtain ⟨ps, hps, htolerates⟩ := builtinRules_tolerateReturns rule hrule
  exact Rule.hit?_congr hps (Pattern.occursIn_withReturns htolerates text)
    (Pattern.firstLine?_withReturns htolerates text) stamp

/-- The built-in rules find the same in a text with carriage returns. -/
theorem builtinCatalog_scan_withReturns (now : Binary64) (text : List Char) :
    builtinCatalog.scan now (withReturns text) = builtinCatalog.scan now text :=
  Catalog.scan_congr Text.withReturns_eq_nil_iff
    (fun _ hrule stamp => hit?_withReturns hrule stamp text) now

/-- So the audit by them ends with the same report. -/
theorem audit_builtin_withReturns (severity : Grade) (now : Binary64) (path : String)
    (text : List Char) :
    AuditPlan.audit ⟨builtinCatalog, severity, now⟩ path (withReturns text) =
      AuditPlan.audit ⟨builtinCatalog, severity, now⟩ path text := by
  unfold AuditPlan.audit
  simp only [builtinCatalog_scan_withReturns, Report.ofFindings, summarize_withReturns]

/-- An audit of a text by the built-in catalog, and one of the same text with a carriage return in
front of every line feed, give the same report but for ids, at whatever severity and times. -/
theorem line_endings_do_not_matter (severity : Grade) (path : String) (text : List Char)
    {now now' : Binary64} (hnow : Clock.Shows now) (hnow' : Clock.Shows now') :
    ∃ r r', (AuditPlan.audit ⟨builtinCatalog, severity, now⟩ path text).report = .ok r ∧
      (AuditPlan.audit ⟨builtinCatalog, severity, now'⟩ path (withReturns text)).report = .ok r' ∧
      r'.withoutIds = r.withoutIds := by
  rw [audit_builtin_withReturns]
  exact audit_builtin_agree severity path text hnow hnow'

/-- A call that is guarded from the next line, and an owner's function below a block comment that
goes over a line. -/
def foldedCall : List Char :=
  "a.call\x7b\x7d();\n_amount = 0;\n/* by\n */ function\nmint() onlyOwner // burn".toList

/-- The report on a text whose constructs go over its lines does not change with their endings. -/
theorem line_endings_do_not_matter_foldedCall :
    Clock.Shows .zero ∧ Clock.Shows (.ofInt 1700000000) ∧
    ∃ r r', (AuditPlan.audit ⟨builtinCatalog, .low, .zero⟩ "a.sol" foldedCall).report = .ok r ∧
      (AuditPlan.audit ⟨builtinCatalog, .low, .ofInt 1700000000⟩ "a.sol"
        (withReturns foldedCall)).report = .ok r' ∧
      r'.withoutIds = r.withoutIds := by
  have hzero : Clock.Shows .zero := ⟨0, by decide +kernel⟩
  have hlater : Clock.Shows (.ofInt 1700000000) := ⟨1700000000000, by decide +kernel⟩
  exact ⟨hzero, hlater, line_endings_do_not_matter .low "a.sol" foldedCall hzero hlater⟩

end TokenAudit
