import TokenAudit.Scan
import TokenAudit.Source
import TokenAudit.Summary.Basic

/-!
# The audit of one source

An audit scans a source, keeps the findings of at least the asked severity, and scores and
summarizes those. A report that carries an error has no summary and no findings.
-/

set_option autoImplicit false

namespace TokenAudit

/-- The report on one source. -/
structure Report where
  filePath : String
  findings : List Finding
  summary : Option Summary
  riskScore : Int
  error : Option String
  deriving DecidableEq

/-- The report on a source that could not be audited. -/
def Report.failed (filePath message : String) : Report :=
  { filePath, findings := [], summary := none, riskScore := 0, error := some message }

/-- The report on a text with the given findings. -/
def Report.ofFindings (filePath : String) (text : List Char) (findings : List Finding) : Report :=
  { filePath
    findings
    summary := some (summarize text findings)
    riskScore := score findings
    error := none }

/-- What an audit is asked to do: which rules to run, which severities to keep, and at what time. -/
structure AuditPlan where
  catalog : Catalog
  severity : Grade
  now : Binary64

/-- The result of an audit. -/
structure Audited where
  notes : List Note
  report : Except ScanFault Report

/-- Audits a text. -/
def AuditPlan.audit (plan : AuditPlan) (filePath : String) (text : List Char) : Audited :=
  let scanned := plan.catalog.scan plan.now text
  { notes := scanned.notes
    report := scanned.findings.map fun findings =>
      .ofFindings filePath text (findings.filter fun f => plan.severity ≤ f.severity) }

/-- Audits a value that is given as a source. -/
def AuditPlan.auditValue (plan : AuditPlan) (filePath : String) (source : Datum) :
    Except NotText Audited :=
  source.sourceText.map (plan.audit filePath)

end TokenAudit
