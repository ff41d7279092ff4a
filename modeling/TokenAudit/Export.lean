import TokenAudit.Clock
import TokenAudit.Display.Run
import TokenAudit.Document.Printer
import TokenAudit.Signal.Rating

/-!
# Exported results

The documents that results are exported as. Both name the version and the time of the export; ratios
are exported to four places and durations to two.
-/

set_option autoImplicit false

namespace TokenAudit

/-- The entries that every exported document begins with. -/
def exportHeader (time : String) : List (String × Document) :=
  [("version", .text Display.version), ("scan_time", .text time)]

/-- A tally as an object. -/
def Tally.document (t : Tally) : Document :=
  .object (t.map fun (name, n) => (name, .int n))

/-- A finding as an object. -/
def Finding.document (f : Finding) : Document :=
  .object
    [ ("id", .text f.id),
      ("rule_key", .text f.ruleKey),
      ("name", .text f.name),
      ("description", .text f.description),
      ("severity", .text f.severity.label),
      ("line", .orNull .int f.line),
      ("solution", .text f.solution) ]

/-- A summary as an object. -/
def Summary.document (s : Summary) : Document :=
  .object
    [ ("code_quality", .text s.codeQuality),
      ("system_overview", .text s.systemOverview),
      ("lines_of_code", .int s.linesOfCode),
      ("comment_ratio", .float (s.commentRatio.roundTo 4)),
      ("privileged_roles", .texts (s.privilegedRoles.map .ofString)),
      ("key_risks", .texts (s.keyRisks.map .ofString)),
      ("risk_score", .int s.riskScore),
      ("vulnerabilities_count", s.vulnerabilities.document) ]

/-- A report as an object. -/
def Report.document (r : Report) : Document :=
  .object
    [ ("file", .text r.filePath),
      ("risk_score", .int r.riskScore),
      ("error", .orNull (fun message => .text message) r.error),
      ("findings", .list (r.findings.map Finding.document)),
      ("summary", .orNull Summary.document r.summary) ]

/-- The exported document of a run at a time. -/
def Run.document (run : Run) (time : String) : Document :=
  .object (exportHeader time ++
    [ ("total_files", .int run.totalFiles),
      ("total_findings", .int run.totalFindings),
      ("severity_counts", run.severityCounts.document),
      ("duration_seconds", .float (run.duration.roundTo 2)),
      ("errors", .int run.errors),
      ("results", .list (run.reports.map Report.document)) ])

/-- The exported document of a rating at a time. -/
def Rating.document (r : Rating) (time : String) : Document :=
  .object (exportHeader time ++
    [("level", .text r.level.heading), ("reasons", .texts r.reasons)])

end TokenAudit
