import TokenAudit.Binary64.Decimal
import TokenAudit.Display.Basic
import TokenAudit.Run

/-!
# Showing a run

The reports of a run are shown one after the other, with a table of findings each; the details of a
finding and the summary of a source are shown on request. The totals of the run follow in a table of
their own.
-/

set_option autoImplicit false

namespace TokenAudit.Display

/-- The version that is shown and exported. -/
def version : String := "0.1.0"

/-- The banner. -/
def banner : List Item :=
  [.panel
    { body := styled "bold cyan" "RugWatch" ++ " v" ++ version ++ "\n" ++
        styled "dim" "Smart Contract & Token Risk Analyzer"
      borderStyle := "cyan"
      expand := false }]

/-- The style of a severity. -/
def severityStyle : Grade → String
  | .high => "bold red"
  | .medium => "yellow"
  | .low => "cyan"

/-- The style of a report's path: that of the highest severity among its findings. -/
def pathStyle : List Finding → String
  | [] => "green"
  | f :: rest => severityStyle (rest.foldl (fun g f => g.atLeast f.severity) f.severity)

/-- The line of a finding as shown; a line that is missing or zero is a dash. -/
def lineText : Option Int → String
  | none => "-"
  | some n => if n = 0 then "-" else toString n

/-- The row of a finding. -/
def findingRow (verbose : Bool) (f : Finding) : List String :=
  [f.name, styled (severityStyle f.severity) f.severity.heading, f.description] ++
    if verbose then [lineText f.line, f.solution] else []

/-- The table of a report's findings. -/
def findingTable (verbose : Bool) (findings : List Finding) : Table :=
  { columns :=
      [ { header := "Rule", style := "dim", width := some 22 },
        { header := "Severity", width := some 8 },
        { header := "Description" } ] ++
      if verbose then
        [ { header := "Line", justify := .right, width := some 6 },
          { header := "Remediation", maxWidth := some 60 } ]
      else []
    rows := findings.map (findingRow verbose)
    headerStyle := "bold"
    boxed := false }

/-- The panel with the summary of a source. -/
def summaryPanel (s : Summary) : Panel :=
  let roles :=
    if s.privilegedRoles.isEmpty then []
    else ("\n" ++ styled "bold" "Privileged roles") :: s.privilegedRoles.map ("  - " ++ ·)
  { body := "\n".intercalate ([s.systemOverview, s.codeQuality] ++ roles)
    title := some "Audit Summary"
    borderStyle := "dim" }

/-- What is shown of one report. -/
def reportItems (verbose : Bool) (r : Report) : List Item :=
  if r.showsError then
    [.line (styled "red" r.filePath ++ "  " ++ styled "dim" (r.error.getD "") ++ "\n")]
  else
    [.line (styled (pathStyle r.findings) r.filePath ++ "  " ++
      styled "dim" ("Risk Score: " ++ toString r.riskScore ++ "/100"))] ++
    (if r.findings.isEmpty then
      [.line (styled "green" "  No known risky constructs detected.")]
    else [.table (findingTable verbose r.findings)]) ++
    (match r.summary with
      | some s => if verbose then [.panel (summaryPanel s)] else []
      | none => []) ++
    [.line ""]

/-- What is shown of the reports of a run. -/
def runItems (verbose : Bool) (run : Run) : List Item :=
  if run.reports.isEmpty then
    [.line ("\n" ++ styled "yellow" "No contract sources found.")]
  else
    .line ("\n" ++ styled "bold" ("Found " ++ toString run.totalFindings ++ " findings in " ++
      toString run.reports.length ++ " contracts:") ++ "\n") ::
    run.reports.flatMap (reportItems verbose)

/-- The row of the number of findings of a severity. -/
def severityRow (run : Run) (caption : String) (g : Grade) : List String :=
  [caption, styled (severityStyle g) (toString (run.severityCounts.count g.heading))]

/-- The table of a run's totals. -/
def totalsTable (run : Run) : Table :=
  { columns := [{ header := "Metric", style := "bold" }, { header := "Value", justify := .right }]
    rows :=
      [ ["Contracts scanned", toString run.totalFiles],
        ["Total findings", toString run.totalFindings],
        severityRow run "High" .high,
        severityRow run "Medium" .medium,
        severityRow run "Low" .low,
        ["Scan duration", run.duration.fixedText 2 ++ "s"] ] ++
      if run.errors = 0 then [] else [["Errors", styled "red" (toString run.errors)]]
    title := some "Audit Summary"
    showHeader := false
    borderStyle := "dim" }

/-- What is shown of a run's totals. -/
def totalsItems (run : Run) : List Item :=
  [.line "", .table (totalsTable run)]

end TokenAudit.Display
