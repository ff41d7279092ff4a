import TokenAudit.Audit
import TokenAudit.FileTree.Discovery
import TokenAudit.FileTree.Source

/-!
# Auditing a tree of files

A run audits every source that a list of paths stands for, one after the other in the order of
discovery. It opens with the number of sources and takes in one report after the other, which it
counts as an error when it carries a message that is not empty. When all are in, it sorts the
reports from the riskiest on, and counts their findings one by one.
-/

set_option autoImplicit false

namespace TokenAudit

/-- The result of a run. -/
structure Run where
  totalFiles : Int
  totalFindings : Int
  errors : Int
  duration : Binary64
  severityCounts : Tally
  reports : List Report
  deriving DecidableEq

/-- The tally that a run begins with. -/
def Run.noFindings : Tally :=
  Grade.descending.map fun g => (g.heading, 0)

/-- Whether a report is taken for that of a failed audit. -/
def Report.showsError (r : Report) : Bool :=
  match r.error with
  | some message => message != ""
  | none => false

/-- What is told before each source is audited: its path, its place in the order of discovery, and
the number of all sources. -/
structure Progress where
  path : String
  index : Nat
  total : Nat
  deriving DecidableEq

/-- The result of auditing one file. -/
structure FileAudit where
  notes : List Note
  report : Report

/-- Audits what was read of the source at a path. A source that was not read, or whose audit breaks
down, has a report that carries the message. -/
def AuditPlan.auditRead (plan : AuditPlan) (path : String) (source : SourceRead) : FileAudit :=
  match source.text with
  | none => { notes := source.notes, report := .failed path "Could not read file" }
  | some text =>
    let audited := plan.audit path text
    match audited.report with
    | .ok report => { notes := source.notes ++ audited.notes, report }
    | .error e =>
      { notes := source.notes ++ audited.notes ++ [.failedAnalysis path e.message]
        report := .failed path e.message }

/-- Audits the source at a path. -/
def AuditPlan.auditFile (plan : AuditPlan) (tree : FileTree) (path : String) :
    Except FileError FileAudit :=
  (tree.readSource path).map (plan.auditRead path)

/-- The reports from the riskiest on; equal risks keep their order. -/
def byRisk (reports : List Report) : List Report :=
  reports.mergeSort fun a b => b.riskScore ≤ a.riskScore

/-- The run over a number of sources, as it opens. -/
def Run.opening (totalFiles : Nat) : Run :=
  { totalFiles
    totalFindings := 0
    errors := 0
    duration := .zero
    severityCounts := Run.noFindings
    reports := [] }

/-- Takes one more report into a run. -/
def Run.addReport (run : Run) (r : Report) : Run :=
  { run with
    reports := run.reports ++ [r]
    errors := if r.showsError then run.errors + 1 else run.errors }

/-- Counts one more finding. -/
def Run.countFinding (run : Run) (f : Finding) : Run :=
  { run with
    totalFindings := run.totalFindings + 1
    severityCounts := run.severityCounts.increment f.severity.heading }

/-- Sorts the reports of a run, and counts their findings. -/
def Run.close (run : Run) : Run :=
  let sorted := { run with reports := byRisk run.reports }
  sorted.reports.foldl (fun run r => r.findings.foldl Run.countFinding run) sorted

/-- The result of auditing a tree: what was told along the way, the notes, and the run. -/
structure TreeAudit where
  progress : List Progress
  notes : List Note
  run : Run

/-- What there is before the first of so many sources is audited. -/
def TreeAudit.opening (total : Nat) : TreeAudit :=
  { progress := [], notes := [], run := .opening total }

/-- Audits the next of so many sources: tells of it, audits it, and takes in its report. -/
def TreeAudit.next (audit : String → Except FileError FileAudit) (total : Nat)
    (audited : TreeAudit) (file : String × Nat) : Except FileError TreeAudit := do
  let result ← audit file.1
  return {
    progress := audited.progress ++ [⟨file.1, file.2, total⟩]
    notes := audited.notes ++ result.notes
    run := audited.run.addReport result.report }

/-- Audits sources one after the other. -/
def auditSources (audit : String → Except FileError FileAudit) (files : List String) :
    Except FileError TreeAudit := do
  let audited ← files.zipIdx.foldlM (TreeAudit.next audit files.length) (.opening files.length)
  return { audited with run := audited.run.close }

/-- The sources that paths stand for, in the order of discovery. -/
def FileTree.sources (tree : FileTree) (scope : DiscoveryScope) (paths : List String) :
    Except FileError (List String) := do
  return (← paths.mapM (tree.discover scope)).flatten

/-- Audits every source that the paths stand for. -/
def AuditPlan.auditTree (plan : AuditPlan) (tree : FileTree) (scope : DiscoveryScope)
    (paths : List String) : Except FileError TreeAudit := do
  auditSources (plan.auditFile tree) (← tree.sources scope paths)

end TokenAudit
