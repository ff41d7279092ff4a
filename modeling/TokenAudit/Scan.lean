import TokenAudit.Clock
import TokenAudit.Finding
import TokenAudit.Note
import TokenAudit.Rule.Builtin
import TokenAudit.Text.Case
import TokenAudit.Text.Lines

/-!
# Scanning a source

A scan runs every rule of a catalog over the whole text and reports the rules that hit, in catalog
order. A finding's line is the first line that the rule hits when it is searched alone; a rule that
hits the whole text and no single line is reported without one, and a note says so. Findings are
stamped with the time of the scan. When the clock shows no time, or a search breaks down, the scan
ends there, and the notes taken so far remain.
-/

set_option autoImplicit false

namespace TokenAudit

/-- The number of the first line that the probe hits on its own, the lines being counted from
`number`. -/
def Probe.firstLineFrom (probe : Probe) (number : Nat) :
    List (List Char) → Except Breakdown (Option Nat)
  | [] => .ok none
  | line :: rest =>
    match probe.search line with
    | .error e => .error e
    | .ok true => .ok (some number)
    | .ok false => probe.firstLineFrom (number + 1) rest

/-- The number of the first line of a text that the probe hits on its own. -/
def Probe.firstLine (probe : Probe) (text : List Char) : Except Breakdown (Option Nat) :=
  probe.firstLineFrom 1 (Text.lines text)

/-- The words of a key: what stands between underscores, as far as it is not empty. -/
def keyWords (key : List Char) : List (List Char) :=
  (Text.cut '_' key).filter fun w => !w.isEmpty

/-- A rule's key as a heading: its words, capitalized, with spaces between them. -/
def displayName (key : String) : String :=
  " ".intercalate ((keyWords key.toList).map fun w => String.ofList (Text.capitalize w))

/-- The finding of a rule that hits on a line, stamped with a time. -/
def Rule.finding (rule : Rule) (stamp : Int) (line : Option Nat) : Finding :=
  { id := "V-" ++ rule.key ++ "-" ++ toString stamp
    ruleKey := rule.key
    name := displayName rule.key
    description := rule.description
    severity := rule.severity
    solution := rule.solution
    line := line.map Int.ofNat }

/-- What a rule finds in a text: nothing, or a finding with the notes on it. -/
def Rule.hit? (rule : Rule) (stamp : Int) (text : List Char) :
    Except Breakdown (Option (Finding × List Note)) := do
  if ← rule.probe.search text then
    let line ← rule.probe.firstLine text
    let notes := if line.isNone then [.matchedAcrossLines rule.key] else []
    return some (rule.finding stamp line, notes)
  else
    return none

/-- Why a scan ends before its end. -/
inductive ScanFault where
  | search (b : Breakdown)
  | clock (f : Clock.Fault)
  deriving DecidableEq

/-- The wording of a fault. -/
def ScanFault.message : ScanFault → String
  | search b => b.message
  | clock f => f.message

/-- The result of a scan. -/
structure Sweep where
  notes : List Note
  findings : Except ScanFault (List Finding)

/-- Runs the rules one after the other. -/
def sweep (stamp : Int) (text : List Char) : List Rule → Sweep
  | [] => { notes := [], findings := .ok [] }
  | rule :: rest =>
    match rule.hit? stamp text with
    | .error b => { notes := [], findings := .error (.search b) }
    | .ok none => sweep stamp text rest
    | .ok (some (finding, notes)) =>
      let later := sweep stamp text rest
      { notes := notes ++ later.notes, findings := later.findings.map (finding :: ·) }

/-- Scans a text at the time that the clock shows; an empty text has no findings. -/
def Catalog.scan (catalog : Catalog) (now : Binary64) (text : List Char) : Sweep :=
  if text.isEmpty then { notes := [], findings := .ok [] }
  else
    match Clock.milliseconds now with
    | .error f => { notes := [], findings := .error (.clock f) }
    | .ok stamp => sweep stamp text catalog.rules

end TokenAudit
