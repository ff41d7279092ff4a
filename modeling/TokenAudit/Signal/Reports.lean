import TokenAudit.Note
import TokenAudit.Signal.Bundle

/-!
# Signals from lookup reports

The facts of a bundle are gathered from the reports of three lookups and the answer of a fourth. A
lookup that failed becomes the values that speak most against the token; a report that did not fail
must hold the facts asked of it.
-/

set_option autoImplicit false

namespace TokenAudit

/-- Why reports make no bundle: the bundle is at fault, or the list of holders is a value that has
no first element. -/
inductive ReportFault where
  | signal (f : SignalFault)
  | noFirstKey
  | noElements (kind : String)
  deriving DecidableEq

/-- The wording of a fault. -/
def ReportFault.message : ReportFault → String
  | signal f => f.message
  | noFirstKey => "0"
  | noElements kind => "'" ++ kind ++ "' object is not subscriptable"

/-- A refused bundle as a fault of the reports. -/
def refusal (e : SignalError) : ReportFault :=
  .signal (.refused e)

/-- The entries of a report, unless its lookup failed. -/
def succeeded? : Datum → Option (List (String × Datum))
  | .dict entries =>
    match Datum.lookup? "status" entries with
    | some (.text status) => if status = "error" then none else some entries
    | _ => some entries
  | _ => none

/-- The value of a key that a report must hold. -/
def need (source : String) (report : Datum) (key : String) : Except ReportFault Datum :=
  match report with
  | .dict entries =>
    match Datum.lookup? key entries with
    | some d => .ok d
    | none => .error (refusal (.reportGap source key))
  | _ => .error (refusal (.reportGap source key))

/-- The value of a key, if it counts as given. -/
def given? (entries : List (String × Datum)) (key : String) : Option Datum :=
  (Datum.lookup? key entries).filter Datum.isGiven

/-- A value that is a percentage, or else no percent. -/
def percentageOr (value : Option Datum) : Except ReportFault Datum :=
  let d := value.getD .null
  match d.amount with
  | .ok _ => .ok d
  | .error .tooLarge => .error (.signal .tooLarge)
  | .error _ => .ok (.text "0%")

/-- What the honeypot lookup contributes. -/
structure HoneypotFacts where
  honeypot : Datum
  sellTax : Datum
  buyTax : Datum
  warnings : Datum

/-- The warning given in place of those of a failed lookup. -/
def unknownSafety : Datum :=
  .list [.text "Unable to verify contract safety"]

/-- The facts of a honeypot report. A failed lookup counts as a honeypot; what it reports of taxes
and warnings is kept as far as it can be read. -/
def honeypotFacts (report : Datum) : Except ReportFault HoneypotFacts :=
  match succeeded? report with
  | some entries => do
    let honeypot ← need "honeypot" report "isHoneypot"
    let sellTax ← need "honeypot" report "sellTax"
    let buyTax ← need "honeypot" report "buyTax"
    return { honeypot, sellTax, buyTax, warnings := (given? entries "warnings").getD (.list []) }
  | none =>
    match report with
    | .dict entries => do
      let sellTax ← percentageOr (Datum.lookup? "sellTax" entries)
      let buyTax ← percentageOr (Datum.lookup? "buyTax" entries)
      return { honeypot := .bool true, sellTax, buyTax
               warnings := (given? entries "warnings").getD unknownSafety }
    | _ => .ok { honeypot := .bool true, sellTax := .text "0%", buyTax := .text "0%"
                 warnings := unknownSafety }

/-- The first element of a list of holders. Of a text or a byte string, whose elements are no
entries, any element will do. -/
def firstHolder : Datum → Except ReportFault Datum
  | .list (first :: _) => .ok first
  | .list [] | .text _ | .bytes _ => .ok .null
  | .dict _ => .error .noFirstKey
  | d => .error (.noElements d.kind)

/-- The share of the top holder. A failed lookup counts as all in one hand; no holders hold
nothing. -/
def topHolderFact (report : Datum) : Except ReportFault Datum :=
  match succeeded? report with
  | some entries =>
    match given? entries "holders" with
    | some holders => do need "holders" (← firstHolder holders) "percentage"
    | none => .ok (.text "0%")
  | none => .ok (.text "100%")

/-- Whether the liquidity is locked, and how much of it. A failed lookup counts as unlocked; the
facts may stand in the report itself or under a key of their own. -/
def liquidityFacts (report : Datum) : Except ReportFault (Datum × Datum) :=
  match succeeded? report with
  | some entries => do
    let info := (Datum.lookup? "liquidity" entries).getD report
    let locked ← need "liquidity" info "liquidityLocked"
    let share ← need "liquidity" info "lockPercentage"
    return (locked, share)
  | none => .ok (.bool false, .text "0%")

/-- Whether the source code is verified; no answer counts as no. -/
def verifiedFact : Datum → Except ReportFault Bool
  | .null => .ok false
  | .bool b => .ok b
  | d => .error (refusal (.verifiedKind d.kind))

/-- The reports of the lookups. -/
structure Reports where
  honeypot : Datum
  holders : Datum
  liquidity : Datum
  verified : Datum

/-- The note on a lookup, if it failed. -/
def lookupNotes (lookup : Lookup) (report : Datum) : List Note :=
  if (succeeded? report).isNone then [.unavailable lookup] else []

/-- The notes on the lookups that failed. -/
def Reports.notes (r : Reports) : List Note :=
  lookupNotes .honeypot r.honeypot ++ lookupNotes .holders r.holders ++
    lookupNotes .liquidity r.liquidity

/-- Gathers a bundle from the reports. -/
def Reports.signals (r : Reports) : Except ReportFault Signals := do
  let facts ← honeypotFacts r.honeypot
  let topHolder ← topHolderFact r.holders
  let (locked, share) ← liquidityFacts r.liquidity
  let verified ← verifiedFact r.verified
  let value : SignalField → Datum
    | .honeypot => facts.honeypot
    | .sellTax => facts.sellTax
    | .buyTax => facts.buyTax
    | .topHolderShare => topHolder
    | .liquidityLocked => locked
    | .liquidityLockShare => share
    | .verified => .bool verified
    | .warnings => facts.warnings
  (Signals.ofSource fun field => some ⟨field.plainName, value field⟩).mapError .signal

end TokenAudit
