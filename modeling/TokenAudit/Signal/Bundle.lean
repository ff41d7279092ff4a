import TokenAudit.Signal.Percentage

/-!
# Signal bundles

Eight facts about a token: three answers of yes or no, four percentages and a list of warnings.
Every field has a wire name and a plain name; a bundle may use either, and the wire name wins where
both are present. All fields but the warnings are required. When fields are missing only that is
reported; otherwise every field that is malformed is, in the order of the fields.
-/

set_option autoImplicit false

namespace TokenAudit

/-- The fields of a bundle. -/
inductive SignalField where
  | honeypot
  | sellTax
  | buyTax
  | topHolderShare
  | liquidityLocked
  | liquidityLockShare
  | verified
  | warnings
  deriving DecidableEq

namespace SignalField

/-- The name of a field in bundles that come from outside. -/
def wireName : SignalField → String
  | honeypot => "honeypot"
  | sellTax => "sellTax"
  | buyTax => "buyTax"
  | topHolderShare => "topHolderShare"
  | liquidityLocked => "liquidityLocked"
  | liquidityLockShare => "liquidityLockShare"
  | verified => "verified"
  | warnings => "warnings"

/-- The plain name of a field. -/
def plainName : SignalField → String
  | honeypot => "honeypot"
  | sellTax => "sell_tax"
  | buyTax => "buy_tax"
  | topHolderShare => "top_holder_share"
  | liquidityLocked => "liquidity_locked"
  | liquidityLockShare => "liquidity_lock_share"
  | verified => "verified"
  | warnings => "warnings"

/-- The fields without which a bundle is incomplete, in order. -/
def required : List SignalField :=
  [honeypot, sellTax, buyTax, topHolderShare, liquidityLocked, liquidityLockShare, verified]

/-- The fields that hold percentages, in order. -/
def percentages : List SignalField :=
  [sellTax, buyTax, topHolderShare, liquidityLockShare]

end SignalField

/-- A complete and well-formed bundle. -/
structure Signals where
  honeypot : Bool
  sellTax : Percentage
  buyTax : Percentage
  topHolderShare : Percentage
  liquidityLocked : Bool
  liquidityLockShare : Percentage
  verified : Bool
  warnings : List RawText
  deriving DecidableEq

/-- What is wrong with the value of a field. -/
inductive Defect where
  | notBoolean
  | percentage (field : SignalField) (fault : PercentageFault)
  | notList
  | notText
  deriving DecidableEq

/-- The wording of a defect. -/
def Defect.message : Defect → String
  | notBoolean => "Input should be a valid boolean"
  | percentage field fault => "Value error, " ++ fault.message field.wireName
  | notList => "Input should be a valid tuple"
  | notText => "Input should be a valid string"

/-- A defect and where it was found. -/
structure Problem where
  location : String
  defect : Defect
  deriving DecidableEq

/-- The wording of a problem. -/
def Problem.message (p : Problem) : String :=
  p.location ++ ": " ++ p.defect.message

/-- Why values make no bundle. -/
inductive SignalError where
  | notDictionary
  | missing (fields : List SignalField)
  | malformed (problems : List Problem)
  | reportGap (source key : String)
  | verifiedKind (kind : String)
  deriving DecidableEq

/-- The wording of a refusal. -/
def SignalError.message : SignalError → String
  | notDictionary => "bundle: Input should be a valid dictionary or instance of Signals"
  | missing fields =>
    "missing signal fields: " ++ ", ".intercalate (fields.map SignalField.wireName)
  | malformed problems => "; ".intercalate (problems.map Problem.message)
  | reportGap source key =>
    source ++ " report is missing or malformed at " ++ Text.quoted key
  | verifiedKind kind => "verified: expected a boolean or None, got " ++ kind

/-- Why a bundle could not be made: it is refused, or a whole number in it is beyond all
floating-point numbers. -/
inductive SignalFault where
  | refused (e : SignalError)
  | tooLarge
  deriving DecidableEq

/-- The wording of a fault. -/
def SignalFault.message : SignalFault → String
  | refused e => e.message
  | tooLarge => PercentageFault.message "" .tooLarge

/-- A value and the name under which it was found. -/
structure Found where
  location : String
  value : Datum

/-- Where the fields of a bundle are looked up. -/
abbrev FieldSource := SignalField → Option Found

/-- A value that is yes or no. -/
def Found.boolean (f : Found) : Except (List Problem) Bool :=
  match f.value with
  | .bool b => .ok b
  | _ => .error [⟨f.location, .notBoolean⟩]

/-- A value that is a percentage. -/
def Found.percentage (field : SignalField) (f : Found) : Except (List Problem) Percentage :=
  match f.value with
  | .text content =>
    match h : textAmount? content with
    | some x => .ok (.text content x h)
    | none => .error [⟨f.location, .percentage field (.noNumber content)⟩]
  | d =>
    match d.amount with
    | .error fault => .error [⟨f.location, .percentage field fault⟩]
    | .ok x =>
      if h : x.isFinite = true then .ok (.number x h)
      else .error [⟨f.location, .percentage field (.notFinite x)⟩]

/-- The problem with an element of the warnings, if it is no text. -/
def warningProblem? (location : String) (index : Nat) : Datum → Option Problem
  | .text _ => none
  | _ => some ⟨location ++ "." ++ toString index, .notText⟩

/-- The text of an element of the warnings. -/
def warningText? : Datum → Option RawText
  | .text content => some content
  | _ => none

/-- A value that is a list of texts; an absent list is an empty one. -/
def warningList : Option Found → Except (List Problem) (List RawText)
  | none => .ok []
  | some f =>
    match f.value with
    | .null => .ok []
    | .list items =>
      match items.zipIdx.filterMap fun (d, i) => warningProblem? f.location i d with
      | [] => .ok (items.filterMap warningText?)
      | problems => .error problems
    | _ => .error [⟨f.location, .notList⟩]

/-- The problems of a reading. -/
def problemsOf {α : Type} : Except (List Problem) α → List Problem
  | .ok _ => []
  | .error problems => problems

/-- Whether a field holds a whole number beyond all floating-point numbers. -/
def holdsTooLarge (source : FieldSource) (field : SignalField) : Bool :=
  match source field with
  | some f => match f.value.amount with
    | .error .tooLarge => true
    | _ => false
  | none => false

/-- Makes a bundle of the fields of a source. -/
def Signals.ofSource (source : FieldSource) : Except SignalFault Signals :=
  if SignalField.percentages.any (holdsTooLarge source) then .error .tooLarge
  else
    match source .honeypot, source .sellTax, source .buyTax, source .topHolderShare,
      source .liquidityLocked, source .liquidityLockShare, source .verified with
    | some honeypot, some sellTax, some buyTax, some topHolderShare, some liquidityLocked,
      some liquidityLockShare, some verified =>
      let honeypot := honeypot.boolean
      let sellTax := sellTax.percentage .sellTax
      let buyTax := buyTax.percentage .buyTax
      let topHolderShare := topHolderShare.percentage .topHolderShare
      let liquidityLocked := liquidityLocked.boolean
      let liquidityLockShare := liquidityLockShare.percentage .liquidityLockShare
      let verified := verified.boolean
      let warnings := warningList (source .warnings)
      match honeypot, sellTax, buyTax, topHolderShare, liquidityLocked, liquidityLockShare,
        verified, warnings with
      | .ok honeypot, .ok sellTax, .ok buyTax, .ok topHolderShare, .ok liquidityLocked,
        .ok liquidityLockShare, .ok verified, .ok warnings =>
        .ok { honeypot, sellTax, buyTax, topHolderShare, liquidityLocked, liquidityLockShare,
              verified, warnings }
      | _, _, _, _, _, _, _, _ =>
        .error (.refused (.malformed (problemsOf honeypot ++ problemsOf sellTax ++
          problemsOf buyTax ++ problemsOf topHolderShare ++ problemsOf liquidityLocked ++
          problemsOf liquidityLockShare ++ problemsOf verified ++ problemsOf warnings)))
    | _, _, _, _, _, _, _ =>
      .error (.refused (.missing (SignalField.required.filter fun f => (source f).isNone)))

/-- The value of a key and the key as its location. -/
def foundAt? (entries : List (String × Datum)) (key : String) : Option Found :=
  (Datum.lookup? key entries).map fun d => ⟨key, d⟩

/-- The fields of a dictionary: the wire name first, the plain name after it. -/
def dictionarySource (entries : List (String × Datum)) : FieldSource := fun field =>
  (foundAt? entries field.wireName).orElse fun _ => foundAt? entries field.plainName

/-- Makes a bundle of a decoded value. -/
def Signals.ofDatum : Datum → Except SignalFault Signals
  | .dict entries => Signals.ofSource (dictionarySource entries)
  | _ => .error (.refused .notDictionary)

/-- A bundle as a dictionary under the wire names. -/
def Signals.toDatum (s : Signals) : Datum :=
  .dict
    [ ("honeypot", .bool s.honeypot),
      ("sellTax", s.sellTax.toDatum),
      ("buyTax", s.buyTax.toDatum),
      ("topHolderShare", s.topHolderShare.toDatum),
      ("liquidityLocked", .bool s.liquidityLocked),
      ("liquidityLockShare", s.liquidityLockShare.toDatum),
      ("verified", .bool s.verified),
      ("warnings", .list (s.warnings.map .text)) ]

end TokenAudit
