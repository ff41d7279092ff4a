import TokenAudit.Binary64.Decimal
import TokenAudit.Datum
import TokenAudit.Text.Blank
import TokenAudit.Text.Digit
import TokenAudit.Text.Numeral
import TokenAudit.Text.Quoted

/-!
# Percentages

A percentage comes as a number or as a text that begins with one, as in `12.5%`; the text is kept
as it is and only its numeric prefix is read. The prefix is white space, a sign if there is one, and
either digits with an optional fraction or a fraction alone; digits of any script count by their
value. A value of type `Percentage` carries the proof that it can be read.
-/

set_option autoImplicit false

namespace TokenAudit

/-- The number spelled at the beginning of a text. -/
structure NumericPrefix where
  negative : Bool
  whole : List Char
  fraction : List Char
  deriving DecidableEq

/-- The digits at the beginning of a text. -/
def leadingDigits (text : List Char) : List Char :=
  text.takeWhile Text.isDigit

/-- The digits after a point at the beginning of a text. -/
def pointDigits : List Char → List Char
  | '.' :: rest => leadingDigits rest
  | _ => []

/-- Drops the sign at the beginning of a text, and says whether it is a minus. -/
def splitSign : List Char → Bool × List Char
  | '-' :: rest => (true, rest)
  | '+' :: rest => (false, rest)
  | text => (false, text)

/-- The number spelled at the beginning of a text, after white space. -/
def numericPrefix? (text : List Char) : Option NumericPrefix :=
  let (negative, rest) := splitSign (text.dropWhile Text.isBlank)
  let whole := leadingDigits rest
  let fraction := pointDigits (rest.drop whole.length)
  if whole.isEmpty && fraction.isEmpty then none else some { negative, whole, fraction }

/-- The number that a sequence of digits of any script spells. -/
def digitsValue (digits : List Char) : Nat :=
  Text.numeralValue (digits.map fun c => (Text.digitValue? c).getD 0)

/-- The floating-point number nearest to a spelled number. -/
def NumericPrefix.value (p : NumericPrefix) : Binary64 :=
  .ofRatio p.negative (digitsValue (p.whole ++ p.fraction)) (Nat.pow 10 p.fraction.length)

/-- The floating-point number nearest to the numeric prefix of a text. -/
def textAmount? (content : RawText) : Option Binary64 :=
  (numericPrefix? content.chars).map (·.value)

/-- Why a value is no percentage. -/
inductive PercentageFault where
  | tooLarge
  | boolean
  | notFinite (x : Binary64)
  | notText (kind : String)
  | noNumber (content : RawText)
  deriving DecidableEq

/-- The wording of a fault in the field of a name. -/
def PercentageFault.message (field : String) : PercentageFault → String
  | tooLarge => "int too large to convert to float"
  | boolean => field ++ ": expected a percentage, got a boolean"
  | notFinite x => field ++ ": percentage must be finite, got " ++ x.plainText
  | notText kind => field ++ ": expected a percentage string, got " ++ kind
  | noNumber content => field ++ ": no numeric prefix in " ++ Text.quotedPoints content.points

/-- The number that a value gives as a percentage. -/
def Datum.amount : Datum → Except PercentageFault Binary64
  | .bool _ => .error .boolean
  | .int n => if (Binary64.ofInt n).isFinite then .ok (.ofInt n) else .error .tooLarge
  | .float x => if x.isFinite then .ok x else .error (.notFinite x)
  | .text content =>
    match textAmount? content with
    | some x => .ok x
    | none => .error (.noNumber content)
  | d => .error (.notText d.kind)

/-- A percentage: a text that begins with a number, or a finite number. -/
inductive Percentage where
  | text (content : RawText) (amount : Binary64) (reads : textAmount? content = some amount)
  | number (amount : Binary64) (finite : amount.isFinite = true)
  deriving DecidableEq

namespace Percentage

/-- The number that a percentage stands for. -/
def amount : Percentage → Binary64
  | text _ x _ => x
  | number x _ => x

/-- A percentage as it is shown: a text verbatim, a number by its shortest digits. -/
def shown : Percentage → RawText
  | text content _ _ => content
  | number x _ => x.plainText

/-- A percentage as a value. -/
def toDatum : Percentage → Datum
  | text content _ _ => .text content
  | number x _ => .float x

/-- Reading the value of a percentage gives its number. -/
theorem amount_toDatum (p : Percentage) : p.toDatum.amount = .ok p.amount := by
  cases p with
  | text content x h => simp [toDatum, Datum.amount, amount, h]
  | number x h => simp [toDatum, Datum.amount, amount, h]

end Percentage

end TokenAudit
