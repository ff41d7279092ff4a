import TokenAudit.Document.Basic
import TokenAudit.Text.Numeral

/-!
# Reading a document

A JSON text is read from left to right by a machine that holds the containers it is inside of and
knows what may come next; each step takes one token off the text. Whatever is wrong is reported at
the place where it is first certain: between tokens the machine complains of what it expected, and
inside a string or a number of that token.
-/

set_option autoImplicit false

namespace TokenAudit.Document

/-- What is wrong with a text at some place. -/
inductive Flaw where
  | byteOrderMark
  | expectedValue
  | expectedKey
  | expectedColon
  | expectedDelimiter
  | extraText
  | unterminatedText
  | controlCharacter
  | unknownEscape
  | brokenUnitEscape
  deriving DecidableEq

/-- The wording of a flaw. -/
def Flaw.wording : Flaw → String
  | byteOrderMark => "Unexpected UTF-8 BOM (decode using utf-8-sig)"
  | expectedValue => "Expecting value"
  | expectedKey => "Expecting property name enclosed in double quotes"
  | expectedColon => "Expecting ':' delimiter"
  | expectedDelimiter => "Expecting ',' delimiter"
  | extraText => "Extra data"
  | unterminatedText => "Unterminated string starting at"
  | controlCharacter => "Invalid control character at"
  | unknownEscape => "Invalid \\escape"
  | brokenUnitEscape => "Invalid \\uXXXX escape"

/-- The two kinds of containers. -/
inductive Container where
  | list
  | object
  deriving DecidableEq

/-- The name of a kind of container. -/
def Container.name : Container → String
  | list => "array"
  | object => "object"

/-- Why a text was not read. A flaw is placed by the text that is left where it was found. -/
inductive Stop where
  | flaw (f : Flaw) (left : List Char)
  | tooManyDigits (count : Nat)
  | tooDeep (container : Container)

/-- The greatest number of digits of a whole number. -/
def digitLimit : Nat := 4300

/-- Blanks between tokens. -/
def isSpacing (c : Char) : Bool :=
  c == ' ' || c == '\t' || c == '\n' || c == '\r'

/-- A text without the blanks at its beginning. -/
def skipSpacing (input : List Char) : List Char :=
  input.dropWhile isSpacing

/-- The value of a hexadecimal digit. -/
def hexValue? (c : Char) : Option Nat :=
  if c.isDigit then some (c.toNat - '0'.toNat)
  else if 'a' ≤ c ∧ c ≤ 'f' then some (c.toNat - 'a'.toNat + 10)
  else if 'A' ≤ c ∧ c ≤ 'F' then some (c.toNat - 'A'.toNat + 10)
  else none

/-- The UTF-16 unit that four hexadecimal digits spell. -/
def unit? (a b c d : Char) : Option Nat :=
  match hexValue? a, hexValue? b, hexValue? c, hexValue? d with
  | some a, some b, some c, some d => some (((a * 16 + b) * 16 + c) * 16 + d)
  | _, _, _, _ => none

/-- Whether a code point is the first of a surrogate pair. -/
def isHighSurrogate (n : Nat) : Bool :=
  0xd800 ≤ n && n < 0xdc00

/-- Whether a code point is the second of a surrogate pair. -/
def isLowSurrogate (n : Nat) : Bool :=
  0xdc00 ≤ n && n < 0xe000

/-- The code point of a surrogate pair. -/
def joinSurrogates (high low : Nat) : Nat :=
  0x10000 + (high - 0xd800) * 0x400 + (low - 0xdc00)

/-- The character that an escape letter stands for. -/
def escapeLetter? : Char → Option Nat
  | '\x22' => some 0x22
  | '\\' => some 0x5c
  | '/' => some 0x2f
  | 'b' => some 8
  | 'f' => some 12
  | 'n' => some 10
  | 'r' => some 13
  | 't' => some 9
  | _ => none

/-- Reads the rest of a string as code points, given the text from its opening quote on and the code
points so far, last one first. Four digits of a unit escape must not be the last thing in the
text. -/
def readPoints (opening : List Char) (points : List Nat) :
    List Char → Except Stop (List Nat × List Char)
  | [] => .error (.flaw .unterminatedText opening)
  | '\x22' :: rest => .ok (points.reverse, rest)
  | ['\\'] => .error (.flaw .unterminatedText opening)
  | '\\' :: 'u' :: a :: b :: c :: d :: next :: rest =>
    match unit? a b c d with
    | some n => readPoints opening (n :: points) (next :: rest)
    | none => .error (.flaw .brokenUnitEscape ('u' :: a :: b :: c :: d :: next :: rest))
  | '\\' :: 'u' :: rest => .error (.flaw .brokenUnitEscape ('u' :: rest))
  | '\\' :: c :: rest =>
    match escapeLetter? c with
    | some n => readPoints opening (n :: points) rest
    | none => .error (.flaw .unknownEscape ('\\' :: c :: rest))
  | c :: rest =>
    if c.toNat < 32 then .error (.flaw .controlCharacter (c :: rest))
    else readPoints opening (c.toNat :: points) rest

/-- Joins the surrogates that stand in pairs. -/
def joinPairs (points : List Nat) : List Nat :=
  points.foldr
    (fun n joined =>
      match joined with
      | low :: rest =>
        if isHighSurrogate n && isLowSurrogate low then joinSurrogates n low :: rest
        else n :: joined
      | [] => [n])
    []

/-- Reads the rest of a string, given the text from its opening quote on. -/
def readText (opening rest : List Char) : Except Stop (RawText × List Char) := do
  let (points, rest) ← readPoints opening [] rest
  return (⟨joinPairs points⟩, rest)

/-- The parts of a number: its sign, whole digits, fraction digits and exponent, as far as they are
there. -/
structure NumberParts where
  negative : Bool
  whole : List Char
  fraction : Option (List Char)
  exponent : Option Int
  deriving DecidableEq

/-- The number that ASCII digits spell. -/
def decimalValue (digits : List Char) : Nat :=
  Text.numeralValue (digits.map fun c => c.toNat - '0'.toNat)

/-- Takes the ASCII digits at the beginning of a text off. -/
def splitDigits (input : List Char) : List Char × List Char :=
  input.span Char.isDigit

/-- Takes the whole digits of a number off: a zero alone, or digits that do not begin with one. -/
def splitWhole : List Char → List Char × List Char
  | '0' :: rest => (['0'], rest)
  | input => splitDigits input

/-- Takes a fraction off, if a point is followed by a digit. -/
def splitFraction (input : List Char) : Option (List Char) × List Char :=
  match input with
  | '.' :: rest =>
    match splitDigits rest with
    | ([], _) => (none, input)
    | (digits, rest) => (some digits, rest)
  | _ => (none, input)

/-- Takes an exponent off, if its mark and sign are followed by a digit. -/
def splitExponent (input : List Char) : Option Int × List Char :=
  match input with
  | mark :: rest =>
    if mark = 'e' ∨ mark = 'E' then
      let (negative, digits) := match rest with
        | '-' :: digits => (true, digits)
        | '+' :: digits => (false, digits)
        | digits => (false, digits)
      match splitDigits digits with
      | ([], _) => (none, input)
      | (digits, rest) =>
        let n : Int := decimalValue digits
        (some (if negative then -n else n), rest)
    else (none, input)
  | [] => (none, input)

/-- Takes the parts of a number off. -/
def splitNumber? (input : List Char) : Option (NumberParts × List Char) :=
  let (negative, input) := match input with
    | '-' :: rest => (true, rest)
    | _ => (false, input)
  match splitWhole input with
  | ([], _) => none
  | (whole, input) =>
    let (fraction, input) := splitFraction input
    let (exponent, input) := splitExponent input
    some ({ negative, whole, fraction, exponent }, input)

/-- The number of its parts: a whole number unless it has a fraction or an exponent. -/
def NumberParts.document (p : NumberParts) : Except Stop Document :=
  match p.fraction, p.exponent with
  | none, none =>
    if digitLimit < p.whole.length then .error (.tooManyDigits p.whole.length)
    else
      let n : Int := decimalValue p.whole
      .ok (.int (if p.negative then -n else n))
  | fraction, exponent =>
    let fraction := fraction.getD []
    .ok (.float (.ofDecimal p.negative (decimalValue (p.whole ++ fraction))
      (exponent.getD 0 - fraction.length)))

/-- The words that are values. -/
def wordValues : List (List Char × Document) :=
  [ ("null".toList, .null),
    ("true".toList, .bool true),
    ("false".toList, .bool false),
    ("NaN".toList, .float .nan),
    ("Infinity".toList, .float (.infinite false)),
    ("-Infinity".toList, .float (.infinite true)) ]

/-- Reads a value that is no container. -/
def readScalar (input : List Char) : Except Stop (Document × List Char) :=
  match input with
  | '\x22' :: rest => do
    let (content, rest) ← readText input rest
    return (.text content, rest)
  | _ =>
    match wordValues.find? fun (word, _) => word.isPrefixOf input with
    | some (word, d) => .ok (d, input.drop word.length)
    | none =>
      match splitNumber? input with
      | some (parts, rest) => do return (← parts.document, rest)
      | none => .error (.flaw .expectedValue input)

/-- A container that is not closed yet: what it holds so far, last first, and the key that waits for
its value. -/
inductive Frame where
  | list (items : List Document)
  | object (entries : List (String × Document)) (key : String)

/-- What may come next. -/
inductive Expectation where
  | value
  | firstItem
  | firstKey
  | key
  | colon
  | delimiter
  | nothing

/-- What the machine knows: what may come next, and the containers around that place, innermost
first. When nothing more may come it holds the value it has read. -/
structure Machine where
  expects : Expectation
  frames : List Frame
  result : Document

/-- The machine after a value. -/
def Machine.afterValue (d : Document) : List Frame → Machine
  | [] => { expects := .nothing, frames := [], result := d }
  | .list items :: frames =>
    { expects := .delimiter, frames := .list (d :: items) :: frames, result := .null }
  | .object entries key :: frames =>
    { expects := .delimiter, frames := .object ((key, d) :: entries) key :: frames
      result := .null }

/-- The machine in the same containers with another expectation. -/
def Machine.expecting (frames : List Frame) (expects : Expectation) : Machine :=
  { expects, frames, result := .null }

/-- Enters a container, unless as many are open as may stand around a value. -/
def enter (limit : Nat) (container : Container) (frames : List Frame) : Except Stop Machine :=
  if limit ≤ frames.length then .error (.tooDeep container)
  else
    match container with
    | .list => .ok (.expecting (.list [] :: frames) .firstItem)
    | .object => .ok (.expecting (.object [] "" :: frames) .firstKey)

/-- Reads the beginning of a value. -/
def stepValue (limit : Nat) (frames : List Frame) (input : List Char) :
    Except Stop (Machine × List Char) :=
  match input with
  | '[' :: rest => do return (← enter limit .list frames, rest)
  | '\x7b' :: rest => do return (← enter limit .object frames, rest)
  | _ => do
    let (d, rest) ← readScalar input
    return (.afterValue d frames, rest)

/-- Reads a key. Surrogates in it are replaced, as in no key that has a meaning. -/
def stepKey (frames : List Frame) (input : List Char) : Except Stop (Machine × List Char) :=
  match input, frames with
  | '\x22' :: rest, .object entries _ :: frames => do
    let (key, rest) ← readText input rest
    return (.expecting (.object entries key.asString :: frames) .colon, rest)
  | _, _ => .error (.flaw .expectedKey input)

/-- Reads what stands between the values of a container, or closes it. -/
def stepDelimiter (frames : List Frame) (input : List Char) : Except Stop (Machine × List Char) :=
  match frames, input with
  | .list items :: frames, ']' :: rest => .ok (.afterValue (.list items.reverse) frames, rest)
  | .list items :: frames, ',' :: rest => .ok (.expecting (.list items :: frames) .value, rest)
  | .object entries _ :: frames, '\x7d' :: rest =>
    .ok (.afterValue (.object entries.reverse) frames, rest)
  | .object entries key :: frames, ',' :: rest =>
    .ok (.expecting (.object entries key :: frames) .key, rest)
  | _, _ => .error (.flaw .expectedDelimiter input)

/-- Takes one token off a text that does not begin with a blank. -/
def Machine.step (limit : Nat) (m : Machine) (input : List Char) :
    Except Stop (Machine × List Char) :=
  match m.expects, input with
  | .value, _ => stepValue limit m.frames input
  | .firstItem, ']' :: _ => stepDelimiter m.frames input
  | .firstItem, _ => stepValue limit m.frames input
  | .firstKey, '\x7d' :: _ => stepDelimiter m.frames input
  | .firstKey, _ => stepKey m.frames input
  | .key, _ => stepKey m.frames input
  | .colon, ':' :: rest => .ok (.expecting m.frames .value, rest)
  | .colon, _ => .error (.flaw .expectedColon input)
  | .delimiter, _ => stepDelimiter m.frames input
  | .nothing, _ => .error (.flaw .extraText input)

/-- Runs the machine to the end of the text. Each step takes a character at least, so as many steps
as there are characters, and one more, are enough. -/
def Machine.run (limit : Nat) (m : Machine) (input : List Char) : Nat → Except Stop Document
  | 0 => .error (.flaw .extraText input)
  | steps + 1 =>
    match m.expects, skipSpacing input with
    | .nothing, [] => .ok m.result
    | _, input =>
      match m.step limit input with
      | .error e => .error e
      | .ok (m, rest) => m.run limit rest steps

/-- Why a text is no document, with the place of a flaw counted in characters from its beginning. -/
inductive ReadError where
  | flaw (f : Flaw) (line column position : Nat)
  | tooManyDigits (count : Nat)
  | tooDeep (container : Container)
  deriving DecidableEq

/-- The wording of a reading error. -/
def ReadError.message : ReadError → String
  | flaw f line column position =>
    f.wording ++ ": line " ++ toString line ++ " column " ++ toString column ++ " (char " ++
      toString position ++ ")"
  | tooManyDigits count =>
    "Exceeds the limit (" ++ toString digitLimit ++ " digits) for integer string conversion: " ++
      "value has " ++ toString count ++ " digits; use sys.set_int_max_str_digits() to increase " ++
      "the limit"
  | tooDeep container =>
    "maximum recursion depth exceeded while decoding a JSON " ++ container.name ++
      " from a unicode string"

/-- Places what stopped the reading of a text. -/
def Stop.toError (input : List Char) : Stop → ReadError
  | flaw f left =>
    let before := input.take (input.length - left.length)
    .flaw f (before.count '\n' + 1) ((before.reverse.takeWhile (· != '\n')).length + 1)
      before.length
  | tooManyDigits count => .tooManyDigits count
  | tooDeep container => .tooDeep container

/-- Reads a document in which no more than a number of containers stand around a value. -/
def read (limit : Nat) (input : List Char) : Except ReadError Document :=
  if input.head? = some '\ufeff' then .error (Stop.toError input (.flaw .byteOrderMark input))
  else
    ((Machine.expecting [] .value).run limit input (input.length + 1)).mapError (Stop.toError input)

end TokenAudit.Document
