import TokenAudit.Binary64.Decimal
import TokenAudit.Document.Basic
import TokenAudit.Text.Quoted

/-!
# The text of a document

A document is written in ASCII, two blanks of indentation for each level, one item or entry a line;
an empty list or object is written without a break. Characters beyond ASCII, and controls without an
escape letter, are written by their UTF-16 units in four hexadecimal digits.
-/

set_option autoImplicit false

namespace TokenAudit.Document

/-- A UTF-16 unit as an escape. -/
def unitEscape (n : Nat) : List Char :=
  '\\' :: 'u' :: (Text.hexDigits 4 n).toList

/-- A code point as one escape, or as two for its surrogate pair. -/
def pointEscape (n : Nat) : List Char :=
  if n < 0x10000 then unitEscape n
  else
    unitEscape (0xd800 + (n - 0x10000) / 0x400) ++ unitEscape (0xdc00 + (n - 0x10000) % 0x400)

/-- A code point inside a string. -/
def printPoint (n : Nat) : List Char :=
  if n = 0x22 then ['\\', '\x22']
  else if n = 0x5c then ['\\', '\\']
  else if n = 10 then ['\\', 'n']
  else if n = 13 then ['\\', 'r']
  else if n = 9 then ['\\', 't']
  else if n = 12 then ['\\', 'f']
  else if n = 8 then ['\\', 'b']
  else if 32 ≤ n ∧ n < 127 then [Char.ofNat n]
  else pointEscape n

/-- A string. -/
def printText (content : RawText) : List Char :=
  '\x22' :: content.points.flatMap printPoint ++ ['\x22']

/-- A line feed and the indentation of a level. -/
def newline (level : Nat) : List Char :=
  '\n' :: List.replicate (2 * level) ' '

mutual

/-- A document that begins at the given level of indentation. -/
def printAt (level : Nat) : Document → List Char
  | null => "null".toList
  | bool true => "true".toList
  | bool false => "false".toList
  | int n => (toString n).toList
  | float x => (x.text .document).toList
  | text content => printText content
  | list [] => ['[', ']']
  | list (first :: rest) =>
    '[' :: newline (level + 1) ++ printAt (level + 1) first ++ printItems (level + 1) rest ++
      newline level ++ [']']
  | object [] => ['\x7b', '\x7d']
  | object ((key, first) :: rest) =>
    '\x7b' :: newline (level + 1) ++ printText key ++ [':', ' '] ++ printAt (level + 1) first ++
      printEntries (level + 1) rest ++ newline level ++ ['\x7d']

/-- The items of a list after the first. -/
def printItems (level : Nat) : List Document → List Char
  | [] => []
  | d :: rest => ',' :: newline level ++ printAt level d ++ printItems level rest

/-- The entries of an object after the first. -/
def printEntries (level : Nat) : List (String × Document) → List Char
  | [] => []
  | (key, d) :: rest =>
    ',' :: newline level ++ printText key ++ [':', ' '] ++ printAt level d ++
      printEntries level rest

end

/-- The text of a document. -/
def print (d : Document) : List Char :=
  printAt 0 d

end TokenAudit.Document
