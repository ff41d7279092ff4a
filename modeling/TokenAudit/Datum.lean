import TokenAudit.Binary64.Basic
import TokenAudit.Text.Raw

/-!
# Decoded values

What a collaborator sends or a signal file holds, before anything is known about its shape. A
dictionary is its list of entries; a key that is repeated counts with its last value.
-/

set_option autoImplicit false

namespace TokenAudit

/-- A decoded value of any shape. -/
inductive Datum where
  | null
  | bool (b : Bool)
  | int (n : Int)
  | float (x : Binary64)
  | text (content : RawText)
  | bytes (bs : List UInt8)
  | list (items : List Datum)
  | dict (entries : List (String × Datum))
  deriving Inhabited

namespace Datum

/-- The name of a value's kind in messages. -/
def kind : Datum → String
  | null => "NoneType"
  | bool _ => "bool"
  | int _ => "int"
  | float _ => "float"
  | text _ => "str"
  | bytes _ => "bytes"
  | list _ => "list"
  | dict _ => "dict"

/-- Whether a value counts as given: absence, falsity, zero and emptiness do not. -/
def isGiven : Datum → Bool
  | null => false
  | bool b => b
  | int n => n != 0
  | float x => x.place? != some 0
  | text content => !content.isEmpty
  | bytes bs => !bs.isEmpty
  | list items => !items.isEmpty
  | dict entries => !entries.isEmpty

/-- The value of a key among the entries of a dictionary. -/
def lookup? (key : String) (entries : List (String × Datum)) : Option Datum :=
  entries.reverse.lookup key

end Datum

end TokenAudit
