import TokenAudit.Datum

/-!
# Documents

What a JSON text stands for: the values that exported results are made of, and that signal files
hold. The entries of an object keep their order. A document is a decoded value without byte strings.
-/

set_option autoImplicit false

namespace TokenAudit

/-- A JSON document. -/
inductive Document where
  | null
  | bool (b : Bool)
  | int (n : Int)
  | float (x : Binary64)
  | text (content : RawText)
  | list (items : List Document)
  | object (entries : List (String × Document))
  deriving Inhabited

namespace Document

mutual

/-- A document as a decoded value. -/
def toDatum : Document → Datum
  | null => .null
  | bool b => .bool b
  | int n => .int n
  | float x => .float x
  | text content => .text content
  | list items => .list (itemsToData items)
  | object entries => .dict (entriesToData entries)

/-- The items of a list as decoded values. -/
def itemsToData : List Document → List Datum
  | [] => []
  | d :: rest => toDatum d :: itemsToData rest

/-- The entries of an object as decoded values. -/
def entriesToData : List (String × Document) → List (String × Datum)
  | [] => []
  | (key, d) :: rest => (key, toDatum d) :: entriesToData rest

end

/-- A list of texts. -/
def texts (items : List RawText) : Document :=
  list (items.map text)

/-- A value or nothing. -/
def orNull {α : Type} (f : α → Document) : Option α → Document
  | some a => f a
  | none => null

end Document

end TokenAudit
