import TokenAudit.Text.Raw

/-!
# What is shown on a console

The library does not lay out a screen. It says what is to be shown: lines with markup, panels and
tables, in order.
-/

set_option autoImplicit false

namespace TokenAudit.Display

/-- The side to which a column's cells are aligned. -/
inductive Justify where
  | left
  | right
  deriving DecidableEq

/-- A column of a table. -/
structure Column where
  header : String
  style : String := ""
  justify : Justify := .left
  width : Option Nat := none
  maxWidth : Option Nat := none
  deriving DecidableEq

/-- The space around a cell. -/
structure Padding where
  top : Nat := 0
  right : Nat := 1
  bottom : Nat := 0
  left : Nat := 1
  deriving DecidableEq

/-- A table with its columns and rows. -/
structure Table where
  columns : List Column
  rows : List (List String)
  title : Option String := none
  showHeader : Bool := true
  headerStyle : String := "table.header"
  borderStyle : String := ""
  boxed : Bool := true
  padding : Padding := {}
  deriving DecidableEq

/-- A framed text. -/
structure Panel where
  body : String
  title : Option String := none
  borderStyle : String
  expand : Bool := true
  deriving DecidableEq

/-- One thing shown. -/
inductive Item where
  | line (markup : RawText)
  | panel (p : Panel)
  | table (t : Table)
  deriving DecidableEq

/-- A text in a style. -/
def styled (style body : String) : String :=
  "[" ++ style ++ "]" ++ body ++ "[/" ++ style ++ "]"

end TokenAudit.Display
