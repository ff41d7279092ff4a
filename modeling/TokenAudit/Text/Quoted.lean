import TokenAudit.Text.PrintTable

/-!
# Quoted text

How a text is shown inside a message: between single quotes, or between double quotes when it holds
single quotes and no double ones; backslash, the quote in use, and the line and tab controls are
escaped by a letter, and a code point without a printed form by its number in two, four or eight
lower-case hexadecimal digits. The text is given by its code points, so that a text with unpaired
surrogates can be shown as well.
-/

set_option autoImplicit false

namespace TokenAudit.Text

/-- A number in lower-case hexadecimal, filled with zeros on the left up to a width. -/
def hexDigits (width n : Nat) : String :=
  let digits := Nat.toDigits 16 n
  String.ofList (List.replicate (width - digits.length) '0' ++ digits)

/-- One code point inside a quoted text. -/
def quotedPoint (quote : Char) (n : Nat) : String :=
  if n = quote.toNat || n = '\\'.toNat then "\\" ++ String.singleton (Char.ofNat n)
  else if n = 10 then "\\n"
  else if n = 13 then "\\r"
  else if n = 9 then "\\t"
  else if inSpans unprintableSpans n then
    if n < 0x100 then "\\x" ++ hexDigits 2 n
    else if n < 0x10000 then "\\u" ++ hexDigits 4 n
    else "\\U" ++ hexDigits 8 n
  else String.singleton (Char.ofNat n)

/-- The quote in use: double when the text holds single quotes only. -/
def quoteFor (points : List Nat) : Char :=
  if points.contains '\''.toNat && !points.contains '"'.toNat then '"' else '\''

/-- A text, given by its code points, as it is shown in a message. -/
def quotedPoints (points : List Nat) : String :=
  let quote := quoteFor points
  String.singleton quote ++ String.join (points.map (quotedPoint quote)) ++ String.singleton quote

/-- A text as it is shown in a message. -/
def quoted (s : String) : String :=
  quotedPoints (s.toList.map Char.toNat)

end TokenAudit.Text
