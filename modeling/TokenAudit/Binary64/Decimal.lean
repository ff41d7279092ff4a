import TokenAudit.Binary64.Shortest

/-!
# Decimal text of floating-point numbers

A number is written by the shortest digits that read back, with a point where the decimal exponent
lies between `-4` and `15` and with an exponent mark elsewhere; the text always shows by a point, a
mark or a word that it is no whole number. A number can also be written with a fixed count of
places.
-/

set_option autoImplicit false

namespace TokenAudit.Binary64

/-- The words for values that have no digits. -/
structure Wording where
  infinity : String
  notANumber : String

/-- The words used in messages. -/
def Wording.plain : Wording := { infinity := "inf", notANumber := "nan" }

/-- The words used in exported documents. -/
def Wording.document : Wording := { infinity := "Infinity", notANumber := "NaN" }

/-- The sign of a number as text. -/
def signText (negative : Bool) : String :=
  if negative then "-" else ""

/-- The digits of a natural number. -/
def digitText (n : Nat) : List Char :=
  Nat.toDigits 10 n

/-- The digits without the zeros at their end. -/
def trimZeros (digits : List Char) : List Char :=
  (digits.reverse.dropWhile (· == '0')).reverse

/-- A digit string with a point after its first digit, if more than one. -/
def withPoint : List Char → List Char
  | [] => []
  | [d] => [d]
  | d :: rest => d :: '.' :: rest

/-- The exponent with its sign, in two digits at least. -/
def exponentText (e : Int) : String :=
  let digits := digitText e.natAbs
  (if e < 0 then "e-" else "e+") ++
    String.ofList (List.replicate (2 - digits.length) '0' ++ digits)

/-- The text of a positive decimal number. -/
def Decimal.text (d : Decimal) : String :=
  let digits := trimZeros (digitText d.coefficient)
  let point : Int := (digitText d.coefficient).length + d.exponent
  if -4 < point ∧ point ≤ 16 then
    if point ≤ 0 then
      "0." ++ String.ofList (List.replicate (-point).toNat '0' ++ digits)
    else
      let whole := digits.take point.toNat
      let fraction := digits.drop point.toNat
      String.ofList (whole ++ List.replicate (point.toNat - whole.length) '0') ++ "." ++
        (if fraction.isEmpty then "0" else String.ofList fraction)
  else String.ofList (withPoint digits) ++ exponentText (point - 1)

/-- The text of a number. -/
def text (wording : Wording) : Binary64 → String
  | .finite negative rank =>
    signText negative ++ (if rank.val = 0 then "0.0" else (shortest rank).text)
  | .infinite negative => signText negative ++ wording.infinity
  | .nan => wording.notANumber

/-- The text of a number in messages. -/
def plainText (x : Binary64) : String :=
  x.text .plain

/-- The text of a number with a fixed, positive count of decimal places. -/
def fixedText (places : Nat) : Binary64 → String
  | .finite negative rank =>
    let scale := Nat.pow 10 places
    let scaled := roundQuotient (units rank * scale) one
    let fraction := digitText (scaled % scale)
    signText negative ++ toString (scaled / scale) ++ "." ++
      String.ofList (List.replicate (places - fraction.length) '0' ++ fraction)
  | x => x.plainText

end TokenAudit.Binary64
