import TokenAudit.Binary64.Basic

/-!
# Readings of the clock

The clock gives seconds since the beginning of 1970 as a floating-point number. A reading is turned
into whole milliseconds, by which findings are stamped, and into the date and time that exported
documents carry; dates reach from the year 1 to the year 9999.
-/

set_option autoImplicit false

namespace TokenAudit.Clock

/-- Why a reading has no whole milliseconds, or no date. -/
inductive Fault where
  | undefinedWhole
  | infiniteWhole
  | undefinedMoment
  | beyondSeconds
  | beyondYears
  | noSuchYear (year : Int)
  deriving DecidableEq

/-- The wording of a fault. -/
def Fault.message : Fault → String
  | undefinedWhole => "cannot convert float NaN to integer"
  | infiniteWhole => "cannot convert float infinity to integer"
  | undefinedMoment => "Invalid value NaN (not a number)"
  | beyondSeconds => "timestamp out of range for platform time_t"
  | beyondYears => "[Errno 75] Value too large for defined data type"
  | noSuchYear year => "year " ++ toString year ++ " is out of range"

/-- The product of a finite number and a natural number, rounded. -/
def times (n : Nat) : Binary64 → Binary64
  | .finite negative rank => .ofRatio negative (Binary64.units rank * n) Binary64.one
  | x => x

/-- The whole part of a number. -/
def wholePart : Binary64 → Except Fault Int
  | .finite negative rank =>
    let whole := Binary64.units rank / Binary64.one
    .ok (if negative then -whole else whole)
  | .infinite _ => .error .infiniteWhole
  | .nan => .error .undefinedWhole

/-- The whole milliseconds of a reading. -/
def milliseconds (now : Binary64) : Except Fault Int :=
  wholePart (times 1000 now)

/-- A moment: whole seconds since the beginning of 1970 and microseconds after them. -/
structure Moment where
  seconds : Int
  microseconds : Nat
  deriving DecidableEq

/-- The number of microseconds in a second. -/
def million : Nat := 1000000

/-- Whether a whole number can be counted in so many bits, one of them for the sign. -/
def fitsIn (bits : Nat) (n : Int) : Bool :=
  let bound : Int := Nat.pow 2 (bits - 1)
  n < bound && -bound ≤ n

/-- The microseconds of a fraction of a second, given in units: the product with a million is
rounded, and so is what is then no whole number. -/
def fractionMicroseconds (fraction : Nat) : Nat :=
  match Binary64.ofRatio false (fraction * million) Binary64.one with
  | .finite _ rank => Binary64.roundQuotient (Binary64.units rank) Binary64.one
  | _ => 0

/-- The moment of a magnitude, given in units, before or after the beginning of 1970. -/
def momentOf (negative : Bool) (magnitude : Nat) : Moment :=
  let whole := magnitude / Binary64.one
  let micro := fractionMicroseconds (magnitude % Binary64.one)
  if negative ∧ 0 < micro then
    if micro < million then ⟨-(whole : Int) - 1, million - micro⟩
    else ⟨-(whole : Int) - 1, 0⟩
  else if micro < million then ⟨if negative then -(whole : Int) else whole, micro⟩
  else ⟨whole + 1, 0⟩

/-- The moment of a reading, whose seconds are counted in sixty-four bits. -/
def moment : Binary64 → Except Fault Moment
  | .finite negative rank =>
    let m := momentOf negative (Binary64.units rank)
    if fitsIn 64 m.seconds then .ok m else .error .beyondSeconds
  | .infinite _ => .error .beyondSeconds
  | .nan => .error .undefinedMoment

/-- A day of the calendar. -/
structure Date where
  year : Int
  month : Nat
  day : Nat
  deriving DecidableEq

/-- The date of a day counted from the beginning of 1970. Years are counted from the first of March,
so that the leap day is the last of its year, and in cycles of four hundred years. -/
def dateOf (days : Int) : Date :=
  let shifted := days + 719468
  let era := shifted.fdiv 146097
  let dayOfEra := (shifted.fmod 146097).toNat
  let yearOfEra := (dayOfEra - dayOfEra / 1460 + dayOfEra / 36524 - dayOfEra / 146096) / 365
  let dayOfYear := dayOfEra - (365 * yearOfEra + yearOfEra / 4 - yearOfEra / 100)
  let monthFromMarch := (5 * dayOfYear + 2) / 153
  let month := if monthFromMarch < 10 then monthFromMarch + 3 else monthFromMarch - 9
  { year := yearOfEra + era * 400 + (if month ≤ 2 then 1 else 0)
    month
    day := dayOfYear - (153 * monthFromMarch + 2) / 5 + 1 }

/-- The date of a day, if its year is one of the calendar. Years are counted from 1900 in thirty-two
bits, and those that are refused are named in thirty-two bits. -/
def calendarDate (days : Int) : Except Fault Date :=
  let date := dateOf days
  if 1 ≤ date.year ∧ date.year ≤ 9999 then .ok date
  else if fitsIn 32 (date.year - 1900) then
    .error (.noSuchYear (date.year.bmod (Nat.pow 2 32)))
  else .error .beyondYears

/-- The time of a day. -/
structure TimeOfDay where
  hour : Nat
  minute : Nat
  second : Nat
  deriving DecidableEq

/-- The time of day after a number of seconds. -/
def timeOf (seconds : Nat) : TimeOfDay :=
  { hour := seconds / 3600 % 24, minute := seconds / 60 % 60, second := seconds % 60 }

/-- A number in decimal, filled with zeros on the left up to a width. -/
def padded (width n : Nat) : String :=
  let digits := Nat.toDigits 10 n
  String.ofList (List.replicate (width - digits.length) '0' ++ digits)

/-- The date and time of a reading in universal time; microseconds are shown unless there are
none. -/
def timestamp (now : Binary64) : Except Fault String := do
  let m ← moment now
  let date ← calendarDate (m.seconds.fdiv 86400)
  let time := timeOf (m.seconds.fmod 86400).toNat
  return padded 4 date.year.toNat ++ "-" ++ padded 2 date.month ++ "-" ++ padded 2 date.day ++
    "T" ++ padded 2 time.hour ++ ":" ++ padded 2 time.minute ++ ":" ++ padded 2 time.second ++
    (if m.microseconds = 0 then "" else "." ++ padded 6 m.microseconds) ++ "+00:00"

end TokenAudit.Clock
