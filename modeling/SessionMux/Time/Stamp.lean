import SessionMux.Text.Blank
import SessionMux.Text.Number

/-!
Points in time, read from and written as RFC 3339 texts. Days are counted in the Gregorian
calendar, extended to all years; a leap second is the second 59 of its minute with a billion
nanoseconds added.
-/

namespace SessionMux

structure Stamp where
  /-- Days since 1970-01-01. -/
  day : Int
  second : Nat
  /-- Nanoseconds in the second, a billion or more in a leap second. -/
  nano : Nat
  deriving Repr, DecidableEq, Inhabited

namespace Calendar

def isLeapYear (year : Int) : Bool := year % 4 = 0 && (year % 100 ≠ 0 || year % 400 = 0)

def monthLength (year : Int) (month : Nat) : Nat :=
  match month with
  | 2 => if isLeapYear year then 29 else 28
  | 4 | 6 | 9 | 11 => 30
  | _ => 31

def yearInRange (year : Int) : Bool := -262143 ≤ year && year ≤ 262142

/-- Days from 1970-01-01 to a date. Years are taken to begin in March, so that the leap day is
their last. -/
def dayNumber (year : Int) (month day : Nat) : Int :=
  let marchYear := if month ≤ 2 then year - 1 else year
  let era := marchYear.fdiv 400
  let yearOfEra := marchYear - era * 400
  let marchMonth : Int := if month > 2 then month - 3 else month + 9
  let dayOfYear := (153 * marchMonth + 2).fdiv 5 + day - 1
  let dayOfEra := yearOfEra * 365 + yearOfEra.fdiv 4 - yearOfEra.fdiv 100 + dayOfYear
  era * 146097 + dayOfEra - 719468

def date (number : Int) : Int × Nat × Nat :=
  let shifted := number + 719468
  let era := shifted.fdiv 146097
  let dayOfEra := shifted - era * 146097
  let yearOfEra :=
    (dayOfEra - dayOfEra.fdiv 1460 + dayOfEra.fdiv 36524 - dayOfEra.fdiv 146096).fdiv 365
  let dayOfYear := dayOfEra - (365 * yearOfEra + yearOfEra.fdiv 4 - yearOfEra.fdiv 100)
  let marchMonth := (5 * dayOfYear + 2).fdiv 153
  let day := dayOfYear - (153 * marchMonth + 2).fdiv 5 + 1
  let month := if marchMonth < 10 then marchMonth + 3 else marchMonth - 9
  (yearOfEra + era * 400 + (if month ≤ 2 then 1 else 0), month.toNat, day.toNat)

end Calendar

namespace Stamp

def readDigits? (width : Nat) (text : List Char) : Option (Nat × List Char) :=
  let digits := (text.take width).takeWhile Text.isDigit
  if digits.isEmpty then none else some (Text.ofDigits digits, text.drop digits.length)

/-- Reads a number of one or two digits from `low` to `high`, blanks before it skipped. -/
def readField? (low high : Nat) (text : List Char) : Option (Nat × List Char) := do
  let (value, rest) ← readDigits? 2 (Text.trimStart text)
  if low ≤ value ∧ value ≤ high then some (value, rest) else none

/-- Reads a year: four digits at most, or any number of them behind a sign. -/
def readYear? (text : List Char) : Option (Int × List Char) :=
  match Text.trimStart text with
  | '-' :: rest => (readDigits? rest.length rest).map fun (value, rest) => (-(value : Int), rest)
  | '+' :: rest => (readDigits? rest.length rest).map fun (value, rest) => ((value : Int), rest)
  | text => (readDigits? 4 text).map fun (value, rest) => ((value : Int), rest)

def expect? (c : Char) (text : List Char) : Option (List Char) :=
  match Text.trimStart text with
  | first :: rest => if first = c then some rest else none
  | [] => none

/-- Reads the fraction of a second, in nanoseconds; digits behind the ninth are dropped. -/
def readFraction? (text : List Char) : Option (Nat × List Char) :=
  match text with
  | '.' :: rest =>
    let digits := rest.takeWhile Text.isDigit
    let kept := digits.take 9
    if digits.isEmpty then none
    else some (Text.ofDigits kept * Nat.pow 10 (9 - kept.length), rest.drop digits.length)
  | text => some (0, text)

/-- Reads the offset from UTC in seconds: `UTC`, `Z`, or a sign, two digits of hours and two of
minutes, with colons and blanks between them or none. -/
def readOffset? (text : List Char) : Option (Int × List Char) :=
  if (text.take 3).map Char.toUpper = ['U', 'T', 'C'] then some (0, text.drop 3)
  else
    match text with
    | 'Z' :: rest => some (0, rest)
    | 'z' :: rest => some (0, rest)
    | '+' :: rest => (magnitude? rest).map fun (value, rest) => ((value : Int), rest)
    | '-' :: rest => (magnitude? rest).map fun (value, rest) => (-(value : Int), rest)
    | '−' :: rest => (magnitude? rest).map fun (value, rest) => (-(value : Int), rest)
    | _ => none
where
  pair? : List Char → Option (Nat × List Char)
    | first :: second :: rest =>
      if Text.isDigit first && Text.isDigit second then some (Text.ofDigits [first, second], rest)
      else none
    | _ => none
  magnitude? (text : List Char) : Option (Nat × List Char) := do
    let (hours, rest) ← pair? text
    let (minutes, rest) ← pair? (rest.dropWhile fun c => c = ':' || Text.isBlank c)
    if minutes < 60 then some (hours * 3600 + minutes * 60, rest) else none

/-- The point in time at a local date and time; the offset is what local clocks are ahead. -/
def ofLocal? (year : Int) (month day secondOfDay nano : Nat) (offset : Int) : Option Stamp :=
  if !Calendar.yearInRange year || day > Calendar.monthLength year month then none
  else if offset ≤ -86400 ∨ 86400 ≤ offset then none
  else
    let total := (Calendar.dayNumber year month day) * 86400 + secondOfDay - offset
    let utcDay := total.fdiv 86400
    if Calendar.yearInRange (Calendar.date utcDay).1 then
      some { day := utcDay, second := (total - utcDay * 86400).toNat, nano }
    else
      none

/-- Reads an RFC 3339 text. Blanks may stand in front of every number and mark, and a blank may
stand for the `T`. -/
def ofText? (text : String) : Option Stamp := do
  let (year, rest) ← readYear? text.toList
  let rest ← expect? '-' rest
  let (month, rest) ← readField? 1 12 rest
  let rest ← expect? '-' rest
  let (day, rest) ← readField? 1 31 rest
  let rest ← match rest with
    | 't' :: rest => some rest
    | 'T' :: rest => some rest
    | ' ' :: rest => some rest
    | _ => none
  let (hour, rest) ← readField? 0 23 rest
  let rest ← expect? ':' rest
  let (minute, rest) ← readField? 0 59 rest
  let rest ← expect? ':' rest
  let (second, rest) ← readField? 0 60 rest
  let (nano, rest) ← readFraction? rest
  let (offset, rest) ← readOffset? (Text.trimStart rest)
  if (Text.trimStart rest).isEmpty then
    if second = 60 then
      ofLocal? year month day (hour * 3600 + minute * 60 + 59) (nano + 1000000000) offset
    else
      ofLocal? year month day (hour * 3600 + minute * 60 + second) nano offset
  else
    none

/-- A year has four digits, and a sign and at least four digits outside of 0 to 9999. -/
def yearText (year : Int) : String :=
  if 0 ≤ year ∧ year ≤ 9999 then Text.decimal 4 year.toNat
  else (if year < 0 then "-" else "+") ++ Text.decimal 4 year.natAbs

/-- A fraction has three, six or nine digits, and is left out where it is zero. -/
def fractionText (nano : Nat) : String :=
  if nano = 0 then ""
  else if nano % 1000000 = 0 then "." ++ Text.decimal 3 (nano / 1000000)
  else if nano % 1000 = 0 then "." ++ Text.decimal 6 (nano / 1000)
  else "." ++ Text.decimal 9 nano

def text (stamp : Stamp) : String :=
  let (year, month, day) := Calendar.date stamp.day
  let leap := stamp.nano / 1000000000
  let two := Text.decimal 2
  s!"{yearText year}-{two month}-{two day}T{two (stamp.second / 3600)}:" ++
    s!"{two (stamp.second / 60 % 60)}:{two (stamp.second % 60 + leap)}" ++
    s!"{fractionText (stamp.nano % 1000000000)}Z"

end Stamp

end SessionMux
