import SessionMux.Text.Blank
import SessionMux.Time.Span

/-!
Spans of time as people write them: counts with units, such as `1m 30s`. `Span.ofText?` reads them,
and `Span.text` writes a span with the largest units first. A count may have a decimal fraction
when it is read.
-/

namespace SessionMux

structure SpanParts where
  seconds : Nat
  nanos : Nat
  deriving Repr, DecidableEq

namespace SpanParts

def bound : Nat := 18446744073709551616

def inBounds? (parts : SpanParts) : Option SpanParts :=
  if parts.seconds < bound && parts.nanos < bound then some parts else none

def times? (parts : SpanParts) (count : Nat) : Option SpanParts :=
  inBounds? { seconds := parts.seconds * count, nanos := parts.nanos * count }

def divide (parts : SpanParts) (count : Nat) : SpanParts :=
  { seconds := parts.seconds / count, nanos := parts.nanos / count }

/-- A span that is longer by the parts. The nanoseconds beyond its last second are added first. -/
def addTo? (parts : SpanParts) (span : Span) : Option Span := do
  let { seconds, nanos } ← inBounds? { parts with nanos := parts.nanos + span.subNanos }
  let sum := Span.ofParts (span.seconds + seconds) nanos
  if sum.nanos < Span.bound then some sum else none

end SpanParts

structure SpanUnit where
  names : List String
  length : SpanParts
  /-- The length of which decimal fractions are taken. Those of an hour and longer have whole
  seconds, and the smallest unit has none. -/
  divisible : Option SpanParts

namespace SpanUnit

def ofNanos (names : List String) (nanos : Nat) : SpanUnit :=
  { names, length := ⟨0, nanos⟩, divisible := if nanos = 1 then none else some ⟨0, nanos⟩ }

def ofSeconds (names : List String) (seconds : Nat) : SpanUnit :=
  { names
    length := ⟨seconds, 0⟩
    divisible :=
      some (if seconds < 3600 then ⟨0, seconds * Span.nanosPerSecond⟩ else ⟨seconds, 0⟩) }

/-- A year, of 365.25 days. -/
def yearSeconds : Nat := 31557600

/-- A month, of 30.44 days. -/
def monthSeconds : Nat := 2630016

def daySeconds : Nat := 86400

def all : List SpanUnit :=
  [ofNanos ["nanos", "nsec", "ns"] 1,
    ofNanos ["usec", "us", "µs"] 1000,
    ofNanos ["millis", "msec", "ms"] 1000000,
    ofSeconds ["seconds", "second", "secs", "sec", "s"] 1,
    ofSeconds ["minutes", "minute", "min", "mins", "m"] 60,
    ofSeconds ["hours", "hour", "hrs", "hr", "h"] 3600,
    ofSeconds ["days", "day", "d"] daySeconds,
    ofSeconds ["weeks", "week", "wks", "wk", "w"] (7 * daySeconds),
    ofSeconds ["months", "month", "M"] monthSeconds,
    ofSeconds ["years", "year", "yrs", "yr", "y"] yearSeconds]

def ofName? (name : String) : Option SpanUnit := all.find? (·.names.contains name)

def isNameChar (c : Char) : Bool := ('a' ≤ c && c ≤ 'z') || ('A' ≤ c && c ≤ 'Z') || c = 'µ'

end SpanUnit

namespace Span

def readDigits (text : List Char) : List Char × List Char :=
  let belongs (c : Char) : Bool := Text.isDigit c || Text.isBlank c
  ((text.takeWhile belongs).filter Text.isDigit, text.dropWhile belongs)

def readCount? (digits : List Char) : Option Nat :=
  let count := Text.ofDigits digits
  if count < SpanParts.bound then some count else none

/-- Reads a decimal fraction, if there is one: its digits as a number, and the power of ten by which
they are divided. -/
def readFraction : List Char → Option (Option (Nat × Nat) × List Char)
  | '.' :: rest => do
    let (digits, rest) := readDigits rest
    let scale := Nat.pow 10 digits.length
    if digits.isEmpty || SpanParts.bound ≤ scale then none
    return (some (← readCount? digits, scale), rest)
  | text => some (none, text)

def readTerm (span : Span) (text : List Char) : Option (Span × List Char) := do
  if !text.head?.any Text.isDigit then none
  let (digits, rest) := readDigits text
  let (fraction, rest) ← readFraction rest
  let unit ← SpanUnit.ofName? (String.ofList (rest.takeWhile SpanUnit.isNameChar))
  let rest := rest.dropWhile SpanUnit.isNameChar
  let span ← (← unit.length.times? (← readCount? digits)).addTo? span
  match fraction with
  | none => return (span, rest)
  | some (count, scale) =>
    return (← ((← (← unit.divisible).times? count).divide scale).addTo? span, rest)

def readTerms (span : Span) (text : List Char) : Nat → Option Span
  | 0 => none
  | fuel + 1 => do
    let (span, rest) ← readTerm span (Text.trimStart text)
    if (Text.trimStart rest).isEmpty then return span else readTerms span rest fuel

/-- Reads a span: the sum of counts with units, or a zero alone. -/
def ofText? (text : String) : Option Span :=
  if text = "0" then some (ofSeconds 0)
  else readTerms (ofSeconds 0) text.toList (text.length + 1)

def countInWords (count : Nat) (name : String) : List String :=
  if count = 0 then [] else [toString count ++ name ++ (if count = 1 then "" else "s")]

def countInLetters (count : Nat) (letters : String) : List String :=
  if count = 0 then [] else [s!"{count}{letters}"]

def text (span : Span) : String :=
  let ofYear := span.seconds % SpanUnit.yearSeconds
  let ofMonth := ofYear % SpanUnit.monthSeconds
  let ofDay := ofMonth % SpanUnit.daySeconds
  let terms :=
    countInWords (span.seconds / SpanUnit.yearSeconds) "year" ++
    countInWords (ofYear / SpanUnit.monthSeconds) "month" ++
    countInWords (ofMonth / SpanUnit.daySeconds) "day" ++
    countInLetters (ofDay / 3600) "h" ++
    countInLetters (ofDay % 3600 / 60) "m" ++
    countInLetters (ofDay % 60) "s" ++
    countInLetters (span.subNanos / 1000000) "ms" ++
    countInLetters (span.subNanos / 1000 % 1000) "us" ++
    countInLetters (span.subNanos % 1000) "ns"
  if terms.isEmpty then "0s" else " ".intercalate terms

end Span

end SessionMux
