import SessionMux.Text.Number

/-!
Spans of time, counted in nanoseconds.
-/

namespace SessionMux

structure Span where
  nanos : Nat
  deriving Repr, DecidableEq, Inhabited

namespace Span

def nanosPerSecond : Nat := 1000000000

/-- One more than the longest span, which has as many seconds as fit 64 bits. -/
def bound : Nat := 18446744073709551616 * nanosPerSecond

def ofParts (seconds nanos : Nat) : Span := { nanos := seconds * nanosPerSecond + nanos }

def ofSeconds (seconds : Nat) : Span := ofParts seconds 0

def seconds (span : Span) : Nat := span.nanos / nanosPerSecond

def subNanos (span : Span) : Nat := span.nanos % nanosPerSecond

/-- The least number of milliseconds in which the span has passed. -/
def millisUp (span : Span) : Nat := (span.nanos + 999999) / 1000000

def min (span other : Span) : Span := { nanos := Nat.min span.nanos other.nanos }

def double? (span : Span) : Option Span :=
  if 2 * span.nanos < bound then some { nanos := 2 * span.nanos } else none

/-- A number of units with a decimal fraction that has no zeros at its end; `digits` digits of it
are given as a number. -/
def decimals (whole fraction digits : Nat) : String :=
  let written := ((Text.decimal digits fraction).toList.reverse.dropWhile (· = '0')).reverse
  if fraction = 0 then toString whole else toString whole ++ "." ++ String.ofList written

/-- A span in the largest unit of which it has one at least. -/
def describe (span : Span) : String :=
  if span.nanos ≥ nanosPerSecond then decimals span.seconds span.subNanos 9 ++ "s"
  else if span.nanos ≥ 1000000 then
    decimals (span.nanos / 1000000) (span.nanos % 1000000) 6 ++ "ms"
  else if span.nanos ≥ 1000 then decimals (span.nanos / 1000) (span.nanos % 1000) 3 ++ "µs"
  else toString span.nanos ++ "ns"

end Span

end SessionMux
