import SessionMux.Time.Span

/-!
When to try again. After each failed attempt a strategy names the delay before the next one, or
gives up. The doubling backoff waits twice as long each time, up to a limit.
-/

namespace SessionMux

structure BackoffConfig where
  connectTimeout : Span
  initial : Span
  /-- The longest delay of the later retries. -/
  longest : Span
  /-- How many retries there may be; without a limit there is no end of them. -/
  maxRetries : Option Nat
  deriving Repr, DecidableEq

def BackoffConfig.default : BackoffConfig where
  connectTimeout := .ofSeconds 10
  initial := .ofSeconds 1
  longest := .ofSeconds 30
  maxRetries := none

inductive Retry
  | after (delay : Span)
  | giveUp
  /-- There is no delay twice as long as the last one. -/
  | overflow
  deriving Repr, DecidableEq

def Retry.overflowMessage : String := "overflow when multiplying duration by scalar"

structure Backoff where
  config : BackoffConfig
  nextDelay : Span
  /-- Counts the retries since the last success. It starts over at `2 ^ 32`. -/
  counter : UInt32
  deriving Repr, DecidableEq

namespace Backoff

def create (config : BackoffConfig) : Backoff :=
  { config, nextDelay := config.initial, counter := 0 }

def retries (backoff : Backoff) : Nat := backoff.counter.toNat

def isExhausted (backoff : Backoff) : Bool :=
  backoff.config.maxRetries.any (· ≤ backoff.retries)

/-- Decides after a failed attempt. The delay after this one is worked out at once, so that a delay
that cannot be doubled fails here; its retry counts all the same. -/
def schedule (backoff : Backoff) : Retry × Backoff :=
  if backoff.isExhausted then (.giveUp, backoff)
  else
    let backoff := { backoff with counter := backoff.counter + 1 }
    match backoff.nextDelay.double? with
    | none => (.overflow, backoff)
    | some doubled =>
      (.after backoff.nextDelay,
        { backoff with nextDelay := doubled.min backoff.config.longest })

def succeed (backoff : Backoff) : Backoff := create backoff.config

end Backoff

/-- How to go about attempts, as a function of what is remembered of the earlier ones. -/
structure Strategy (Memory : Type) where
  connectTimeout : Memory → Span
  schedule : Memory → Retry × Memory
  succeed : Memory → Memory

def Strategy.backoff : Strategy Backoff where
  connectTimeout backoff := backoff.config.connectTimeout
  schedule := Backoff.schedule
  succeed := Backoff.succeed

/-- A single attempt. All that is remembered is the time allowed for it. -/
def Strategy.single : Strategy Span where
  connectTimeout timeout := timeout
  schedule timeout := (.giveUp, timeout)
  succeed timeout := timeout

/-- Two strategies in one: the memory tells which of them is followed. -/
def Strategy.either {Memory Memory' : Type} (left : Strategy Memory) (right : Strategy Memory') :
    Strategy (Memory ⊕ Memory') where
  connectTimeout := Sum.elim left.connectTimeout right.connectTimeout
  schedule
    | .inl memory => (left.schedule memory).map id .inl
    | .inr memory => (right.schedule memory).map id .inr
  succeed := Sum.map left.succeed right.succeed

end SessionMux
