import SessionMux.Connect.Engine

/-!
An engine at work on attempts whose course is laid down in a script, beside somebody who may wait
for its result. Time stands still while they work.
-/

namespace SessionMux

structure Attempt (Conn : Type) where
  /-- How many milliseconds go by before anything becomes of it. -/
  delay : Nat
  /-- Whether it then cancels the engine. -/
  cancels : Bool
  /-- What becomes of it in the end, if anything does. -/
  ending : Answer Conn

inductive WaitOutcome (Conn : Type)
  | result (result : Except ConnectError Conn)
  | aborted

inductive ConnectTask
  | engine
  | waiter
  deriving Repr, DecidableEq

structure ConnectScript (Memory Conn : Type) where
  engine : Engine Memory Conn
  attempts : List (Attempt Conn)
  /-- When something becomes of the attempt under way. -/
  due : Nat
  /-- Milliseconds since the beginning. -/
  clock : Nat
  aborting : Bool
  outcome : Option (WaitOutcome Conn)
  /-- Who has to take a turn, the next one first. -/
  ready : List ConnectTask

namespace ConnectScript

variable {Memory Conn : Type}

def create (strategy : Strategy Memory) (memory : Memory) (attempts : List (Attempt Conn)) :
    ConnectScript Memory Conn where
  engine := .create strategy memory
  attempts := attempts
  due := 0
  clock := 0
  aborting := false
  outcome := none
  ready := []

def attempt? (script : ConnectScript Memory Conn) : Option (Attempt Conn) :=
  script.attempts[script.engine.attempts - 1]?

def answer (script : ConnectScript Memory Conn) : Answer Conn :=
  match script.attempt? with
  | some attempt => if script.due ≤ script.clock then attempt.ending else .pending
  | none => .pending

def attemptIsDue (script : ConnectScript Memory Conn) : Bool :=
  match script.attempt? with
  | none => false
  | some attempt =>
    script.due ≤ script.clock &&
      match attempt.ending with
      | .pending => attempt.cancels
      | _ => true

def engineIsDue (script : ConnectScript Memory Conn) : Bool :=
  let cancelled := script.engine.state = .cancelled
  match script.engine.stage with
  | .unstarted | .over | .crashed => false
  | .connecting _ deadline =>
    cancelled || deadline ≤ script.clock || script.attemptIsDue
  | .resting _ deadline => cancelled || deadline ≤ script.clock
  | _ => true

def waiterIsDue (script : ConnectScript Memory Conn) : Bool :=
  script.engine.owner = .waiter && (script.aborting || script.engine.offered.isSome)

def wake (script : ConnectScript Memory Conn) : ConnectScript Memory Conn :=
  let add (due : Bool) (task : ConnectTask) (ready : List ConnectTask) :=
    if due && !ready.contains task then ready ++ [task] else ready
  { script with
    ready := add script.waiterIsDue .waiter (add script.engineIsDue .engine script.ready) }

/-- One section of the engine's work, where the attempt under way does what the script says. -/
def stepEngine (script : ConnectScript Memory Conn) : ConnectScript Memory Conn × Bool :=
  let script :=
    match script.engine.stage, script.attempt? with
    | .checking .., some attempt =>
      if attempt.cancels && script.due ≤ script.clock then
        { script with engine := script.engine.cancel.2 }
      else script
    | _, _ => script
  let before := script.engine.attempts
  let (engine, goes) := script.engine.step script.clock script.answer
  let script := { script with engine }
  if engine.attempts = before then (script, goes)
  else ({ script with due := script.clock + (script.attempt?.elim 0 (·.delay)) }, goes)

def stepWaiter (script : ConnectScript Memory Conn) : ConnectScript Memory Conn :=
  if script.engine.owner != .waiter then script
  else if script.aborting then
    { script with engine := script.engine.abandonWait, outcome := some .aborted }
  else
    match script.engine.take? with
    | none => script
    | some (result, engine) => { script with engine, outcome := some (.result result) }

/-- More sections of work than there are between two requests. -/
def workLimit : Nat := 1000000000000

def run (script : ConnectScript Memory Conn) : Nat → Bool → ConnectScript Memory Conn
  | 0, _ => script
  | limit + 1, true =>
    match script.stepEngine with
    | (script, true) => run script limit true
    | (script, false) => run script.wake limit false
  | limit + 1, false =>
    match script.ready with
    | [] => script
    | .engine :: ready => run { script with ready } limit true
    | .waiter :: ready => run ({ script with ready }.stepWaiter).wake limit false

def settle (script : ConnectScript Memory Conn) : ConnectScript Memory Conn :=
  script.run workLimit false

def onEngine (script : ConnectScript Memory Conn)
    (change : Engine Memory Conn → Engine Memory Conn) : ConnectScript Memory Conn :=
  { script with engine := change script.engine }.wake

def start (script : ConnectScript Memory Conn) :
    Except ConnectError (ConnectScript Memory Conn) :=
  script.engine.start.map fun engine => { script with engine }.wake

def cancel (script : ConnectScript Memory Conn) : Bool × ConnectScript Memory Conn :=
  (script.engine.cancel.1, script.onEngine (·.cancel.2))

def hasHandle (script : ConnectScript Memory Conn) : Bool := script.engine.owner = .handle

/-- Begins to wait. The waiter takes a first turn also when there is no result yet. -/
def await (script : ConnectScript Memory Conn) : ConnectScript Memory Conn :=
  { script with engine := script.engine.await, ready := script.ready ++ [ConnectTask.waiter] }

def abortWait (script : ConnectScript Memory Conn) : ConnectScript Memory Conn :=
  { script with aborting := script.aborting || script.engine.owner == ResultOwner.waiter }.wake

def advance (script : ConnectScript Memory Conn) (milliseconds : Nat) :
    ConnectScript Memory Conn :=
  { script with clock := script.clock + milliseconds }.wake

end ConnectScript

end SessionMux
