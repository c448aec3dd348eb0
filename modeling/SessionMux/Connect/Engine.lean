import SessionMux.Connect.Backoff
import SessionMux.Fault.Basic
import SessionMux.Monitor.Event

/-!
The engine that establishes one connection. It tries again and again, as its strategy says, until an
attempt succeeds, the strategy gives up, or it is cancelled; whoever holds its handle gets exactly
one result. Each function here is one section of work that nothing interrupts, so that cancelling
can come between any two of them.
-/

namespace SessionMux

inductive ConnectError
  | cancelled
  /-- The strategy gave up after so many attempts, of which the last failed with `fault`. -/
  | exhausted (attempts : Nat) (fault : Fault)
  | alreadyStarted
  /-- The engine stopped without a result. -/
  | aborted
  deriving Repr, DecidableEq

def ConnectError.kind : ConnectError → String
  | cancelled => "Cancelled"
  | exhausted .. => "Exhausted"
  | alreadyStarted => "AlreadyStarted"
  | aborted => "Aborted"

def ConnectError.message : ConnectError → String
  | cancelled => "connect cancelled"
  | exhausted attempts fault => s!"giving up after {attempts} attempts: {fault.message}"
  | alreadyStarted => "connect already started"
  | aborted => "connect task aborted"

inductive EngineState
  | initial
  | connecting (attempt : Nat)
  | scheduled (attempt : Nat) (delay : Span)
  | connected
  | failed
  | cancelled
  deriving Repr, DecidableEq

namespace EngineState

def isTerminal : EngineState → Bool
  | connected | failed | cancelled => true
  | _ => false

def describe : EngineState → String
  | initial => "Initial"
  | connecting attempt => "Connecting \x7b attempt: " ++ toString attempt ++ " \x7d"
  | scheduled attempt delay =>
    "ReconnectScheduled \x7b attempt: " ++ toString attempt ++ ", delay: " ++ delay.describe ++
      " \x7d"
  | connected => "Connected"
  | failed => "Failed"
  | cancelled => "Cancelled"

end EngineState

inductive ResultOwner
  /-- The engine, which was not started yet. -/
  | engine
  | handle
  | waiter
  | nobody
  deriving Repr, DecidableEq

/-- Where the task stands that does the engine's work. Attempts are counted from one. -/
inductive EngineStage (Conn : Type)
  | unstarted
  | starting (attempt : Nat)
  /-- About to make the attempt. -/
  | calling (attempt : Nat)
  /-- The attempt is under way, and is given up at `deadline`. -/
  | connecting (attempt deadline : Nat)
  /-- Has seen that it is not cancelled, and now looks what became of the attempt. -/
  | checking (attempt deadline : Nat)
  | concluding (attempt : Nat) (result : Except Fault Conn)
  /-- Waits until `deadline` before the attempt. -/
  | resting (attempt deadline : Nat)
  | over
  | crashed

inductive Answer (Conn : Type)
  | pending
  | connection (connection : Conn)
  | fault (fault : Fault)
  /-- The attempt breaks down, and the engine's task with it. -/
  | crash

structure Engine (Memory Conn : Type) where
  strategy : Strategy Memory
  memory : Memory
  state : EngineState
  stage : EngineStage Conn
  owed : Bool
  /-- The result, until its owner takes it. -/
  offered : Option (Except ConnectError Conn)
  owner : ResultOwner
  attempts : Nat
  reports : List ErrorReport
  /-- The connections that were disposed of because nobody would use them. -/
  discarded : List Conn
  /-- The connections that went when the result was dropped together with its owner. -/
  dropped : List Conn

namespace Engine

variable {Memory Conn : Type}

def create (strategy : Strategy Memory) (memory : Memory) : Engine Memory Conn where
  strategy := strategy
  memory := memory
  state := .initial
  stage := .unstarted
  owed := true
  offered := none
  owner := .engine
  attempts := 0
  reports := []
  discarded := []
  dropped := []

def report (engine : Engine Memory Conn) (fault : Fault) (level : Level) (message : String) :
    Engine Memory Conn :=
  { engine with
    reports := engine.reports ++ [{ code := fault.errorCode, level, message }] }

/-- Sends a failure as the result, if the result is still owed and there is an owner. -/
def refuse (engine : Engine Memory Conn) (error : ConnectError) : Engine Memory Conn :=
  if engine.owed then
    { engine with
      owed := false
      offered := if engine.owner = .nobody then none else some (.error error) }
  else engine

/-- Cancels the engine, unless it has come to its result; tells whether this call cancelled it. -/
def cancel (engine : Engine Memory Conn) : Bool × Engine Memory Conn :=
  if engine.state.isTerminal then (false, engine)
  else (true, { engine with state := .cancelled }.refuse .cancelled)

/-! ### The handle -/

def start (engine : Engine Memory Conn) : Except ConnectError (Engine Memory Conn) :=
  if engine.owner = .engine then .ok { engine with owner := .handle, stage := .starting 1 }
  else .error .alreadyStarted

/-- The owner of the result goes, and the result with it. -/
def forget (engine : Engine Memory Conn) : Engine Memory Conn :=
  let connections :=
    match engine.offered with
    | some (.ok connection) => [connection]
    | _ => []
  { engine with owner := .nobody, offered := none, dropped := engine.dropped ++ connections }

/-- The handle goes: nobody could see the result any more, so the engine is cancelled. -/
def dropHandle (engine : Engine Memory Conn) : Engine Memory Conn := engine.cancel.2.forget

def await (engine : Engine Memory Conn) : Engine Memory Conn := { engine with owner := .waiter }

def abandonWait (engine : Engine Memory Conn) : Engine Memory Conn := engine.forget.cancel.2

def take? (engine : Engine Memory Conn) : Option (Except ConnectError Conn × Engine Memory Conn) :=
  engine.offered.map fun result =>
    (result, { engine with offered := none, owner := .nobody }.cancel.2)

/-! ### The work -/

/-- Moves on, unless the engine has come to its result. -/
def proceed (engine : Engine Memory Conn) (state : EngineState) (stage : EngineStage Conn) :
    Engine Memory Conn :=
  if engine.state.isTerminal then { engine with stage := .over } else { engine with state, stage }

/-- Hands out a connection. One that comes too late, or that nobody would get, is disposed of. -/
def complete (engine : Engine Memory Conn) (connection : Conn) : Engine Memory Conn :=
  let engine := { engine with stage := .over }
  if engine.state.isTerminal then
    { engine with discarded := engine.discarded ++ [connection] }
  else
    let engine :=
      { engine with state := .connected, memory := engine.strategy.succeed engine.memory }
    if engine.owed && engine.owner != .nobody then
      { engine with owed := false, offered := some (.ok connection) }
    else
      { engine with owed := false, discarded := engine.discarded ++ [connection] }

def fail (engine : Engine Memory Conn) (clock attempt : Nat) (fault : Fault) :
    Engine Memory Conn :=
  if engine.state.isTerminal then { engine with stage := .over }
  else
    let (retry, memory) := engine.strategy.schedule engine.memory
    let engine := { engine with memory }
    match retry with
    | .after delay =>
      let engine :=
        engine.report fault .warning s!"connect attempt {attempt} failed: {fault.message}"
      { engine with
        state := .scheduled (attempt + 1) delay
        stage := .resting (attempt + 1) (clock + delay.millisUp) }
    | .giveUp =>
      let engine :=
        engine.report fault .error s!"giving up after {attempt} attempts: {fault.message}"
      { engine with state := .failed, stage := .over }.refuse (.exhausted attempt fault)
    | .overflow => { engine with stage := .crashed }

def timedOut (timeout : Span) : Fault :=
  .custom .timedOut s!"connect timed out after {timeout.describe}"

/-- One section of the engine's work, and whether it can go on at once. `answer` is what has become
of the attempt that is under way. -/
def step (engine : Engine Memory Conn) (clock : Nat) (answer : Answer Conn) :
    Engine Memory Conn × Bool :=
  let timeout := engine.strategy.connectTimeout engine.memory
  let cancelled := engine.state = .cancelled
  match engine.stage with
  | .unstarted | .over | .crashed => (engine, false)
  | .starting attempt => (engine.proceed (.connecting attempt) (.calling attempt), true)
  | .calling attempt =>
    if cancelled then ({ engine with stage := .over }, false)
    else
      ({ engine with
          attempts := engine.attempts + 1
          stage := .checking attempt (clock + timeout.millisUp) }, true)
  | .connecting attempt deadline =>
    if cancelled then ({ engine with stage := .over }, false)
    else ({ engine with stage := .checking attempt deadline }, true)
  | .checking attempt deadline =>
    match answer with
    | .connection connection =>
      ({ engine with stage := .concluding attempt (.ok connection) }, true)
    | .fault fault => ({ engine with stage := .concluding attempt (.error fault) }, true)
    | .crash => ({ engine with stage := .crashed }, false)
    | .pending =>
      if deadline ≤ clock then
        ({ engine with stage := .concluding attempt (.error (timedOut timeout)) }, true)
      else ({ engine with stage := .connecting attempt deadline }, false)
  | .concluding attempt result =>
    match result with
    | .ok connection => (engine.complete connection, true)
    | .error fault => (engine.fail clock attempt fault, true)
  | .resting attempt deadline =>
    if cancelled then ({ engine with stage := .over }, false)
    else if deadline ≤ clock then ({ engine with stage := .starting attempt }, true)
    else (engine, false)

end Engine

end SessionMux
