import SessionMux.Log.Line
import SessionMux.Monitor.Event

/-!
Delivery of events to listeners. Publishing only queues an event; workers take events off their
queues and hand each to every listener registered when the worker took it, in no particular order.
All events of a device go to one worker, so a listener gets them in the order of publication. A
shutdown lets the workers deliver what is queued and waits until each of them is over.
-/

namespace SessionMux

/-- What comes back from a listener that was handed an event. A panic does not get past the worker
that called the listener. -/
inductive Handling
  | succeeds
  | fails (name error : String)
  | panics (name : String)
  deriving Repr, DecidableEq

structure Delivery where
  event : Event
  targets : List Nat
  deriving Repr

structure Worker where
  queue : List Event
  current : Option Delivery
  deriving Repr

namespace Worker

/-- Hands the event to one of the listeners that are still to get it; `pick` decides which. -/
def hand? (worker : Worker) (pick : Nat) : Option (Nat × Event × Worker) :=
  match worker.current with
  | none => none
  | some { event, targets } =>
    match targets.rotateLeft pick with
    | [] => none
    | listener :: targets =>
      some (listener, event, { worker with current := some { event, targets } })

def next? (worker : Worker) (listeners : List Nat) : Option Worker :=
  match worker.queue with
  | [] => none
  | event :: queue => some { queue, current := some { event, targets := listeners } }

end Worker

structure Dispatcher where
  /-- The worker that serves a device. Which one it is does not matter, only that it stays. -/
  route : String → Nat
  workers : List Worker
  /-- The registered listeners; numbers are given in order, from 1, and not given twice. -/
  listeners : List Nat
  nextListener : Nat
  published : Nat
  accepting : Bool
  /-- What listeners got: listener and event, in order. -/
  delivered : List (Nat × Event)
  /-- The workers that no shutdown waits for yet. -/
  handles : List Nat

namespace Dispatcher

def spread (workers : Nat) (device : String) : Nat :=
  (device.toList.foldl (fun sum c => sum * 31 + c.toNat) 7) % workers

def create (workers : Nat) : Dispatcher :=
  { route := spread (max workers 1)
    workers := List.replicate (max workers 1) { queue := [], current := none }
    listeners := []
    nextListener := 1
    published := 0
    accepting := true
    delivered := []
    handles := List.range (max workers 1) }

def addListener (dispatcher : Dispatcher) : Dispatcher × Nat :=
  ({ dispatcher with
      listeners := dispatcher.listeners ++ [dispatcher.nextListener]
      nextListener := dispatcher.nextListener + 1 },
    dispatcher.nextListener)

def removeListener (dispatcher : Dispatcher) (listener : Nat) : Dispatcher × Bool :=
  ({ dispatcher with listeners := dispatcher.listeners.filter (· ≠ listener) },
    dispatcher.listeners.contains listener)

/-- Queues an event with the worker of its device; after shutdown has begun it is dropped. -/
def publish (dispatcher : Dispatcher) (event : Event) : Dispatcher :=
  if dispatcher.accepting then
    { dispatcher with
      workers := dispatcher.workers.modify (dispatcher.route event.device) fun worker =>
        { worker with queue := worker.queue ++ [event] }
      published := dispatcher.published + 1 }
  else
    dispatcher

def setWorker (dispatcher : Dispatcher) (index : Nat) (worker : Worker) : Dispatcher :=
  { dispatcher with workers := dispatcher.workers.set index worker }

/-- One step of a worker: hands its event to the next target, or takes the next event off its
queue with the listeners of this moment as targets. `handling` is what comes back from a listener
that gets the event; one that fails or panics is reported under its name, and the worker goes on to
the others. Also returns what is logged. `none` when the worker has nothing to do. -/
def work? (dispatcher : Dispatcher) (index pick : Nat) (handling : Handling) :
    Option (Dispatcher × Option LogRecord) := do
  let worker ← dispatcher.workers[index]?
  match worker.hand? pick with
  | some (listener, event, worker) =>
    let called := { dispatcher with delivered := dispatcher.delivered ++ [(listener, event)] }
    match handling with
    | .succeeds => some (called.setWorker index worker, none)
    | .fails name error =>
      some (called.setWorker index worker, some
        { level := .warn
          fields := [("message", .described
            s!"Listener {name} failed on {event.change.name} event for {event.device}: {error}")] })
    | .panics name =>
      some (called.setWorker index worker, some
        { level := .error
          fields := [("message", .described
            s!"Listener {name} panicked on {event.change.name} event for {event.device}")] })
  | none =>
    (worker.next? dispatcher.listeners).map fun worker => (dispatcher.setWorker index worker, none)

/-- Begins the shutdown: nothing more is accepted, what is queued is still delivered. -/
def beginShutdown (dispatcher : Dispatcher) : Dispatcher :=
  { dispatcher with accepting := false, handles := [] }

/-- Whether a worker has come to its end: nothing is accepted, and nothing is left for it to do. -/
def isOver (dispatcher : Dispatcher) (index : Nat) : Bool :=
  !dispatcher.accepting && (dispatcher.work? index 0 .succeeds).isNone

/-- A worker's steps until it has nothing to do, `fuel` at most. What is delivered does not depend
on what comes back from the listeners. -/
def workThrough (fuel index : Nat) (dispatcher : Dispatcher) : Dispatcher :=
  match fuel with
  | 0 => dispatcher
  | fuel + 1 =>
    match dispatcher.work? index 0 .succeeds with
    | some (next, _) => workThrough fuel index next
    | none => dispatcher

/-- The steps that a worker can need: one to take each event and one for each target. -/
def workBound (dispatcher : Dispatcher) (worker : Worker) : Nat :=
  (worker.current.map (·.targets.length)).getD 0 +
    worker.queue.length * (dispatcher.listeners.length + 1)

def settle (dispatcher : Dispatcher) : Dispatcher :=
  (List.range dispatcher.workers.length).foldl
    (fun state index =>
      match state.workers[index]? with
      | some worker => state.workThrough (state.workBound worker) index
      | none => state)
    dispatcher

def describe (dispatcher : Dispatcher) : String :=
  "EventDispatcher \x7b workers: " ++ toString dispatcher.workers.length ++ ", listeners: " ++
    toString dispatcher.listeners.length ++ ", published: " ++ toString dispatcher.published ++
    " \x7d"

end Dispatcher

/-- A shutdown under way. The first one waits for all workers, one after another; a later one finds
none to wait for. -/
structure Shutdown where
  /-- The workers that are still to be waited for. -/
  waiting : List Nat
  deriving Repr, DecidableEq

namespace Shutdown

def start (dispatcher : Dispatcher) : Shutdown × Dispatcher :=
  ({ waiting := dispatcher.handles }, dispatcher.beginShutdown)

def await (shutdown : Shutdown) (dispatcher : Dispatcher) : Shutdown :=
  { waiting := shutdown.waiting.dropWhile dispatcher.isOver }

def hasReturned (shutdown : Shutdown) : Bool := shutdown.waiting.isEmpty

end Shutdown

end SessionMux
