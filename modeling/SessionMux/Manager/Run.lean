import SessionMux.Manager.CallHome
import SessionMux.Manager.Watch
import SessionMux.Net.Network

/-!
A manager at work in a network. Everybody who has something to do takes a turn, one after the other,
until nobody has; then time goes on to the next moment for which somebody waits.
-/

namespace SessionMux.Manager

def dialAnswer (network : Network) (dial : Dial) : Answer Unit :=
  network.dial dial.address dial.transport

def dialIsDue (manager : Manager) (network : Network) (dial : Dial) : Bool :=
  let cancelled := dial.engine.state = .cancelled
  match dial.engine.stage with
  | .unstarted | .over | .crashed => false
  | .connecting _ deadline =>
    cancelled || deadline ≤ manager.clock ||
      (match dialAnswer network dial with
      | .pending => false
      | _ => true)
  | .resting _ deadline => cancelled || deadline ≤ manager.clock
  | _ => true

def callIsDue (manager : Manager) (number : Nat) (call : ConnectCall) : Bool :=
  match call.stage with
  | .queued gate => manager.hasTurn number gate
  | .dialling _ dial =>
    manager.shutdown || manager.dials[dial]?.any (·.engine.offered.isSome)
  | .leaving .. => true
  | .over _ | .dropped => false

/-- Whether a device that calls home has something to do. Without encryption there is nothing to
wait for. -/
def homeIsDue (home : HomeCall) : Bool :=
  match home.stage with
  | .accepted | .securing _ => true
  | .over _ => false

def homeAnswer (home : HomeCall) : Answer Unit :=
  match RawConnection.stream.passOn home.transport with
  | .ok () => .connection ()
  | .error fault => .fault fault

/-- Lets the first of some take a turn that has something to do: engines, then calls, then devices
that call home, then watchers. -/
def turn? (manager : Manager) (network : Network) : Option Manager :=
  let dial? : Option Manager := do
    let number ← manager.dials.findIdx? (manager.dialIsDue network)
    return manager.stepEngine number (dialAnswer network (← manager.dials[number]?))
  let call? : Option Manager := do
    let (_, number) ← manager.calls.zipIdx.find? fun (call, number) =>
      manager.callIsDue number call
    return manager.stepCall false number
  let home? : Option Manager := do
    let number ← manager.homes.findIdx? homeIsDue
    return manager.stepHome false number (homeAnswer (← manager.homes[number]?))
  let watcher? : Option Manager := do
    let number ← manager.channels.findIdx? fun managed => managed.watched && managed.isClosed
    return manager.stepWatcher number
  dial?.orElse fun _ => call?.orElse fun _ => home?.orElse fun _ => watcher?

def nextMoment? (manager : Manager) : Option Nat :=
  let dials := manager.dials.filterMap fun dial =>
    match dial.engine.stage with
    | .connecting _ deadline | .resting _ deadline => some deadline
    | _ => none
  dials.min?

def run (network : Network) (latest : Nat) (reached : Manager → Bool) (manager : Manager) :
    Nat → Manager
  | 0 => manager
  | limit + 1 =>
    if reached manager then manager
    else
      match manager.turn? network with
      | some manager => run network latest reached manager limit
      | none =>
        match manager.nextMoment? with
        | none => manager
        | some moment =>
          if latest < moment then manager
          else run network latest reached { manager with clock := moment } limit

/-- More turns than are taken between two requests. -/
def workLimit : Nat := 1000000000000

def await (manager : Manager) (network : Network) (patience : Nat) (reached : Manager → Bool) :
    Manager :=
  manager.run network (manager.clock + patience) reached workLimit

def settle (manager : Manager) (network : Network) : Manager :=
  manager.await network 0 fun _ => false

def result? (manager : Manager) (call : Nat) : Option (Except ManagerError Nat) :=
  manager.calls[call]?.bind ConnectCall.result?

def join (manager : Manager) (network : Network) (patience call : Nat) : Manager :=
  manager.await network patience fun manager => (manager.result? call).isSome

def awaitChannel (manager : Manager) (network : Network) (patience : Nat) (device : Device) :
    Manager :=
  manager.await network patience fun manager => (manager.get? device).isSome

def awaitCount (manager : Manager) (network : Network) (patience count : Nat) : Manager :=
  manager.await network patience (·.channelCount = count)

def awaitEvents (manager : Manager) (network : Network) (patience count : Nat) : Manager :=
  manager.await network patience (count ≤ ·.events.length)

end SessionMux.Manager
