import SessionMux.Manager.Basic

/-!
Calls for the channel to an address. A device that has an open channel is not dialled; otherwise the
calls for it take turns at a gate, and whoever has the turn looks again before it dials. When an
engine has come to its result at the time the manager shuts down, either may be seen first.

The first call for a device makes the gate, and the calls that come while it is known share it. It
is forgotten by the last one that holds on to it; where callers go midway, this may be nobody.
-/

namespace SessionMux.Manager

def setCall (manager : Manager) (number : Nat) (stage : ConnectStage) : Manager :=
  { manager with calls := manager.calls.modify number ({ · with stage }) }

/-! ### Gates -/

def stepAside (manager : Manager) (number gate : Nat) (stage : ConnectStage) : Manager :=
  { manager.setCall number stage with
    gates := manager.gates.modify gate (·.filter (· ≠ number)) }

/-- How many hold on to a gate: the calls, and the manager for each device whose gate it is. -/
def holders (manager : Manager) (gate : Nat) : Nat :=
  manager.dialling.countP (·.2 = gate) + manager.calls.countP (·.stage.gate? = some gate)

/-- Ends a call. The manager forgets the gate that nobody else holds on to. -/
def leaveGate (manager : Manager) (number gate : Nat) (call : ConnectCall)
    (result : Except ManagerError Nat) : Manager :=
  { manager.setCall number (.over result) with
    dialling :=
      if manager.holders gate = 2 then manager.dialling.filter (· ≠ (call.device, gate))
      else manager.dialling }

def hasTurn (manager : Manager) (number gate : Nat) : Bool :=
  manager.gates[gate]?.bind List.head? = some number

def addCall (manager : Manager) (call : ConnectCall) : Manager :=
  { manager with calls := manager.calls ++ [call] }

def enqueue (manager : Manager) (address : SocketAddress) (transport : Transport) : Manager :=
  let device := Device.dialled address
  let number := manager.calls.length
  match manager.dialling.lookup device with
  | some gate =>
    { manager.addCall { address, transport, stage := .queued gate } with
      gates := manager.gates.modify gate (· ++ [number]) }
  | none =>
    let gate := manager.gates.length
    { manager.addCall { address, transport, stage := .queued gate } with
      gates := manager.gates ++ [[number]]
      dialling := (device, gate) :: manager.dialling }

/-- Makes a call. It ends at once when the device has an open channel. -/
def connect (manager : Manager) (address : SocketAddress) (transport : Transport) : Manager :=
  match manager.get? (.dialled address) with
  | some channel => manager.addCall { address, transport, stage := .over (.ok channel) }
  | none => manager.enqueue address transport

/-! ### Engines -/

def onEngine (manager : Manager) (number : Nat)
    (change : Engine Backoff Unit → Engine Backoff Unit) : Manager :=
  match manager.dials[number]? with
  | none => manager
  | some dial =>
    let engine := change dial.engine
    let news := engine.reports.drop dial.engine.reports.length
    { manager with dials := manager.dials.set number { dial with engine } }.publish
      (.dialled dial.address) (news.map Change.channelError)

def stepEngine (manager : Manager) (number : Nat) (answer : Answer Unit) : Manager :=
  manager.onEngine number fun engine => (engine.step manager.clock answer).1

def startedEngine (config : BackoffConfig) : Engine Backoff Unit :=
  let engine := Engine.create .backoff (.create config)
  match engine.start with
  | .ok started => started.await
  | .error _ => engine

def dial (manager : Manager) (number gate : Nat) (call : ConnectCall) : Manager :=
  { manager.setCall number (.dialling gate manager.dials.length) with
    dials := manager.dials ++
      [{ address := call.address
         transport := call.transport
         engine := startedEngine manager.config.backoff }] }

/-! ### Turns of a call -/

def stepQueued (manager : Manager) (number gate : Nat) (call : ConnectCall) : Manager :=
  if !manager.hasTurn number gate then manager
  else
    match manager.get? call.device with
    | some channel => manager.stepAside number gate (.leaving gate (.ok channel))
    | none =>
      if manager.shutdown then
        manager.stepAside number gate (.leaving gate (.error .shuttingDown))
      else manager.dial number gate call

def takeResult? (manager : Manager) (number gate : Nat) (call : ConnectCall) (dial : Nat) :
    Option Manager := do
  let (result, engine) ← (← manager.dials[dial]?).engine.take?
  let manager := manager.onEngine dial fun _ => engine
  match result with
  | .error error =>
    return manager.stepAside number gate (.leaving gate (.error (.connect error)))
  | .ok () =>
    let channel := manager.channels.length
    return (manager.addChannel call.device call.transport (some call.transport)).stepAside number
      gate (.leaving gate (.ok channel))

def giveUp? (manager : Manager) (number gate dial : Nat) : Option Manager :=
  if manager.shutdown then
    some ((manager.onEngine dial Engine.abandonWait).stepAside number gate
      (.leaving gate (.error .shuttingDown)))
  else none

/-- The turn of a call. `eager` settles what is seen first where both could be: the result of the
engine if it is set, else that the manager has shut down. -/
def stepCall (manager : Manager) (eager : Bool) (number : Nat) : Manager :=
  match manager.calls[number]? with
  | none => manager
  | some call =>
    match call.stage with
    | .queued gate => manager.stepQueued number gate call
    | .dialling gate dial =>
      let result := manager.takeResult? number gate call dial
      let surrender := manager.giveUp? number gate dial
      ((if eager then result.or surrender else surrender.or result)).getD manager
    | .leaving gate result => manager.leaveGate number gate call result
    | .over _ | .dropped => manager

/-- The caller goes. An engine that dials for the call is cancelled. The gate is let go of and not
forgotten, whoever else holds on to it. A call that is leaving has come to its end already. -/
def dropCall (manager : Manager) (number : Nat) : Manager :=
  match manager.calls[number]? with
  | none => manager
  | some call =>
    match call.stage with
    | .queued gate => manager.stepAside number gate .dropped
    | .dialling gate dial =>
      (manager.onEngine dial Engine.abandonWait).stepAside number gate .dropped
    | .leaving .. | .over _ | .dropped => manager

end SessionMux.Manager
