import SessionMux.Connect.Engine
import SessionMux.Host.Request
import SessionMux.Manager.Config
import SessionMux.Net.Device

/-!
A manager of channels. It keeps one channel for each device: devices are dialled on demand, and
other devices call home. The state holds the table of channels, and everybody who is about to change
it: the calls that ask for a channel, the engines that dial for them, the devices that call home,
and for each channel a watcher that waits for its end. Each function on the state is one section of
work that nothing interrupts.
-/

namespace SessionMux

inductive ManagerError
  | connect (error : ConnectError)
  | shuttingDown
  | io (fault : Fault)
  deriving Repr, DecidableEq

def ManagerError.kind : ManagerError → String
  | connect _ => "Connect"
  | shuttingDown => "ShuttingDown"
  | io _ => "Io"

def ManagerError.message : ManagerError → String
  | connect error => s!"connect failed: {error.message}"
  | shuttingDown => "channel manager is shutting down"
  | io fault => s!"io: {fault.message}"

structure ManagedChannel where
  device : Device
  host : Host
  /-- Over what the device is dialled again when the channel drops, if it was dialled. -/
  redial : Option Transport
  watched : Bool

def ManagedChannel.isClosed (managed : ManagedChannel) : Bool := managed.host.channel.closed

structure Dial where
  address : SocketAddress
  transport : Transport
  engine : Engine Backoff Unit

inductive ConnectStage
  /-- Waits at a gate until no other call dials the device. -/
  | queued (gate : Nat)
  | dialling (gate dial : Nat)
  /-- Has its result and has let others through the gate, but still holds on to it. -/
  | leaving (gate : Nat) (result : Except ManagerError Nat)
  | over (result : Except ManagerError Nat)
  /-- The caller has gone. -/
  | dropped

def ConnectStage.gate? : ConnectStage → Option Nat
  | .queued gate | .dialling gate _ | .leaving gate _ => some gate
  | .over _ | .dropped => none

structure ConnectCall where
  address : SocketAddress
  transport : Transport
  stage : ConnectStage

def ConnectCall.device (call : ConnectCall) : Device := .dialled call.address

def ConnectCall.result? (call : ConnectCall) : Option (Except ManagerError Nat) :=
  match call.stage with
  | .over result => some result
  | _ => none

inductive ArrivalStage
  | accepted
  /-- The connection is being secured, until `deadline`. -/
  | securing (deadline : Nat)
  /-- There may be a reason why there is no channel. -/
  | over (refusal : Option ManagerError)

structure HomeCall where
  ip : IpAddress
  transport : Transport
  stage : ArrivalStage

structure Manager where
  config : ManagerConfig
  /-- What is said to the sessions that devices open. -/
  reception : Reception
  shutdown : Bool
  /-- All channels ever started. A channel's place here is its number. -/
  channels : List ManagedChannel
  /-- The channels of the devices, by number. -/
  table : List (Device × Nat)
  /-- All calls ever made. -/
  calls : List ConnectCall
  /-- All gates ever made, each with the calls that stand there in order. The first one has the
  turn. A gate's place here is its number. -/
  gates : List (List Nat)
  /-- The gates of the devices that calls dial or want to dial, by number. -/
  dialling : List (Device × Nat)
  dials : List Dial
  homes : List HomeCall
  /-- Milliseconds since the beginning. -/
  clock : Nat
  /-- All changes published so far, each with the text of the device. -/
  events : List (String × Change)

namespace Manager

def create (config : ManagerConfig) (reception : Reception) : Manager where
  config := config
  reception := reception
  shutdown := false
  channels := []
  table := []
  calls := []
  gates := []
  dialling := []
  dials := []
  homes := []
  clock := 0
  events := []

def publish (manager : Manager) (device : Device) (changes : List Change) : Manager :=
  { manager with events := manager.events ++ changes.map (device.text, ·) }

/-! ### The table -/

/-- The number of a device's channel in the table, whether it is open or not. -/
def entry? (manager : Manager) (device : Device) : Option Nat := manager.table.lookup device

def isOpen (manager : Manager) (number : Nat) : Bool :=
  manager.channels[number]?.any fun managed => !managed.isClosed

def get? (manager : Manager) (device : Device) : Option Nat :=
  (manager.entry? device).filter manager.isOpen

def devices (manager : Manager) : List Device :=
  Device.sorted ((manager.table.filter fun entry => manager.isOpen entry.2).map Prod.fst)

def channelCount (manager : Manager) : Nat :=
  manager.table.countP fun entry => manager.isOpen entry.2

def sessionCount (manager : Manager) : Nat :=
  (manager.table.map fun entry =>
    manager.channels[entry.2]?.elim 0 (·.host.channel.sessions.size)).foldl (· + ·) 0

def describe (manager : Manager) : String :=
  let backoff := manager.config.backoff
  let retries := backoff.maxRetries.elim "None" fun retries => s!"Some({retries})"
  let backoff := "BackoffConfig \x7b connect_timeout: " ++ backoff.connectTimeout.describe ++
    ", initial_backoff: " ++ backoff.initial.describe ++
    ", max_backoff: " ++ backoff.longest.describe ++ ", max_retries: " ++ retries ++ " \x7d"
  let config := "ManagerConfig \x7b max_payload: " ++ toString manager.config.maxPayload ++
    ", backoff: " ++ backoff ++
    ", reconnect_on_drop: " ++ toString manager.config.reconnectOnDrop ++ " \x7d"
  "ChannelManager \x7b channels: " ++ toString manager.table.length ++
    ", config: " ++ config ++ " \x7d"

/-! ### Channels -/

/-- Changes the host of a channel, and publishes what its channel reports. -/
def onHost (manager : Manager) (number : Nat) (change : Host → Host) : Manager :=
  match manager.channels[number]? with
  | none => manager
  | some managed =>
    let host := change managed.host
    let news := host.channel.changes.drop managed.host.channel.changes.length
    { manager with channels := manager.channels.set number { managed with host } }.publish
      managed.device news

/-- Starts a channel, and puts it into the table in the place of what is there for the device. -/
def addChannel (manager : Manager) (device : Device) (transport : Transport)
    (redial : Option Transport) : Manager :=
  let config : ChannelConfig :=
    { device := device.text
      transport
      callHome := redial.isNone
      role := if redial.isNone then .server else .client
      maxPayload := manager.config.maxPayload }
  let host :=
    if transport.isDatagram then Host.overDatagrams config manager.reception
    else Host.overStream config manager.reception
  let managed : ManagedChannel := { device, host, redial, watched := true }
  { manager with
    channels := manager.channels ++ [managed]
    table := (device, manager.channels.length) :: manager.table.filter (·.1 ≠ device) }.publish
      device host.channel.changes

/-- Closes every channel in the table and empties it. From now on no device is dialled. -/
def closeAll (manager : Manager) : Manager :=
  let close (manager : Manager) (number : Nat) : Manager := manager.onHost number (·.close.2)
  let closed : Manager :=
    (manager.table.map Prod.snd).foldl close { manager with shutdown := true }
  { closed with table := [] }

end Manager

end SessionMux
