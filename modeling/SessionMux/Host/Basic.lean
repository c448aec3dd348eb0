import SessionMux.Host.Job

/-!
A host: a channel together with the tasks that work for it and the connections they use. The tasks
take turns; which of those that are ready comes next is for a scheduler to say, and `Host.turn`
allows every order. What an operation leaves in the channel's signals wakes the tasks that wait for
it.
-/

namespace SessionMux

structure Reception where
  /-- The ports that have an answer of their own. -/
  rules : List (UInt16 × Admission)
  /-- Whether somebody takes the sessions for all other ports. -/
  accepting : Bool

def Reception.answer (reception : Reception) (port : UInt16) : Admission :=
  match reception.rules.lookup port with
  | some admission => admission
  | none => if reception.accepting then .ok .queue else .error (.refused port)

inductive HostTask
  /-- Works, unless `aborted` tells that it is to end at its next turn. -/
  | working (job : Job) (aborted : Bool)
  | over (outcome : Outcome)
  deriving Repr, DecidableEq

def HostTask.holdsChannel : HostTask → Bool
  | .working job _ => job.holdsChannel
  | .over _ => false

def HostTask.learn (signal : Signal) (caller : Caller) : HostTask → HostTask
  | .working job aborted => .working (job.learn caller signal) aborted
  | .over outcome => .over outcome

structure Host where
  channel : Channel
  held : Bool
  reception : Reception
  /-- The physical connection, for a channel that has one. -/
  wire : Connection
  /-- The local sides of all forwards, in the order in which they were started. -/
  clients : List Connection
  /-- Milliseconds since the beginning. -/
  clock : Nat
  /-- All tasks ever started. A task's place here is its name as a caller. -/
  tasks : List HostTask
  /-- The tasks that have to take a turn, the next one first. -/
  ready : List Caller

namespace Host

def create (config : ChannelConfig) (queueDepth : Nat) (reception : Reception) : Host where
  channel := .create config queueDepth
  held := true
  reception := reception
  wire := .fresh
  clients := []
  clock := 0
  tasks := []
  ready := []

def queueDepth : Nat := 256

def spawn (host : Host) (job : Job) : Host :=
  { host with
    tasks := host.tasks ++ [.working job false]
    ready := host.ready ++ [host.tasks.length] }

def overStream (config : ChannelConfig) (reception : Reception) : Host :=
  ((create config queueDepth reception).spawn (.writeStream .idle)).spawn (.readStream [])

def overDatagrams (config : ChannelConfig) (reception : Reception) : Host :=
  ((create config.overDatagrams queueDepth reception).spawn (.writeDatagrams .idle)).spawn
    .readDatagrams

/-- Whether the channel still exists: somebody has to hold on to it. -/
def present (host : Host) : Bool :=
  host.held || host.tasks.any HostTask.holdsChannel

/-- Makes a task take a turn, unless it is over or about to take one anyway. -/
def wake (host : Host) (caller : Caller) : Host :=
  match host.tasks[caller]? with
  | some (.working ..) =>
    if host.ready.contains caller then host else { host with ready := host.ready ++ [caller] }
  | _ => host

def wakeWhere (host : Host) (chosen : Caller → Job → Bool) : Host :=
  let callers := (List.range host.tasks.length).filter fun (caller : Caller) =>
    match host.tasks[caller]? with
    | some (.working job _) => chosen caller job
    | _ => false
  callers.foldl wake host

/-- What a signal does: tasks learn from it and are woken by it, and a reply that has to wait gets
a task of its own. -/
def heed (host : Host) (signal : Signal) : Host :=
  let host := { host with tasks := host.tasks.mapIdx (HostTask.learn signal) }
  let host := host.wakeWhere fun caller job => job.heeds caller signal
  match signal with
  | .deferred frame => host.spawn (.reply frame)
  | _ => host

/-- Replaces the channel and heeds the signals that an operation has left in it. -/
def settleChannel (host : Host) (channel : Channel) : Host :=
  channel.signals.foldl heed { host with channel := { channel with signals := [] } }

/-- What is left behind by a task that ends: nobody takes frames out of the queue when the writer
is gone, nobody takes messages to the endpoint of a forward that is gone, and a place in the queue
that is not filled is given back. -/
def leave (channel : Channel) (caller : Caller) : Job → Channel
  | .writeStream _ | .writeDatagrams _ => channel.abandonOutbox
  | .forward _ forward =>
    match forward.endpoint with
    | some endpoint => (channel.silence endpoint).giveBack caller
    | none => channel.giveBack caller
  | _ => channel.giveBack caller

def finish (host : Host) (caller : Caller) (job : Job) (outcome : Outcome) : Host :=
  { host with tasks := host.tasks.set caller (.over outcome) }.settleChannel
    (leave host.channel caller job)

end Host

end SessionMux
