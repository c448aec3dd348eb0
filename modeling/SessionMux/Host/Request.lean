import SessionMux.Host.Turn

/-!
What is asked of a host from outside its tasks: requests of the application, frames and bytes that
come in, and the passing of time. None of this lets a task take a turn; `Host.settle` does.
-/

namespace SessionMux.Host

/-! ### Tasks -/

/-- Starts a call. One that is made through a handle finds out in its first turn whether the channel
still exists. -/
def startCall (host : Host) (request : Request) (byHandle : Bool) : Host :=
  host.spawn (.call request (if byHandle then .arriving else .asking))

def startForward (host : Host) (port : UInt16) : Host :=
  { host with clients := host.clients ++ [Connection.fresh] }.spawn
    (.forward host.clients.length (.create port))

def startAwaitClose (host : Host) : Host := host.spawn .awaitClose

/-- Makes a task end at its next turn. -/
def abort (host : Host) (caller : Caller) : Host :=
  let mark : HostTask → HostTask
    | .working job _ => .working job true
    | .over outcome => .over outcome
  { host with tasks := host.tasks.modify caller mark }.wake caller

def outcome? (host : Host) (caller : Caller) : Option Outcome :=
  match host.tasks[caller]? with
  | some (.over outcome) => some outcome
  | _ => none

/-! ### The channel -/

def handle? (host : Host) (session : UInt32) : Option Endpoint :=
  host.channel.endpoints.reverse.find? fun endpoint =>
    endpoint.session == session && endpoint.kind != .forwarded &&
      (!endpoint.inbound || endpoint.kind == .queue)

/-- What a handle shows of its session: the live session that has its id, as long as the channel
exists. -/
def shown? (host : Host) (session : UInt32) : Option Session :=
  if host.present then host.channel.sessions.find? session else none

def deliver (host : Host) (frame : Frame) : Host :=
  host.settleChannel (host.channel.receive frame (host.reception.answer frame.port))

def close (host : Host) : Bool × Host :=
  (!host.channel.closed, host.settleChannel host.channel.close)

def fail (host : Host) (code : ErrorCode) (message : String) : Host :=
  host.settleChannel (host.channel.fail code message)

def letGo (host : Host) : Host := { host with held := false }

def abandonOutbox (host : Host) : Host := host.settleChannel host.channel.abandonOutbox

def stopAccepting (host : Host) : Host :=
  { host with reception := { host.reception with accepting := false } }

def silence (host : Host) (session : UInt32) : Host :=
  let silenced (endpoint : Endpoint) : Endpoint :=
    if endpoint.session = session ∧ endpoint.kind = .queue then endpoint.silence else endpoint
  { host with
    channel := { host.channel with endpoints := host.channel.endpoints.map silenced } }

def takeFrames (host : Host) : Nat → List Frame × Host
  | 0 => ([], host)
  | limit + 1 =>
    match host.channel.takeFrame? with
    | none => ([], host)
    | some (frame, channel) =>
      let (frames, host) := takeFrames (host.settleChannel channel) limit
      (frame :: frames, host)

/-- Lets the tasks take turns and takes every frame out of the outbound queue, until nothing is left
to do. -/
def drain (host : Host) : Nat → List Frame × Host
  | 0 => ([], host.settle)
  | limit + 1 =>
    let settled := host.settle
    match settled.takeFrames settled.channel.outbox.frames.length with
    | ([], host) => ([], host)
    | (frames, host) =>
      let (later, host) := drain host limit
      (frames ++ later, host)

/-! ### Connections and time -/

inductive Line
  | wire
  /-- The local side of a forward, by its number. -/
  | client (number : Nat)
  deriving Repr, DecidableEq

def Line.isUsedBy (line : Line) (job : Job) : Bool :=
  match line, job with
  | .wire, job => job.isReader || job.isWriter
  | .client number, .forward used _ => used == number
  | .client _, _ => false

/-- Changes a connection and wakes the tasks that use it. -/
def onLine (host : Host) (line : Line) (change : Connection → Connection) : Host :=
  let host :=
    match line with
    | .wire => { host with wire := change host.wire }
    | .client number => { host with clients := host.clients.modify number change }
  host.wakeWhere fun _ job => line.isUsedBy job

def advance (host : Host) (milliseconds : Nat) : Host :=
  let host := { host with clock := host.clock + milliseconds }
  host.wakeWhere fun _ job => job.isDue host.clock

end SessionMux.Host
