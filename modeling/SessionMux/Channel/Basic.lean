import SessionMux.Channel.Endpoint
import SessionMux.Channel.Outbox
import SessionMux.Channel.Sessions
import SessionMux.Monitor.Event
import SessionMux.Text.Quoted

/-!
A channel: one physical connection and the sessions that share it. The state holds everything that
an operation of the channel can see or change; each operation is one function on it. What other
tasks have to learn from an operation is left in `signals`, in the order in which it came about.
-/

namespace SessionMux

inductive Signal
  | granted (caller : Caller)
  /-- A caller waits in vain: the outbound queue is gone. -/
  | refused (caller : Caller)
  | queued
  | told (endpoint : Nat)
  | acknowledged (caller : Caller)
  /-- The close that a caller waits for will not be acknowledged. -/
  | forsaken (caller : Caller)
  /-- A reply found no place in the outbound queue and has to wait for one. -/
  | deferred (frame : Frame)
  | shutdown
  deriving Repr, DecidableEq

structure Channel where
  config : ChannelConfig
  sessions : Sessions
  /-- The next session id to try; past the last one when all are used up. -/
  nextSession : Nat
  bytesIn : Nat
  bytesOut : Nat
  closed : Bool
  /-- Who waits for the acknowledgement of which session's close. -/
  pendingClose : List (UInt32 × Caller)
  outbox : Outbox
  /-- All endpoints ever created, oldest first. -/
  endpoints : List Endpoint
  changes : List Change
  signals : List Signal
  deriving Repr

/-- Whether the application takes a session that the peer opens, and with what kind of endpoint. -/
abbrev Admission := Except EndpointError EndpointKind

namespace Channel

def publish (channel : Channel) (change : Change) : Channel :=
  { channel with changes := channel.changes ++ [change] }

def signal (channel : Channel) (signal : Signal) : Channel :=
  { channel with signals := channel.signals ++ [signal] }

def create (config : ChannelConfig) (queueDepth : Nat) : Channel :=
  publish
    { config
      sessions := .empty
      nextSession := config.role.firstSession
      bytesIn := 0
      bytesOut := 0
      closed := false
      pendingClose := []
      outbox := .create queueDepth
      endpoints := []
      changes := []
      signals := [] }
    (.channelCreate config.callHome config.transport)

/-- Publishes an error of the channel that does not end it. -/
def report (channel : Channel) (code : ErrorCode) (level : Level) (message : String) : Channel :=
  channel.publish (.channelError { code, level, message })

/-- Replaces the outbound queue and signals the places that were granted meanwhile. -/
def setOutbox (channel : Channel) (outbox : Outbox) : Channel :=
  let granted := outbox.granted.filter fun caller => !channel.outbox.granted.contains caller
  { channel with outbox, signals := channel.signals ++ granted.map Signal.granted }

def tell (channel : Channel) (endpoint : Nat) (message : Message) : Channel :=
  { channel with endpoints := channel.endpoints.modify endpoint (·.tell message) }.signal
    (.told endpoint)

/-- Puts a reply into the outbound queue. A full queue defers the reply, a queue that nobody
empties drops it. -/
def enqueue (channel : Channel) (frame : Frame) : Channel :=
  if !channel.outbox.draining then channel
  else if channel.outbox.free > 0 then
    { channel with outbox := channel.outbox.push frame }.signal .queued
  else channel.signal (.deferred frame)

def removeSession (channel : Channel) (id : UInt32) : Channel :=
  match channel.sessions.find? id with
  | none => channel
  | some session =>
    { channel.tell session.endpoint .closed with sessions := channel.sessions.erase id }.publish
      (.sessionClose id)

def addSession (channel : Channel) (id : UInt32) (port : UInt16) (kind : EndpointKind)
    (inbound : Bool) : Channel :=
  { channel with
    sessions := channel.sessions.insert id (.create port channel.endpoints.length)
    endpoints := channel.endpoints ++ [Endpoint.create id port kind inbound] }

def silence (channel : Channel) (endpoint : Nat) : Channel :=
  { channel with endpoints := channel.endpoints.modify endpoint Endpoint.silence }

/-- Closes every session, by rising id, and then the channel. Nothing happens to a channel that is
closed already. -/
def close (channel : Channel) : Channel :=
  if channel.closed then channel
  else
    let ended := channel.sessions.ids.foldl removeSession { channel with closed := true }
    let forsaken := ended.pendingClose.map fun (_, caller) => Signal.forsaken caller
    ({ ended with pendingClose := [], signals := ended.signals ++ forsaken }.publish
      .channelClose).signal .shutdown

def fail (channel : Channel) (code : ErrorCode) (message : String) : Channel :=
  if channel.closed then channel else (channel.report code .critical message).close

/-- What is left after nobody takes frames out of the outbound queue any more. -/
def abandonOutbox (channel : Channel) : Channel :=
  { channel with
    outbox := channel.outbox.abandon
    signals := channel.signals ++ channel.outbox.waiting.map Signal.refused }

def describe (channel : Channel) : String :=
  let stats := "ChannelStats \x7b sessions: " ++ toString channel.sessions.size ++
    ", bytes_in: " ++ toString channel.bytesIn ++
    ", bytes_out: " ++ toString channel.bytesOut ++ " \x7d"
  "Channel \x7b device_id: " ++ Text.quote channel.config.device ++
    ", transport: " ++ channel.config.transport.describe ++
    ", call_home: " ++ toString channel.config.callHome ++
    ", stats: " ++ stats ++ " \x7d"

def takeFrame? (channel : Channel) : Option (Frame × Channel) :=
  channel.outbox.take?.map fun (frame, outbox) => (frame, channel.setOutbox outbox)

end Channel

end SessionMux
