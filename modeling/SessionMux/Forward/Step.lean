import SessionMux.Forward.Basic
import SessionMux.Turn

/-!
The work of a forward, section by section.
-/

namespace SessionMux.Forward

/-- What a section of the work leaves behind: how the forward goes on, the channel and the local
side. -/
abbrev After := Turn Forward ForwardResult × Channel × Connection

def opened (forward : Forward) (channel : Channel) (caller : Caller) (client : Connection) :
    After :=
  match channel.reserve caller with
  | (.refused, channel) => (.ends (.error .closed), channel, client)
  | (.waiting, channel) => (.waits forward, channel, client)
  | (.granted, channel) =>
    match channel.openSession caller forward.port .forwarded with
    | (.error error, channel) => (.ends (.error error), channel, client)
    | (.ok id, channel) =>
      let endpoint := channel.sessions.find? id |>.map (·.endpoint)
      let stats := { forward.stats with session := id }
      (.goes { forward with stats, endpoint, stage := .listening }, channel, client)

def hear (forward : Forward) (channel : Channel) (client : Connection) : Message → After
  | .data payload =>
    let stage := .writing payload payload.length
    (.goes { forward with heard := forward.heard + 1, stage }, channel, client)
  | .error _ =>
    (.goes { forward with heard := forward.heard + 1, stage := .closing .peerError }, channel,
      client)
  | .closed => (.ends (.ok forward.stats), channel, client.shutdown.2)

/-- Takes what has come in, from the local side or from the peer. `eager` settles which of the two
comes first when both have something: the local side if it is set. -/
def listen (forward : Forward) (eager : Bool) (channel : Channel) (client : Connection) : After :=
  let heard := (forward.message? channel).map (forward.hear channel client)
  let read : Option After :=
    match client.read (chunkLimit channel) with
    | (.waits, _) => none
    | (.bytes payload, client) =>
      some (.goes { forward with stage := .sending payload }, channel, client)
    | (.eof, client) =>
      some (.goes { forward with stage := .closing .localEof }, channel, client)
    | (.failed fault, client) =>
      some (.goes { forward with stage := .reporting fault }, channel, client)
  let first := if eager then read.or heard else heard.or read
  first.getD (.waits forward, channel, client)

/-- Sends a payload. A session that the peer has closed meanwhile takes nothing, and the forward
listens on, because the message of the close is on its way. -/
def transmit (forward : Forward) (channel : Channel) (caller : Caller) (client : Connection)
    (payload : Bytes) : After :=
  match channel.oversize? payload with
  | some error => (.ends (.error error), channel, client)
  | none =>
    match channel.reserve caller with
    | (.refused, channel) => (.ends (.error .closed), channel, client)
    | (.waiting, channel) => (.waits forward, channel, client)
    | (.granted, channel) =>
      match channel.send caller forward.stats.session payload with
      | (.ok (), channel) =>
        let stats := { forward.stats with bytesOut := forward.stats.bytesOut + payload.length }
        (.goes { forward with stats, stage := .listening }, channel, client)
      | (.error (.unknownSession _), channel) =>
        (.goes { forward with stage := .listening }, channel, client)
      | (.error error, channel) => (.ends (.error error), channel, client)

def deliver (forward : Forward) (channel : Channel) (client : Connection) (rest : Bytes)
    (size : Nat) : After :=
  if rest.isEmpty then
    let stats := { forward.stats with bytesIn := forward.stats.bytesIn + size }
    (.goes { forward with stats, stage := .listening }, channel, client)
  else
    match client.write rest with
    | (.waits, client) => (.waits forward, channel, client)
    | (.failed fault, client) =>
      (.goes { forward with stage := .reporting fault }, channel, client)
    | (.took 0, client) =>
      (.goes { forward with stage := .reporting nothingTaken }, channel, client)
    | (.took count, client) =>
      (.goes { forward with stage := .writing (rest.drop count) size }, channel, client)

def complain (forward : Forward) (channel : Channel) (caller : Caller) (client : Connection)
    (fault : Fault) : After :=
  let next := { forward with stage := .closing .localFault }
  match channel.reserve caller with
  | (.refused, channel) => (.goes next, channel, client)
  | (.waiting, channel) => (.waits forward, channel, client)
  | (.granted, channel) =>
    (.goes next, (channel.sendError caller forward.stats.session fault.errorCode).2, client)

/-- Ends the forward after its session was closed or could not be closed. Only a forward whose local
side came to its end cares that the session was closed, or was gone already. -/
def finish (forward : Forward) (channel : Channel) (client : Connection) (cause : ForwardEnd)
    (closed : Except ChannelError Unit) : After :=
  match cause, closed with
  | .localEof, .ok () | .localEof, .error (.unknownSession _) | .peerError, _ =>
    (.ends (.ok forward.stats), channel, client.shutdown.2)
  | .localEof, .error error => (.ends (.error error), channel, client)
  | .localFault, _ => (.ends (.ok forward.stats), channel, client)

def close (forward : Forward) (channel : Channel) (caller : Caller) (client : Connection)
    (cause : ForwardEnd) : After :=
  match channel.reserve caller with
  | (.refused, channel) => forward.finish channel client cause (.error .closed)
  | (.waiting, channel) => (.waits forward, channel, client)
  | (.granted, channel) =>
    let (closed, channel) := channel.closeSession caller forward.stats.session false
    forward.finish channel client cause closed

def step (forward : Forward) (eager : Bool) (channel : Channel) (caller : Caller)
    (client : Connection) : After :=
  match forward.stage with
  | .opening => forward.opened channel caller client
  | .listening => forward.listen eager channel client
  | .sending payload => forward.transmit channel caller client payload
  | .writing rest size => forward.deliver channel client rest size
  | .reporting fault => forward.complain channel caller client fault
  | .closing cause => forward.close channel caller client cause

end SessionMux.Forward
