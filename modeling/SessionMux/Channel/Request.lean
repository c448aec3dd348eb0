import SessionMux.Channel.Basic

/-!
What the application asks of a channel. Each of these operations is carried out by a caller who has
been granted a place in the outbound queue; one that fails gives the place back.
-/

namespace SessionMux.Channel

def sessionBound : Nat := 4294967296

def reserve (channel : Channel) (caller : Caller) : Outbox.Reservation × Channel :=
  let (reservation, outbox) := channel.outbox.reserve caller
  (reservation, { channel with outbox })

def fill (channel : Channel) (caller : Caller) (frame : Frame) : Channel :=
  { channel with outbox := channel.outbox.fill caller frame }.signal .queued

def giveBack (channel : Channel) (caller : Caller) : Channel :=
  channel.setOutbox (channel.outbox.release caller)

def oversize? (channel : Channel) (payload : Bytes) : Option ChannelError :=
  if payload.length > channel.config.maxPayload then
    some (.payloadTooLarge payload.length channel.config.maxPayload)
  else none

def send (channel : Channel) (caller : Caller) (id : UInt32) (payload : Bytes) :
    Except ChannelError Unit × Channel :=
  if channel.closed then (.error .closed, channel.giveBack caller)
  else
    match channel.sessions.find? id with
    | none => (.error (.unknownSession id), channel.giveBack caller)
    | some session =>
      let counted := { session with bytesOut := session.bytesOut + payload.length }
      let channel :=
        { channel with
          sessions := channel.sessions.insert id counted
          bytesOut := channel.bytesOut + payload.length }
      let frame : Frame := { port := session.port, session := id, body := .data payload }
      (.ok (), (channel.fill caller frame).publish (.sessionTransaction id 0 payload.length))

/-- The first id from `next` on, in steps of two, that is not live; `none` when there is none left.
Of `fuel` ids in a row at most `fuel` are live, so one try more than there are sessions finds it. -/
def firstFree? (sessions : Sessions) (fuel next : Nat) : Option UInt32 :=
  if next < sessionBound then
    if sessions.contains (UInt32.ofNat next) then
      match fuel with
      | 0 => none
      | fuel + 1 => firstFree? sessions fuel (next + 2)
    else
      some (UInt32.ofNat next)
  else
    none

/-- Where the search for an id goes on next time: behind the id found, or past the last id. -/
def nextAfter (channel : Channel) : Option UInt32 → Nat
  | some id => id.toNat + 2
  | none => max channel.nextSession (sessionBound + (channel.nextSession % 2))

def openSession (channel : Channel) (caller : Caller) (port : UInt16) (kind : EndpointKind) :
    Except ChannelError UInt32 × Channel :=
  if channel.closed then (.error .closed, channel.giveBack caller)
  else
    let found := firstFree? channel.sessions channel.sessions.size channel.nextSession
    let channel := { channel with nextSession := channel.nextAfter found }
    match found with
    | none => (.error .idsExhausted, channel.giveBack caller)
    | some id =>
      let frame : Frame := { port, session := id, body := .control .sessionOpen }
      let opened := (channel.addSession id port kind false).fill caller frame
      (.ok id, opened.publish (.sessionCreate id port))

/-- Closes a session and tells the peer. A caller who waits for the acknowledgement takes the place
of anyone who waits for one of the same session. -/
def closeSession (channel : Channel) (caller : Caller) (id : UInt32) (waits : Bool) :
    Except ChannelError Unit × Channel :=
  if channel.closed then (.error .closed, channel.giveBack caller)
  else
    match channel.sessions.find? id with
    | none => (.error (.unknownSession id), channel.giveBack caller)
    | some session =>
      let channel := channel.removeSession id
      let channel :=
        if waits then
          let replaced := channel.pendingClose.filter (·.1 = id)
          { channel with
            pendingClose := (id, caller) :: channel.pendingClose.filter (·.1 ≠ id)
            signals := channel.signals ++ replaced.map fun (_, other) => Signal.forsaken other }
        else channel
      (.ok (), channel.fill caller
        { port := session.port, session := id, body := .control .sessionClose })

def stopWaiting (channel : Channel) (caller : Caller) (id : UInt32) : Channel :=
  let others := channel.pendingClose.filter fun (other, waiter) => other = id && waiter ≠ caller
  { channel with
    pendingClose := channel.pendingClose.filter (·.1 ≠ id)
    signals := channel.signals ++ others.map fun (_, other) => Signal.forsaken other }

def sendError (channel : Channel) (caller : Caller) (id : UInt32) (code : ErrorCode) :
    Except ChannelError Unit × Channel :=
  if channel.closed then (.error .closed, channel.giveBack caller)
  else
    match channel.sessions.find? id with
    | none => (.error (.unknownSession id), channel.giveBack caller)
    | some session =>
      let frame : Frame := { port := session.port, session := id, body := .error code }
      (.ok (), (channel.fill caller frame).publish (.sessionError id
        { code, level := .warning, message := s!"local endpoint reported {code.text}" }))

end SessionMux.Channel
