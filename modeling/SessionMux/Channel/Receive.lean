import SessionMux.Channel.Basic

/-!
What a channel does with a frame from its peer.
-/

namespace SessionMux.Channel

/-- A payload goes to the endpoint of its session. A session whose endpoint does not take it is
ended, and the peer is told. -/
def receiveData (channel : Channel) (port : UInt16) (id : UInt32) (payload : Bytes) : Channel :=
  match channel.sessions.find? id with
  | none =>
    channel.report .notConnected .warning s!"DATA for unknown session {id} (port {port}) dropped"
  | some session =>
    let refusal := channel.endpoints[session.endpoint]?.bind (·.refusal? payload)
    let counted := { session with bytesIn := session.bytesIn + payload.length }
    let channel := channel.tell session.endpoint (.data payload)
    let channel :=
      { channel with
        sessions := channel.sessions.insert id counted
        bytesIn := channel.bytesIn + payload.length }.publish
        (.sessionTransaction id payload.length 0)
    match refusal with
    | none => channel
    | some error =>
      let channel := channel.publish (.sessionError id
        { code := .connReset, level := .warning
          message := s!"local endpoint failed: {error.message}" })
      (channel.removeSession id).enqueue
        { port := session.port, session := id, body := .control .sessionClose }

/-- The peer opens a session. To open it again on the same port changes nothing. -/
def receiveOpen (channel : Channel) (port : UInt16) (id : UInt32) (admission : Admission) :
    Channel :=
  match channel.sessions.find? id with
  | some session =>
    if session.port = port then channel
    else
      channel.report .isConnected .warning
        s!"open for session {id} on port {port} conflicts with port {session.port}"
  | none =>
    match admission with
    | .ok kind => (channel.addSession id port kind true).publish (.sessionCreate id port)
    | .error error =>
      (channel.enqueue { port, session := id, body := .error .connRefused }).report .connRefused
        .warning s!"refused session {id} for port {port}: {error.message}"

/-- The peer closes a session. Every close is acknowledged, also that of an unknown session. -/
def receiveClose (channel : Channel) (port : UInt16) (id : UInt32) : Channel :=
  (channel.removeSession id).enqueue { port, session := id, body := .control .sessionCloseAck }

def receiveCloseAck (channel : Channel) (id : UInt32) : Channel :=
  match channel.pendingClose.lookup id with
  | none => channel
  | some caller =>
    { channel with pendingClose := channel.pendingClose.filter (·.1 ≠ id) }.signal
      (.acknowledged caller)

def receiveControl (channel : Channel) (port : UInt16) (id : UInt32) (code : ControlCode)
    (admission : Admission) : Channel :=
  match code with
  | .sessionOpen => channel.receiveOpen port id admission
  | .sessionClose => channel.receiveClose port id
  | .sessionCloseAck => channel.receiveCloseAck id
  | .other number =>
    channel.report .protocol .warning s!"unknown control code {number} for session {id}"

/-- The peer reports an error: the endpoint of a live session is told, and the session lives on. -/
def receiveError (channel : Channel) (id : UInt32) (code : ErrorCode) : Channel :=
  match channel.sessions.find? id with
  | some session =>
    (channel.tell session.endpoint (.error code)).publish (.sessionError id
      { code, level := .error, message := s!"peer reported {code.text}" })
  | none => channel.report code .error s!"peer reported {code.text} for session {id}"

/-- Routes a frame from the peer. `admission` is what the application says to a session that the
frame opens. A closed channel drops frames. -/
def receive (channel : Channel) (frame : Frame) (admission : Admission) : Channel :=
  if channel.closed then channel
  else
    match frame.body with
    | .data payload => channel.receiveData frame.port frame.session payload
    | .control code => channel.receiveControl frame.port frame.session code admission
    | .error code => channel.receiveError frame.session code

end SessionMux.Channel
