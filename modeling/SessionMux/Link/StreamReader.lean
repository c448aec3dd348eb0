import SessionMux.Channel.Receive
import SessionMux.Link.Connection
import SessionMux.Turn
import SessionMux.Wire.Stream

/-!
The task that reads a channel's byte stream: it decodes frames and hands them to the channel in the
order in which they arrive. A stream that cannot be decoded, or that breaks off inside a frame,
makes the channel fail, because the place where the next frame begins is lost.
-/

namespace SessionMux

namespace StreamReader

def readLimit : Nat := 8192

inductive Act
  | passes (frame : Frame)
  | concludes (verdict : Except WireError Unit)
  | leaves
  deriving Repr

/-- The end of a stream is the end of the channel, and a failure unless it is in good order. -/
def conclude (channel : Channel) : Except WireError Unit → Channel
  | .ok () => channel.close
  | .error failure => channel.fail failure.errorCode s!"read failed: {failure.message}"

/-- `admission` answers sessions that the peer opens. -/
def perform (admission : UInt16 → Admission) (channel : Channel) : Act → Channel
  | .passes frame => channel.receive frame (admission frame.port)
  | .concludes verdict => conclude channel verdict
  | .leaves => channel

/-- What the reader goes on with: a frame from the buffer if there is one, else a read. The state is
the buffer. `eager` settles what comes first when the channel is closed
and input is at hand: the input if it is set, else the close. -/
def read (eager closed : Bool) (maxPayload : Nat) (connection : Connection) (buffer : Bytes) :
    Turn Bytes Unit × Act × Connection :=
  if closed && !eager then (.ends (), .leaves, connection)
  else
    match Frame.decodeNext buffer maxPayload with
    | .error failure => (.ends (), .concludes (.error failure), connection)
    | .ok (some (frame, rest)) => (.goes rest, .passes frame, connection)
    | .ok none =>
      match connection.read readLimit with
      | (.waits, connection) =>
        (if closed then .ends () else .waits buffer, .leaves, connection)
      | (.bytes bytes, connection) => (.goes (buffer ++ bytes), .leaves, connection)
      | (.eof, connection) => (.ends (), .concludes (Stream.finish buffer), connection)
      | (.failed fault, connection) => (.ends (), .concludes (.error (.io fault)), connection)

def step (admission : UInt16 → Admission) (eager : Bool) (channel : Channel)
    (connection : Connection) (buffer : Bytes) :
    Turn Bytes Unit × Channel × Connection :=
  (read eager channel.closed channel.config.maxPayload connection buffer).map id
    (Prod.map (perform admission channel) id)

end StreamReader

end SessionMux
