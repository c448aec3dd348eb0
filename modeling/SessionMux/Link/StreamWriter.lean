import SessionMux.Link.StreamReader

/-!
The task that writes a channel's byte stream: it takes frames from the outbound queue and writes
them one after the other, until the channel is closed; then it shuts the stream down.
-/

namespace SessionMux

inductive StreamWriter
  | idle
  /-- Has a frame that is not encoded yet. -/
  | holding (frame : Frame)
  /-- Has bytes that the stream did not take yet, or waits for the stream to pass them on. -/
  | flushing (pending : Bytes)
  /-- Flushes what is left, and then shuts the stream down. -/
  | closing (pending : Bytes)
  deriving Repr, DecidableEq

namespace StreamWriter

def nothingTaken : Fault := .custom .writeZero "failed to write frame to transport"

def failWith (channel : Channel) (failure : WireError) : Channel :=
  channel.fail failure.errorCode s!"write failed: {failure.message}"

def step (channel : Channel) (connection : Connection) :
    StreamWriter → Turn StreamWriter Unit × Channel × Connection
  | idle =>
    if channel.closed then (.goes (closing []), channel, connection)
    else
      match channel.takeFrame? with
      | none => (.waits idle, channel, connection)
      | some (frame, channel) => (.goes (holding frame), channel, connection)
  | holding frame =>
    if channel.closed then (.goes (closing []), channel, connection)
    else
      match Stream.append channel.config.maxPayload frame [] with
      | .error failure => (.goes (closing []), failWith channel failure, connection)
      | .ok pending => (.goes (flushing pending), channel, connection)
  | flushing pending =>
    if channel.closed then (.goes (closing pending), channel, connection)
    else if pending.isEmpty then
      if connection.lingers then (.waits (flushing pending), channel, connection)
      else (.goes idle, channel, connection)
    else
      match connection.write pending with
      | (.waits, connection) => (.waits (flushing pending), channel, connection)
      | (.failed fault, connection) =>
        (.goes (closing pending), failWith channel (.io fault), connection)
      | (.took 0, connection) =>
        (.goes (closing pending), failWith channel (.io nothingTaken), connection)
      | (.took count, connection) =>
        (.goes (flushing (pending.drop count)), channel, connection)
  | closing pending =>
    if pending.isEmpty then
      match connection.close? with
      | none => (.waits (closing pending), channel, connection)
      | some (_, connection) => (.ends (), channel, connection)
    else
      match connection.write pending with
      | (.waits, connection) => (.waits (closing pending), channel, connection)
      | (.failed _, connection) | (.took 0, connection) => (.ends (), channel, connection)
      | (.took count, connection) => (.goes (closing (pending.drop count)), channel, connection)

end StreamWriter

end SessionMux
