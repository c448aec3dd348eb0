import SessionMux.Link.StreamReader

/-!
The two tasks that serve a channel over a datagram transport, where each datagram carries one frame.
A datagram that cannot be decoded is reported and dropped; the ones after it are not affected.
-/

namespace SessionMux

def maxDatagram : Nat := 65535

def maxDatagramPayload : Nat := maxDatagram - Header.byteCount

/-- What is fixed about a channel over datagrams: no payload may be longer than a datagram holds. -/
def ChannelConfig.overDatagrams (config : ChannelConfig) : ChannelConfig :=
  { config with maxPayload := min config.maxPayload maxDatagramPayload }

namespace DatagramReader

def receive (admission : UInt16 → Admission) (channel : Channel) (datagram : Bytes) : Channel :=
  let datagram := datagram.take maxDatagram
  match Frame.decodeDatagram datagram channel.config.maxPayload with
  | .ok frame => channel.receive frame (admission frame.port)
  | .error failure =>
    channel.report .protocol .warning
      s!"dropped undecodable datagram of {datagram.length} bytes: {failure.message}"

/-- One section of the reader's work. `eager` settles what comes first when the channel is closed
and a datagram is at hand: the datagram if it is set, else the close. -/
def step (admission : UInt16 → Admission) (eager : Bool) (channel : Channel)
    (connection : Connection) : Turn Unit Unit × Channel × Connection :=
  if channel.closed && !eager then (.ends (), channel, connection)
  else
    match connection.receive with
    | (.bytes datagram, connection) =>
      (.goes (), receive admission channel datagram, connection)
    | (.failed fault, connection) =>
      (.ends (), channel.fail fault.errorCode s!"receive failed: {fault.message}", connection)
    | (_, connection) =>
      if channel.closed then (.ends (), channel, connection)
      else (.waits (), channel, connection)

end DatagramReader

inductive DatagramWriter
  | idle
  /-- Has a frame that is not encoded yet. -/
  | holding (frame : Frame)
  /-- Has a datagram that was not sent yet. -/
  | sending (datagram : Bytes)
  deriving Repr, DecidableEq

namespace DatagramWriter

def step (channel : Channel) (connection : Connection) :
    DatagramWriter → Turn DatagramWriter Unit × Channel × Connection
  | idle =>
    if channel.closed then (.ends (), channel, connection)
    else
      match channel.takeFrame? with
      | none => (.waits idle, channel, connection)
      | some (frame, channel) => (.goes (holding frame), channel, connection)
  | holding frame =>
    match frame.encode with
    | .error failure =>
      (.ends (), channel.fail failure.errorCode s!"encode failed: {failure.message}", connection)
    | .ok datagram => (.goes (sending datagram), channel, connection)
  | sending datagram =>
    match connection.send datagram with
    | (.waits, connection) => (.waits (sending datagram), channel, connection)
    | (.took _, connection) => (.goes idle, channel, connection)
    | (.failed fault, connection) =>
      (.ends (), channel.fail fault.errorCode s!"send failed: {fault.message}", connection)

end DatagramWriter

end SessionMux
