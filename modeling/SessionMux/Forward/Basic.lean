import SessionMux.Channel.Request
import SessionMux.Link.Connection

/-!
Forwarding: a local byte stream is bridged to a session of its own. What the local side sends goes
out on the session, what the peer sends is written to the local side, and when either is done the
forwarding ends.
-/

namespace SessionMux

structure ForwardStats where
  session : UInt32
  /-- Bytes read from the local side and sent to the peer. -/
  bytesOut : Nat
  /-- Bytes received from the peer and written to the local side. -/
  bytesIn : Nat
  deriving Repr, DecidableEq

inductive ForwardEnd
  /-- The local side has nothing more to send. -/
  | localEof
  | peerError
  | localFault
  deriving Repr, DecidableEq

inductive ForwardStage
  | opening
  | listening
  | sending (payload : Bytes)
  /-- Writes a payload of `size` bytes to the local side, of which `rest` is left. -/
  | writing (rest : Bytes) (size : Nat)
  | reporting (fault : Fault)
  | closing (cause : ForwardEnd)
  deriving Repr, DecidableEq

structure Forward where
  port : UInt16
  stats : ForwardStats
  /-- The place of its endpoint among the channel's endpoints, once the session is open. -/
  endpoint : Option Nat
  /-- How many of the messages to its endpoint it has taken. -/
  heard : Nat
  stage : ForwardStage
  deriving Repr, DecidableEq

abbrev ForwardResult := Except ChannelError ForwardStats

namespace Forward

def create (port : UInt16) : Forward where
  port := port
  stats := { session := 0, bytesOut := 0, bytesIn := 0 }
  endpoint := none
  heard := 0
  stage := .opening

def message? (forward : Forward) (channel : Channel) : Option Message := do
  let endpoint ← channel.endpoints[← forward.endpoint]?
  endpoint.told[forward.heard]?

/-- The most bytes that one frame carries. A forward always reads at least one byte. -/
def chunkLimit (channel : Channel) : Nat :=
  max (min 16384 channel.config.maxPayload) 1

def nothingTaken : Fault := .custom .writeZero "failed to write whole buffer"

end Forward

end SessionMux
