import SessionMux.Monitor.Transport
import SessionMux.Wire.Frame

/-!
What is fixed about a channel, and how its operations fail.
-/

namespace SessionMux

/-- Our side of a physical connection: the client dialled it, the server took the call. -/
inductive Role
  | client
  | server
  deriving Repr, DecidableEq, Inhabited

namespace Role

/-- The first session that a side opens. Clients open odd sessions, servers even ones. -/
def firstSession : Role → Nat
  | client => 1
  | server => 2

def name : Role → String
  | client => "Client"
  | server => "Server"

end Role

structure ChannelConfig where
  device : String
  transport : Transport
  callHome : Bool
  role : Role
  maxPayload : Nat
  deriving Repr, DecidableEq, Inhabited

inductive ChannelError
  | unknownSession (session : UInt32)
  | closed
  | idsExhausted
  | payloadTooLarge (size max : Nat)
  /-- The peer did not acknowledge a close in time. -/
  | closeTimeout (session : UInt32)
  | transport (fault : Fault)
  deriving Repr, DecidableEq, Inhabited

def ChannelError.kind : ChannelError → String
  | unknownSession _ => "UnknownSession"
  | closed => "Closed"
  | idsExhausted => "SessionIdsExhausted"
  | payloadTooLarge .. => "PayloadTooLarge"
  | closeTimeout _ => "CloseTimeout"
  | transport _ => "Transport"

def ChannelError.message : ChannelError → String
  | unknownSession session => s!"unknown session {session}"
  | closed => "channel closed"
  | idsExhausted => "session ids exhausted"
  | payloadTooLarge size max => s!"payload size {size} exceeds limit {max}"
  | closeTimeout session => s!"close of session {session} not acknowledged"
  | transport fault => s!"transport: {fault.message}"

inductive EndpointError
  | closed
  | refused (port : UInt16)
  | io (fault : Fault)
  deriving Repr, DecidableEq, Inhabited

def EndpointError.message : EndpointError → String
  | closed => "endpoint closed"
  | refused port => s!"no endpoint accepts sessions for port {port}"
  | io fault => s!"io: {fault.message}"

end SessionMux
