import SessionMux.Channel.Config

/-!
Endpoints: the application's half of a session. A channel hands its endpoint the payloads and error
codes that arrive, and at last tells it that the session is over.
-/

namespace SessionMux

inductive Message
  | data (payload : Bytes)
  | error (code : ErrorCode)
  | closed
  deriving Repr, DecidableEq, Inhabited

inductive EndpointKind
  /-- Queues what it is told for the application. -/
  | queue
  /-- Queues what it is told for a forwarded connection. -/
  | forwarded
  /-- Has no room for any payload. -/
  | full
  deriving Repr, DecidableEq, Inhabited

structure Endpoint where
  session : UInt32
  port : UInt16
  kind : EndpointKind
  inbound : Bool
  listening : Bool
  told : List Message
  deriving Repr, DecidableEq, Inhabited

namespace Endpoint

def create (session : UInt32) (port : UInt16) (kind : EndpointKind) (inbound : Bool) : Endpoint :=
  { session, port, kind, inbound, listening := true, told := [] }

def refusal? (endpoint : Endpoint) (payload : Bytes) : Option EndpointError :=
  match endpoint.kind with
  | .full => some (.io (.custom .other s!"no room for {payload.length} bytes"))
  | _ => if endpoint.listening then none else some .closed

/-- Nobody takes any more what is queued. -/
def silence (endpoint : Endpoint) : Endpoint := { endpoint with listening := false }

def tell (endpoint : Endpoint) (message : Message) : Endpoint :=
  { endpoint with told := endpoint.told ++ [message] }

end Endpoint

end SessionMux
