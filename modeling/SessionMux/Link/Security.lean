import SessionMux.Fault.Basic
import SessionMux.Monitor.Transport
import SessionMux.Settings.Basic

/-!
What is put between a raw connection and a channel. Without encryption a connection is passed on as
it is, for the transports that ask for no more than that.
-/

namespace SessionMux

inductive RawConnection
  | stream
  | datagrams
  deriving Repr, DecidableEq

def RawConnection.plain : RawConnection → Transport
  | stream => .tcp
  | datagrams => .udp

def Transport.unavailable (transport : Transport) (reason : String) : Fault :=
  .custom .unsupported s!"{transport.name} transport not available: {reason}"

def RawConnection.passOn (raw : RawConnection) (transport : Transport) : Except Fault Unit :=
  if transport = raw.plain then .ok ()
  else .error (transport.unavailable "security is disabled")

def Transport.raw (transport : Transport) : RawConnection :=
  if transport.isDatagram then .datagrams else .stream

def SecuritySettings.unavailable : String :=
  "security is enabled but usc was built without the \x60tls\x60 feature"

/-- Only plain connections are there to be asked for. -/
def SecuritySettings.check (security : SecuritySettings) : Except String Unit :=
  if security.enabled then .error unavailable else .ok ()

end SessionMux
