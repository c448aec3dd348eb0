import SessionMux.Connect.Engine
import SessionMux.Link.Security
import SessionMux.Net.Socket

/-!
The network as far as it can be told from attempts to connect.
-/

namespace SessionMux

structure Network where
  /-- What becomes of an attempt to connect to an address. -/
  reach : SocketAddress → RawConnection → Answer Unit

namespace Network

def noRoute : Fault := .system 101

def isolated : Network := { reach := fun _ _ => .fault noRoute }

def dial (network : Network) (address : SocketAddress) (transport : Transport) : Answer Unit :=
  match network.reach address transport.raw with
  | .connection () =>
    match transport.raw.passOn transport with
    | .ok () => .connection ()
    | .error fault => .fault fault
  | answer => answer

end Network

end SessionMux
