import SessionMux.Net.Ip

/-!
Socket addresses: an internet address and a port. The newer kind also names a flow and a scope.
-/

namespace SessionMux

inductive SocketAddress
  | v4 (address : Ipv4) (port : UInt16)
  | v6 (address : Ipv6) (port : UInt16) (flow scope : UInt32)
  deriving Repr, DecidableEq

namespace SocketAddress

def ip : SocketAddress → IpAddress
  | v4 address _ => .v4 address
  | v6 address .. => .v6 address

def port : SocketAddress → UInt16
  | v4 _ port => port
  | v6 _ port .. => port

def ofIp (ip : IpAddress) (port : UInt16) : SocketAddress :=
  match ip with
  | .v4 address => v4 address port
  | .v6 address => v6 address port 0 0

/-- The text of a socket address. It shows the scope where there is one, and never the flow. -/
def text : SocketAddress → String
  | v4 address port => s!"{address.text}:{port.toNat}"
  | v6 address port _ scope =>
    if scope = 0 then s!"[{address.text}]:{port.toNat}"
    else s!"[{address.text}%{scope.toNat}]:{port.toNat}"

end SocketAddress

end SessionMux
