/-!
The physical transports of channels.
-/

namespace SessionMux

inductive Transport
  | tcp
  | udp
  | tls
  | dtls
  deriving Repr, DecidableEq, Inhabited

namespace Transport

def all : List Transport := [tcp, udp, tls, dtls]

/-- Whether frames travel in datagrams, one in each, and not on a byte stream. -/
def isDatagram : Transport → Bool
  | udp | dtls => true
  | tcp | tls => false

def isSecure : Transport → Bool
  | tls | dtls => true
  | tcp | udp => false

def name : Transport → String
  | tcp => "TCP"
  | udp => "UDP"
  | tls => "TLS"
  | dtls => "DTLS"

def describe : Transport → String
  | tcp => "Tcp"
  | udp => "Udp"
  | tls => "Tls"
  | dtls => "Dtls"

/-- Reads a name in any mixture of upper and lower case; the message of a failure shows the text
in lower case. -/
def ofText (text : String) : Except String Transport :=
  match all.find? (·.name = text.map Char.toUpper) with
  | some transport => .ok transport
  | none => .error s!"unknown transport type: {text.map Char.toLower}"

end Transport

end SessionMux
