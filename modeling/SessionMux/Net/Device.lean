import SessionMux.Net.Reader

/-!
Devices: what tells one device from another. A device that is dialled is known by its address and
port, one that calls home by its address alone.
-/

namespace SessionMux

structure Device where
  ip : IpAddress
  /-- The port it is dialled at; none for a device that calls home. -/
  port : Option UInt16
  deriving Repr, DecidableEq

namespace Device

def dialled (address : SocketAddress) : Device :=
  { ip := address.ip, port := some address.port }

def callingHome (ip : IpAddress) : Device := { ip, port := none }

def text (device : Device) : String :=
  match device.port with
  | some port => (SocketAddress.ofIp device.ip port).text
  | none => device.ip.text

/-- Reads a device: a socket address is one that is dialled, an internet address one that calls
home. -/
def ofText (text : String) : Except AddressError Device :=
  match SocketAddress.ofText text with
  | .ok address => .ok (dialled address)
  | .error _ => (IpAddress.ofText text).map callingHome

/-- The numbers that order devices: by address, then those that call home, then by port. -/
def order (device : Device) : List Nat × Nat :=
  (device.ip.order, device.port.elim 0 (·.toNat + 1))

def isLe (device other : Device) : Bool :=
  device.order.1 < other.order.1 ||
    (device.order.1 == other.order.1 && device.order.2 ≤ other.order.2)

def sorted (devices : List Device) : List Device := (devices.mergeSort isLe).eraseDups

end Device

/-- Reads the address at which to dial a device; where it names no port, the port of the agent. -/
def SocketAddress.ofDeviceText (text : String) (agentPort : UInt16) :
    Except AddressError SocketAddress :=
  match SocketAddress.ofText text with
  | .ok address => .ok address
  | .error _ => (IpAddress.ofText text).map (SocketAddress.ofIp · agentPort)

end SessionMux
