import SessionMux.Net.Device
import SessionMux.Text.Quoted

/-!
Rules that bridge a local port to a port of a device, and the addresses of devices as they are given
on the command line.
-/

namespace SessionMux

/-- Connections to `listen` are forwarded to a port of a device. -/
structure ForwardRule where
  listen : SocketAddress
  device : String
  port : UInt16
  deriving Repr, DecidableEq

inductive ForwardRuleError
  | noTarget (text : String)
  | noPort (target : String)
  | listen (text : String) (error : AddressError)
  | port (text : String) (error : Text.NumberError)
  deriving Repr, DecidableEq

def ForwardRuleError.message : ForwardRuleError → String
  | noTarget text => s!"expected LISTEN=DEVICE/PORT, got {Text.quote text}"
  | noPort target => s!"expected DEVICE/PORT, got {Text.quote target}"
  | listen text error => s!"invalid listen address {Text.quote text}: {error.message}"
  | port text error => s!"invalid port {Text.quote text}: {error.message}"

namespace ForwardRule

def splitFirst? (separator : Char) : List Char → Option (List Char × List Char)
  | [] => none
  | c :: rest =>
    if c = separator then some ([], rest)
    else (splitFirst? separator rest).map fun (front, back) => (c :: front, back)

def splitLast? (separator : Char) (text : List Char) : Option (List Char × List Char) :=
  (splitFirst? separator text.reverse).map fun (back, front) => (front.reverse, back.reverse)

/-- Reads a rule. The first equals sign ends the address to listen on, and the last slash behind it
begins the port, so that a device may contain both. -/
def ofText (text : String) : Except ForwardRuleError ForwardRule :=
  match splitFirst? '=' text.toList with
  | none => .error (.noTarget text)
  | some (listen, target) =>
    match splitLast? '/' target with
    | none => .error (.noPort (String.ofList target))
    | some (device, port) =>
      let listen := String.ofList listen
      let port := String.ofList port
      match SocketAddress.ofText listen, Text.readUnsigned 65536 port with
      | .error error, _ => .error (.listen listen error)
      | _, .error error => .error (.port port error)
      | .ok address, .ok number =>
        .ok { listen := address, device := String.ofList device, port := UInt16.ofNat number }

def text (rule : ForwardRule) : String :=
  s!"{rule.listen.text}={rule.device}/{rule.port.toNat}"

end ForwardRule

def deviceAddress (device : String) (agentPort : UInt16) : Except String SocketAddress :=
  (SocketAddress.ofDeviceText device agentPort).mapError fun error =>
    s!"Invalid device address {Text.quote device}: {error.message}"

end SessionMux
