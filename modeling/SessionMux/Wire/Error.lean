import SessionMux.Fault.Basic

/-!
What can be wrong with bytes on the wire, and the operation types that headers name.
-/

namespace SessionMux

inductive OpType
  | data
  | control
  | error
  deriving Repr, DecidableEq, Inhabited

namespace OpType

/-- The number in the upper half of a header's first byte. -/
def toNumber : OpType → Nat
  | data => 1
  | control => 2
  | error => 3

def name : OpType → String
  | data => "DATA"
  | control => "CONTROL"
  | error => "ERROR"

def word : OpType → String
  | data => "Data"
  | control => "Control"
  | error => "Error"

end OpType

inductive WireError
  /-- A datagram ends before the frame it announces. -/
  | incomplete
  | version (found : Nat)
  | unknownType (found : Nat)
  | reserved
  | tooLarge (size max : Nat)
  /-- A control or error frame whose payload is not one code. -/
  | codeLength (op : OpType) (length : Nat)
  /-- A datagram goes on after its frame. -/
  | malformed
  | io (fault : Fault)
  deriving Repr, DecidableEq, Inhabited

namespace WireError

def kind : WireError → String
  | incomplete => "Incomplete"
  | version _ => "Version"
  | unknownType _ => "Type"
  | reserved => "Reserved"
  | tooLarge .. => "Size"
  | codeLength .. => "CodeLength"
  | malformed => "Malformed"
  | io _ => "Io"

def message : WireError → String
  | incomplete => "incomplete frame"
  | version found => s!"version unsupported: {found}"
  | unknownType found => s!"unknown operation type {found}"
  | reserved => "reserved bits nonzero"
  | tooLarge size max => s!"payload size {size} exceeds limit {max}"
  | codeLength op length => s!"{op.name} frame carries {length} payload bytes, expected 2"
  | malformed => "malformed frame"
  | io fault => s!"io: {fault.message}"

/-- Whether the two ends no longer agree on where frames begin. -/
def isDesync : WireError → Bool
  | io _ => false
  | _ => true

def errorCode : WireError → ErrorCode
  | io fault => fault.errorCode
  | _ => .protocol

end WireError

def OpType.ofNumber (number : Nat) : Except WireError OpType :=
  match number with
  | 1 => .ok data
  | 2 => .ok control
  | 3 => .ok error
  | found => .error (.unknownType found)

end SessionMux
