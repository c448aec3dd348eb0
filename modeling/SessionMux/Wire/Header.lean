import SessionMux.Bytes
import SessionMux.Wire.Error

/-!
The twelve bytes in front of every payload: operation type and version in one byte, a reserved
byte, the port, the session and the payload length, each number in network order.
-/

namespace SessionMux

structure Header where
  /-- Only the lower four bits are written. -/
  version : UInt8
  op : OpType
  port : UInt16
  session : UInt32
  payloadLength : UInt32
  deriving Repr, DecidableEq, Inhabited

namespace Header

def byteCount : Nat := 12

def currentVersion : UInt8 := 1

/-- The first byte: operation type above, version below. -/
def leadByte (header : Header) : UInt8 :=
  UInt8.ofNat (header.op.toNumber * 16 + header.version.toNat % 16)

def encode (header : Header) : Bytes :=
  header.leadByte :: 0 :: (Bytes.ofUInt16 header.port ++ Bytes.ofUInt32 header.session ++
    Bytes.ofUInt32 header.payloadLength)

/-- Reads a header off the front; `none` while there are too few bytes to tell. The first fault
in the order of the fields is the one reported. -/
def peek (bytes : Bytes) : Except WireError (Option Header) :=
  match bytes with
  | lead :: reserved :: p₀ :: p₁ :: s₀ :: s₁ :: s₂ :: s₃ :: l₀ :: l₁ :: l₂ :: l₃ :: _ =>
    if lead.toNat % 16 ≠ currentVersion.toNat then
      .error (.version (lead.toNat % 16))
    else
      match OpType.ofNumber (lead.toNat / 16) with
      | .error failure => .error failure
      | .ok op =>
        if reserved ≠ 0 then
          .error .reserved
        else
          .ok (some
            { version := currentVersion
              op
              port := Bytes.toUInt16 p₀ p₁
              session := Bytes.toUInt32 s₀ s₁ s₂ s₃
              payloadLength := Bytes.toUInt32 l₀ l₁ l₂ l₃ })
  | _ => .ok none

def checkedLength (header : Header) (max : Nat) : Except WireError Nat :=
  let length := header.payloadLength.toNat
  if length > max then
    .error (.tooLarge length max)
  else if header.op ≠ .data ∧ length ≠ 2 then
    .error (.codeLength header.op length)
  else
    .ok length

@[simp]
theorem length_encode (header : Header) : header.encode.length = byteCount := by
  simp [encode, byteCount]

end Header

end SessionMux
