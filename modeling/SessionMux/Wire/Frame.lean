import SessionMux.Wire.ControlCode
import SessionMux.Wire.Header

/-!
Frames: a header and its payload. A stream carries frames back to back; a datagram carries exactly
one. `decodeNext` reads a stream, `decodeDatagram` a datagram.
-/

namespace SessionMux

inductive FrameBody
  | data (payload : Bytes)
  | control (code : ControlCode)
  | error (code : ErrorCode)
  deriving Repr, DecidableEq, Inhabited

structure Frame where
  port : UInt16
  session : UInt32
  body : FrameBody
  deriving Repr, DecidableEq, Inhabited

namespace FrameBody

def op : FrameBody → OpType
  | data _ => .data
  | control _ => .control
  | error _ => .error

def payload : FrameBody → Bytes
  | data payload => payload
  | control code => Bytes.ofUInt16 code.toNumber
  | error code => Bytes.ofUInt16 code.toNumber

end FrameBody

namespace Frame

def defaultMaxPayload : Nat := 16777216

/-- One more than the longest length that a header can announce. -/
def lengthBound : Nat := 4294967296

def op (frame : Frame) : OpType := frame.body.op

def payloadLength (frame : Frame) : Nat := frame.body.payload.length

def encodedSize (frame : Frame) : Nat := Header.byteCount + frame.payloadLength

def header (frame : Frame) : Header where
  version := Header.currentVersion
  op := frame.op
  port := frame.port
  session := frame.session
  payloadLength := UInt32.ofNat frame.payloadLength

/-- Refuses a payload whose length does not fit the header. -/
def encode (frame : Frame) : Except WireError Bytes :=
  if frame.payloadLength < lengthBound then
    .ok (frame.header.encode ++ frame.body.payload)
  else
    .error (.tooLarge frame.payloadLength (lengthBound - 1))

def ofParts (header : Header) (payload : Bytes) : Frame where
  port := header.port
  session := header.session
  body :=
    match header.op, payload with
    | .data, payload => .data payload
    | .control, high :: low :: _ => .control (.ofNumber (Bytes.toUInt16 high low))
    | .error, high :: low :: _ => .error (.ofNumber (Bytes.toUInt16 high low))
    | .control, _ => .control (.other 0)
    | .error, _ => .error (.other 0)

/-- Reads a datagram, which must hold one frame and nothing else. -/
def decodeDatagram (datagram : Bytes) (max : Nat) : Except WireError Frame :=
  match Header.peek datagram with
  | .error failure => .error failure
  | .ok none => .error .incomplete
  | .ok (some header) =>
    match header.checkedLength max with
    | .error failure => .error failure
    | .ok length =>
      let rest := datagram.drop Header.byteCount
      if rest.length < length then .error .incomplete
      else if rest.length > length then .error .malformed
      else .ok (ofParts header rest)

/-- Reads the frame at the front of a stream and returns it with the bytes behind it; `none` while
the frame is not complete. -/
def decodeNext (buffer : Bytes) (max : Nat) : Except WireError (Option (Frame × Bytes)) :=
  match Header.peek buffer with
  | .error failure => .error failure
  | .ok none => .ok none
  | .ok (some header) =>
    match header.checkedLength max with
    | .error failure => .error failure
    | .ok length =>
      let rest := buffer.drop Header.byteCount
      if rest.length < length then .ok none
      else .ok (some (ofParts header (rest.take length), rest.drop length))

end Frame

end SessionMux
