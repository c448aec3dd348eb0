import SessionMux.Wire.Frame

/-!
Frames on a byte stream. A decoder keeps the bytes that do not make up a frame yet; an encoder
appends frames to what is still to be written.
-/

namespace SessionMux

theorem Header.byteCount_le_of_peek {bytes : Bytes} {header : Header}
    (h : Header.peek bytes = .ok (some header)) : Header.byteCount ≤ bytes.length := by
  unfold Header.peek at h
  split at h
  · simp only [List.length_cons, Header.byteCount]
    omega
  · cases h

theorem Frame.length_lt_of_decodeNext {buffer : Bytes} {max : Nat} {frame : Frame} {rest : Bytes}
    (h : Frame.decodeNext buffer max = .ok (some (frame, rest))) :
    rest.length < buffer.length := by
  unfold Frame.decodeNext at h
  split at h
  · cases h
  · cases h
  · rename_i header hpeek
    have hlong := Header.byteCount_le_of_peek hpeek
    split at h
    · cases h
    · simp only at h
      split at h
      · cases h
      · cases h
        simp only [List.length_drop, Header.byteCount] at *
        omega

/-- What one round of decoding yields: the frames found, the fault that ended it if one did, and
the bytes that are left. -/
structure Decoded where
  frames : List Frame
  fault : Option WireError
  rest : Bytes
  deriving Repr, DecidableEq

/-- Decodes frames off the front until more bytes are needed or a fault comes up. -/
def Frame.decodeAll (buffer : Bytes) (max : Nat) : Decoded :=
  match h : Frame.decodeNext buffer max with
  | .error fault => { frames := [], fault := some fault, rest := buffer }
  | .ok none => { frames := [], fault := none, rest := buffer }
  | .ok (some (frame, rest)) =>
    have : rest.length < buffer.length := Frame.length_lt_of_decodeNext h
    let later := Frame.decodeAll rest max
    { later with frames := frame :: later.frames }
termination_by buffer.length

namespace Stream

/-- Feeds the chunks of a stream one by one to a decoder that starts with `buffer`; after a fault
no more chunks are read. One result a chunk. -/
def feedChunks (max : Nat) (buffer : Bytes) : List Bytes → List Decoded
  | [] => []
  | chunk :: chunks =>
    let decoded := Frame.decodeAll (buffer ++ chunk) max
    match decoded.fault with
    | some _ => [decoded]
    | none => decoded :: feedChunks max decoded.rest chunks

def truncated : Fault := .custom .other "bytes remaining on stream"

/-- A stream may end only between two frames. -/
def finish (rest : Bytes) : Except WireError Unit :=
  if rest.isEmpty then .ok () else .error (.io truncated)

/-- Appends a frame to the bytes that wait to be written. Nothing is appended on failure. -/
def append (max : Nat) (frame : Frame) (pending : Bytes) : Except WireError Bytes :=
  if frame.payloadLength > max then
    .error (.tooLarge frame.payloadLength max)
  else
    match frame.encode with
    | .error fault => .error fault
    | .ok bytes => .ok (pending ++ bytes)

end Stream

end SessionMux
