import SessionMux.Proofs.Wire.Chunking
import SessionMux.Proofs.Wire.Fields

/-!
# Reading undoes writing

What is written for a frame reads back as that frame, from a datagram and from the front of a
stream, and takes no byte with it of what stands behind. Only the spelling of a code is lost: one
that was written as a plain number comes back under its name, where the number has one
(`Frame.named`), and by the equality of codes that is the same frame (`Frame.Same`).
-/

namespace SessionMux

/-! ### Frames up to the spelling of codes -/

def Frame.named (frame : Frame) : Frame where
  port := frame.port
  session := frame.session
  body :=
    match frame.body with
    | .data payload => .data payload
    | .control code => .control code.normalize
    | .error code => .error code.normalize

def FrameBody.Same : FrameBody → FrameBody → Prop
  | .data first, .data second => first = second
  | .control first, .control second => first.normalize = second.normalize
  | .error first, .error second => first.Same second
  | _, _ => False

/-- Two frames are the same when they differ at most in whether a code stands under its name. -/
structure Frame.Same (first second : Frame) : Prop where
  port : first.port = second.port
  session : first.session = second.session
  body : first.body.Same second.body

theorem Frame.named_same (frame : Frame) : frame.named.Same frame := by
  refine ⟨rfl, rfl, ?_⟩
  unfold Frame.named
  cases frame.body with
  | data payload => exact rfl
  | control code => exact congrArg ControlCode.ofNumber (ControlCode.toNumber_ofNumber _)
  | error code => exact ErrorCode.toNumber_ofNumber _

/-! ### One frame -/

namespace Frame

variable {frame : Frame} {max : Nat}

theorem encode_eq (hfits : frame.payloadLength < lengthBound) :
    frame.encode = .ok (frame.header.encode ++ frame.body.payload) := if_pos hfits

theorem ofParts_payload (frame : Frame) :
    ofParts frame.header frame.body.payload = frame.named := by
  obtain ⟨port, session, body⟩ := frame
  cases body with
  | data payload => rfl
  | control code =>
      obtain ⟨high, low, hbytes, hnumber⟩ := Bytes.exists_ofUInt16 code.toNumber
      simp only [ofParts, header, op, FrameBody.op, FrameBody.payload, hbytes, hnumber]
      rfl
  | error code =>
      obtain ⟨high, low, hbytes, hnumber⟩ := Bytes.exists_ofUInt16 code.toNumber
      simp only [ofParts, header, op, FrameBody.op, FrameBody.payload, hbytes, hnumber]
      rfl

/-- The length that a frame announces is the length of its payload, and passes every check. -/
theorem checkedLength_header (hfits : frame.payloadLength < lengthBound)
    (hlimit : frame.payloadLength ≤ max) :
    frame.header.checkedLength max = .ok frame.payloadLength := by
  have hlength : frame.header.payloadLength.toNat = frame.payloadLength :=
    UInt32.toNat_ofNat_of_lt' hfits
  have hcode : ¬ (frame.header.op ≠ .data ∧ frame.payloadLength ≠ 2) := by
    obtain ⟨port, session, body⟩ := frame
    cases body with
    | data payload => exact fun h => h.1 rfl
    | control code | error code => exact fun h => h.2 rfl
  simp only [Header.checkedLength, hlength]
  rw [if_neg (Nat.not_lt.mpr hlimit), if_neg hcode]

section Encoded

variable (hfits : frame.payloadLength < lengthBound) (hlimit : frame.payloadLength ≤ max)
include hfits hlimit

theorem decodeNext_encode (rest : Bytes) :
    decodeNext (frame.header.encode ++ frame.body.payload ++ rest) max =
      .ok (some (frame.named, rest)) := by
  have hbehind : (frame.header.encode ++ (frame.body.payload ++ rest)).drop Header.byteCount =
      frame.body.payload ++ rest := List.drop_left' frame.header.length_encode
  have hlong : ¬ (frame.body.payload ++ rest).length < frame.payloadLength := by
    rw [List.length_append]
    exact Nat.not_lt.mpr (Nat.le_add_right _ _)
  have htake : (frame.body.payload ++ rest).take frame.payloadLength = frame.body.payload :=
    List.take_left' rfl
  have hdrop : (frame.body.payload ++ rest).drop frame.payloadLength = rest := List.drop_left' rfl
  rw [List.append_assoc, decodeNext_of_peek (Header.peek_encode rfl _),
    checkedLength_header hfits hlimit]
  simp only [hbehind]
  rw [if_neg hlong, htake, hdrop, ofParts_payload]

theorem decodeDatagram_encode :
    decodeDatagram (frame.header.encode ++ frame.body.payload) max = .ok frame.named := by
  have hbehind : (frame.header.encode ++ frame.body.payload).drop Header.byteCount =
      frame.body.payload := List.drop_left' frame.header.length_encode
  unfold decodeDatagram
  rw [Header.peek_encode rfl]
  simp only [checkedLength_header hfits hlimit, hbehind]
  rw [show frame.body.payload.length = frame.payloadLength from rfl, if_neg (Nat.lt_irrefl _),
    if_neg (Nat.lt_irrefl _), ofParts_payload]

end Encoded

/-! ### Frames back to back -/

theorem decodeAll_encode {frames : List Frame}
    (hfits : ∀ frame ∈ frames, frame.payloadLength < lengthBound)
    (hlimit : ∀ frame ∈ frames, frame.payloadLength ≤ max) (rest : Bytes) :
    ∃ encodings, frames.mapM encode = .ok encodings ∧
      decodeAll (encodings.flatten ++ rest) max =
        { decodeAll rest max with
          frames := frames.map named ++ (decodeAll rest max).frames } := by
  induction frames with
  | nil => exact ⟨[], rfl, rfl⟩
  | cons frame frames ih =>
      obtain ⟨hfirst, hothers⟩ := List.forall_mem_cons.mp hfits
      obtain ⟨hshort, hlimits⟩ := List.forall_mem_cons.mp hlimit
      obtain ⟨encodings, hencodings, hdecoded⟩ := ih hothers hlimits
      refine ⟨(frame.header.encode ++ frame.body.payload) :: encodings, ?_, ?_⟩
      · rw [List.mapM_cons, encode_eq hfirst, hencodings]
        rfl
      · rw [List.flatten_cons, List.append_assoc,
          decodeAll_of_some (decodeNext_encode hfirst hshort _), hdecoded]
        rfl

/-- **Decoding undoes encoding.** With a limit that a header can announce, every frame whose payload
is within it is encoded, and its encoding decodes to the frame: as a datagram, in front of any other
bytes of a stream, which are left over as they are, and back to back with others. -/
theorem decode_encode {max : Nat} (hmax : max < lengthBound) :
    (∀ frame : Frame, frame.payloadLength ≤ max → ∃ bytes, frame.encode = .ok bytes ∧
        (∀ rest, decodeNext (bytes ++ rest) max = .ok (some (frame.named, rest))) ∧
        decodeDatagram bytes max = .ok frame.named ∧ frame.named.Same frame) ∧
      ∀ frames : List Frame, (∀ frame ∈ frames, frame.payloadLength ≤ max) →
        ∃ encodings, frames.mapM encode = .ok encodings ∧
          decodeAll encodings.flatten max =
            { frames := frames.map named, fault := none, rest := [] } := by
  constructor
  · intro frame hlimit
    have hfits : frame.payloadLength < lengthBound := Nat.lt_of_le_of_lt hlimit hmax
    exact ⟨_, encode_eq hfits, decodeNext_encode hfits hlimit,
      decodeDatagram_encode hfits hlimit, frame.named_same⟩
  · intro frames hlimit
    have hfits : ∀ frame ∈ frames, frame.payloadLength < lengthBound :=
      fun frame hmem => Nat.lt_of_le_of_lt (hlimit frame hmem) hmax
    obtain ⟨encodings, hencodings, hdecoded⟩ := decodeAll_encode hfits hlimit []
    have hnothing : decodeAll [] max = { frames := [], fault := none, rest := [] } :=
      decodeAll_of_none rfl
    refine ⟨encodings, hencodings, ?_⟩
    rw [List.append_nil] at hdecoded
    rw [hdecoded, hnothing, List.append_nil]

/-- An acknowledgement written as a plain number, and a payload as long as the limit. -/
theorem decode_encode_plain_number :
    let close : Frame := { port := 80, session := 1, body := .control (.other 3) }
    let data : Frame := { port := 80, session := 1, body := .data [7, 8, 9] }
    (∃ bytes, close.encode = .ok bytes ∧ decodeNext (bytes ++ [0x11]) 3 =
        .ok (some ({ port := 80, session := 1, body := .control .sessionCloseAck }, [0x11]))) ∧
      ∃ encodings, [data, close].mapM encode = .ok encodings ∧
        (decodeAll encodings.flatten 3).frames = [data, close.named] := by
  intro close data
  have hlimit : (3 : Nat) < lengthBound := by decide
  obtain ⟨hone, hall⟩ := decode_encode hlimit
  obtain ⟨bytes, hencode, hnext, -⟩ := hone close (by decide)
  obtain ⟨encodings, hencodings, hdecoded⟩ := hall [data, close] (by decide)
  exact ⟨⟨bytes, hencode, hnext [0x11]⟩, encodings, hencodings, by rw [hdecoded]; rfl⟩

end Frame

end SessionMux
