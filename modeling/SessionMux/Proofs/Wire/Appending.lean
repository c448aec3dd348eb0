import SessionMux.Proofs.Wire.Buffer
import SessionMux.Proofs.Wire.Language
import SessionMux.Proofs.Wire.Limits

/-!
# Encoding is all or nothing

An encoder appends a frame to a buffer field by field, and what it has appended stays there, even if
it fails later (`BufferWork`). A frame of which only a part is written would make every frame behind
it unreadable. But all checks come before the first field (`Stream.write`), so a failure leaves the
buffer as it was, and the fields make up what `Stream.append` appends in one piece. The limits of
both directions measure the same length, so an encoder and a decoder with one limit agree on what
they let through.
-/

namespace SessionMux

/-! ### Field by field -/

def Header.write (header : Header) : BufferWork Unit := do
  BufferWork.put [header.leadByte]
  BufferWork.put [0]
  BufferWork.put (Bytes.ofUInt16 header.port)
  BufferWork.put (Bytes.ofUInt32 header.session)
  BufferWork.put (Bytes.ofUInt32 header.payloadLength)

def FrameBody.write : FrameBody → BufferWork Unit
  | .data payload => BufferWork.put payload
  | .control code => BufferWork.put (Bytes.ofUInt16 code.toNumber)
  | .error code => BufferWork.put (Bytes.ofUInt16 code.toNumber)

def Frame.write (frame : Frame) : BufferWork Unit :=
  if frame.payloadLength < Frame.lengthBound then do
    frame.header.write
    frame.body.write
  else
    throw (.tooLarge frame.payloadLength (Frame.lengthBound - 1))

def Stream.write (max : Nat) (frame : Frame) : BufferWork Unit :=
  if frame.payloadLength > max then
    throw (.tooLarge frame.payloadLength max)
  else
    frame.write

@[simp]
theorem Header.on_write (header : Header) (buffer : Bytes) :
    header.write.on buffer = (.ok (), buffer ++ header.encode) := by
  simp [Header.write, BufferWork.on_bind, Header.encode, List.append_assoc]

@[simp]
theorem FrameBody.on_write (body : FrameBody) (buffer : Bytes) :
    body.write.on buffer = (.ok (), buffer ++ body.payload) := by
  cases body <;> rfl

/-- Field by field, the same is appended as in one piece, and nothing if that fails. -/
theorem Stream.on_write (max : Nat) (frame : Frame) (buffer : Bytes) :
    (Stream.write max frame).on buffer =
      match Stream.append max frame buffer with
      | .ok after => (.ok (), after)
      | .error fault => (.error fault, buffer) := by
  unfold Stream.write Stream.append
  split
  · rfl
  · unfold Frame.write Frame.encode
    split
    · simp [BufferWork.on_bind, List.append_assoc]
    · rfl

namespace Frame

variable {frame : Frame} {max : Nat} {buffer bytes rest : Bytes}

theorem append_of_bounds (hlimit : frame.payloadLength ≤ max)
    (hfits : frame.payloadLength < lengthBound) :
    Stream.append max frame buffer =
      .ok (buffer ++ (frame.header.encode ++ frame.body.payload)) := by
  rw [Stream.append, if_neg (Nat.not_lt.mpr hlimit), encode_eq hfits]

/-- The first of the two bounds that a payload exceeds is the one reported. -/
theorem append_of_exceeded
    (hlong : ¬ (frame.payloadLength ≤ max ∧ frame.payloadLength < lengthBound)) :
    Stream.append max frame buffer = .error (.tooLarge frame.payloadLength
      (if frame.payloadLength > max then max else lengthBound - 1)) := by
  unfold Stream.append
  split
  · rfl
  · rename_i hlimit
    have hheader : ¬ frame.payloadLength < lengthBound := fun h => hlong ⟨Nat.not_lt.mp hlimit, h⟩
    rw [encode, if_neg hheader]

/-- What a decoder returns is within its limit, and within what a header can announce. -/
theorem bounds_of_decodeNext (hnext : decodeNext bytes max = .ok (some (frame, rest))) :
    frame.payloadLength ≤ max ∧ frame.payloadLength < lengthBound := by
  cases hpeek : Header.peek bytes with
  | error fault =>
      rw [decodeNext, hpeek] at hnext
      cases hnext
  | ok found =>
      cases found with
      | none =>
          rw [decodeNext, hpeek] at hnext
          cases hnext
      | some header =>
          rw [decodeNext_of_peek hpeek] at hnext
          cases hchecked : header.checkedLength max with
          | error fault =>
              rw [hchecked] at hnext
              cases hnext
          | ok length =>
              rw [hchecked] at hnext
              dsimp only at hnext
              split at hnext
              · cases hnext
              · rename_i hwhole
                cases hnext
                obtain ⟨hannounced, hlimit, hcode⟩ := Header.checkedLength_eq_ok_iff.mp hchecked
                have htaken : ((bytes.drop Header.byteCount).take length).length = length :=
                  List.length_take_of_le (Nat.not_lt.mp hwhole)
                obtain ⟨-, hpayload⟩ := parts_ofParts (Header.eq_encode_append_of_peek hpeek).1
                  (hannounced.trans htaken.symm) fun hop => htaken.trans (hcode hop)
                rw [payloadLength, hpayload, htaken]
                refine ⟨hlimit, ?_⟩
                rw [← hannounced]
                exact header.payloadLength.toNat_lt

/-- An encoding announces the length of what stands behind its header. -/
theorem announced_encode (hfits : frame.payloadLength < lengthBound) :
    (frame.header.encode ++ frame.body.payload).uint32At 8 =
      ((frame.header.encode ++ frame.body.payload).drop Header.byteCount).length := by
  obtain ⟨-, -, -, hannounced⟩ := frame.header.fields_encode rfl frame.body.payload
  rw [hannounced, List.drop_left' frame.header.length_encode]
  exact UInt32.toNat_ofNat_of_lt' hfits

/-- **Encoding is all or nothing**, whatever the frame, the limit and the bytes that wait in the
buffer. It succeeds exactly if the payload is within the limit and within what a header can
announce. Then the frame's encoding stands behind the old bytes, its header announces what follows,
and a decoder with the same limit returns the frame and no byte of what stands behind it. Otherwise
the failure tells the size, and the buffer is as it was, although the encoder works on it in place.
And whatever a decoder with the limit returns can be encoded. -/
theorem encoding_all_or_nothing (frame : Frame) (max : Nat) (buffer : Bytes) :
    ((Stream.write max frame).on buffer =
      match Stream.append max frame buffer with
      | .ok after => (.ok (), after)
      | .error fault => (.error fault, buffer)) ∧
    (((Stream.write max frame).on buffer).1 = .ok () ↔
      frame.payloadLength ≤ max ∧ frame.payloadLength ≤ lengthBound - 1) ∧
    (∀ after, (Stream.write max frame).on buffer = (.ok (), after) →
      ∃ bytes, after = buffer ++ bytes ∧ bytes.length = frame.encodedSize ∧
        bytes.uint32At 8 = (bytes.drop Header.byteCount).length ∧
        ∀ rest, decodeNext (bytes ++ rest) max = .ok (some (frame.named, rest))) ∧
    (∀ fault after, (Stream.write max frame).on buffer = (.error fault, after) →
      fault = .tooLarge frame.payloadLength
        (if frame.payloadLength > max then max else lengthBound - 1) ∧ after = buffer) ∧
    ∀ input rest, decodeNext input max = .ok (some (frame, rest)) →
      ((Stream.write max frame).on buffer).1 = .ok () := by
  have hbound : frame.payloadLength ≤ lengthBound - 1 ↔ frame.payloadLength < lengthBound :=
    Nat.le_sub_one_iff_lt (by decide)
  refine ⟨Stream.on_write max frame buffer, ?_⟩
  rw [Stream.on_write, hbound]
  by_cases hin : frame.payloadLength ≤ max ∧ frame.payloadLength < lengthBound
  · obtain ⟨hlimit, hfits⟩ := hin
    rw [append_of_bounds hlimit hfits]
    refine ⟨iff_of_true rfl ⟨hlimit, hfits⟩, fun after hafter => ?_, nofun, fun _ _ _ => rfl⟩
    cases hafter
    refine ⟨_, rfl, ?_, announced_encode hfits, decodeNext_encode hfits hlimit⟩
    rw [List.length_append, Header.length_encode]
    rfl
  · rw [append_of_exceeded hin]
    refine ⟨iff_of_false nofun hin, nofun, fun fault after hafter => ?_, fun input rest hnext => ?_⟩
    · cases hafter
      exact ⟨rfl, rfl⟩
    · exact absurd (bounds_of_decodeNext hnext) hin

/-- A payload that just meets the limit, and one that exceeds it by a byte. -/
theorem encoding_all_or_nothing_limit :
    let full : Frame := { port := 80, session := 1, body := .data [7, 8] }
    let long : Frame := { port := 80, session := 1, body := .data [7, 8, 9] }
    let encoded : Bytes := [0x11, 0, 0, 80, 0, 0, 0, 1, 0, 0, 0, 2, 7, 8]
    (Stream.write 2 full).on [5] = (.ok (), 5 :: encoded) ∧ encoded.uint32At 8 = 2 ∧
      decodeNext encoded 2 = .ok (some (full, [])) ∧
      ((Stream.write 2 full).on [6]).1 = .ok () ∧
      (Stream.write 2 long).on [5] = (.error (.tooLarge 3 2), [5]) := by
  intro full long encoded
  have hin : full.payloadLength ≤ 2 ∧ full.payloadLength < lengthBound := by decide
  have hbytes : full.header.encode ++ full.body.payload = encoded := by decide
  have hfull : (Stream.write 2 full).on [5] = (.ok (), 5 :: encoded) := by
    rw [Stream.on_write, append_of_bounds hin.1 hin.2, hbytes]
    rfl
  have hread : decodeNext encoded 2 = .ok (some (full, [])) := rfl
  obtain ⟨-, -, hsuccess, -, -⟩ := encoding_all_or_nothing full 2 [5]
  obtain ⟨-, -, -, -, hback⟩ := encoding_all_or_nothing full 2 [6]
  obtain ⟨-, -, -, hfailure, -⟩ := encoding_all_or_nothing long 2 [5]
  obtain ⟨bytes, hbytes, -, hannounced, -⟩ := hsuccess _ hfull
  obtain rfl : encoded = bytes := List.cons.inj hbytes |>.2
  have hlong : (Stream.write 2 long).on [5] = (.error (.tooLarge 3 2), [5]) := by
    rw [Stream.on_write]
    rfl
  obtain ⟨hfault, -⟩ := hfailure _ _ hlong
  exact ⟨hfull, hannounced, hread, hback _ _ hread, hlong⟩

end Frame

end SessionMux
