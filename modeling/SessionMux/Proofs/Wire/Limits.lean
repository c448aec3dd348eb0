import SessionMux.Proofs.Wire.RoundTrip

/-!
# What a limit lets through

A channel measures payloads against its limit, and nothing else. A stream measures what stands
behind the header of every frame, be it a payload or a code, and a header announces no length beyond
its field. So there are frames that a channel lets through and a stream does not, for limits at
either end.
-/

namespace SessionMux.Frame

/-- A frame that a channel lets through: the limit is for payloads only. -/
def Fits (limit : Nat) (frame : Frame) : Prop :=
  ∀ payload, frame.body = .data payload → payload.length ≤ limit

/-- A stream takes the frame, and a reader with the same limit reads it back, whatever follows. -/
def Written (limit : Nat) (frame : Frame) : Prop :=
  ∃ bytes, Stream.append limit frame [] = .ok bytes ∧
    ∀ rest, decodeNext (bytes ++ rest) limit = .ok (some (frame.named, rest))

/-- What a stream refuses although a channel lets it through: codes, which are two bytes long, where
the limit is smaller, and payloads that are within the limit and too long for the header. -/
inductive Overlooked (limit : Nat) (frame : Frame) : Prop
  | code (hlimit : limit < 2) (hcode : frame.op ≠ .data)
  | payload (hlong : lengthBound ≤ frame.payloadLength) (hlimit : frame.payloadLength ≤ limit)
      (hdata : frame.op = .data)

variable {limit : Nat} {frame : Frame}

theorem fits_of_control {code : ControlCode} (hbody : frame.body = .control code) :
    frame.Fits limit := by
  intro payload hdata
  rw [hbody] at hdata
  cases hdata

theorem fits_of_error {code : ErrorCode} (hbody : frame.body = .error code) :
    frame.Fits limit := by
  intro payload hdata
  rw [hbody] at hdata
  cases hdata

theorem bounds_of_append {bytes : Bytes} (happend : Stream.append limit frame [] = .ok bytes) :
    frame.payloadLength ≤ limit ∧ frame.payloadLength < lengthBound := by
  rw [Stream.append] at happend
  split at happend
  · cases happend
  · rename_i hlimit
    refine ⟨Nat.not_lt.mp hlimit, ?_⟩
    apply Nat.lt_of_not_le
    intro hlong
    rw [encode, if_neg (Nat.not_lt.mpr hlong)] at happend
    cases happend

theorem written_iff (limit : Nat) (frame : Frame) :
    frame.Written limit ↔ frame.payloadLength ≤ limit ∧ frame.payloadLength < lengthBound := by
  constructor
  · rintro ⟨bytes, happend, -⟩
    exact bounds_of_append happend
  · rintro ⟨hlimit, hfits⟩
    refine ⟨frame.header.encode ++ frame.body.payload, ?_, decodeNext_encode hfits hlimit⟩
    rw [Stream.append, if_neg (Nat.not_lt.mpr hlimit), encode_eq hfits]
    rfl

/-- What a stream takes is read back. -/
theorem written_of_append {bytes : Bytes} (happend : Stream.append limit frame [] = .ok bytes) :
    frame.Written limit := (written_iff limit frame).mpr (bounds_of_append happend)

theorem payloadLength_of_code (hcode : frame.op ≠ .data) : frame.payloadLength = 2 := by
  obtain ⟨port, session, body⟩ := frame
  cases body with
  | data payload => exact absurd rfl hcode
  | control code => exact Bytes.length_ofUInt16 _
  | error code => exact Bytes.length_ofUInt16 _

theorem Fits.payloadLength_le (h : frame.Fits limit) (hdata : frame.op = .data) :
    frame.payloadLength ≤ limit := by
  obtain ⟨port, session, body⟩ := frame
  cases body with
  | data payload => exact h payload rfl
  | control code | error code => cases hdata

/-- What a channel lets through is written, unless the channel overlooked that it cannot be. -/
theorem Fits.written_iff (h : frame.Fits limit) :
    frame.Written limit ↔ ¬ frame.Overlooked limit := by
  rw [Frame.written_iff]
  by_cases hdata : frame.op = .data
  · have hlimit : frame.payloadLength ≤ limit := h.payloadLength_le hdata
    constructor
    · rintro ⟨-, hfits⟩ (⟨-, hcode⟩ | ⟨hlong, -, -⟩)
      · exact hcode hdata
      · omega
    · intro hseen
      refine ⟨hlimit, Nat.lt_of_not_le ?_⟩
      intro hlong
      exact hseen (.payload hlong hlimit hdata)
  · have hlength : frame.payloadLength = 2 := payloadLength_of_code hdata
    rw [hlength]
    constructor
    · rintro ⟨hlimit, -⟩ (⟨hsmall, -⟩ | ⟨-, -, hdata'⟩)
      · omega
      · exact hdata hdata'
    · intro hseen
      refine ⟨Nat.le_of_not_lt ?_, by decide⟩
      intro hsmall
      exact hseen (.code hsmall hdata)

end SessionMux.Frame
