import SessionMux.Proofs.Wire.Fields

/-!
# Which datagrams are frames

The wire format says byte by byte which datagrams carry a frame (`Frame.WireFormat`), without
reference to how they are read. Exactly those are accepted, and what is read from one of them is
written as that very datagram, so a frame has one written form. No read goes beyond the end of a
datagram, whatever its bytes are: reading it with a cursor that breaks down there
(`Frame.decodeDatagram?`) never breaks down, and gives the same answer.
-/

namespace SessionMux

namespace Bytes

def uint32At (bytes : Bytes) (place : Nat) : Nat :=
  (bytes.getD place 0).toNat * 16777216 + (bytes.getD (place + 1) 0).toNat * 65536 +
    (bytes.getD (place + 2) 0).toNat * 256 + (bytes.getD (place + 3) 0).toNat

theorem exists_twelve {bytes : Bytes} (hlong : 12 ≤ bytes.length) :
    ∃ lead reserved p₀ p₁ s₀ s₁ s₂ s₃ l₀ l₁ l₂ l₃ rest,
      bytes = lead :: reserved :: p₀ :: p₁ :: s₀ :: s₁ :: s₂ :: s₃ :: l₀ :: l₁ :: l₂ :: l₃ :: rest :=
    by
  match bytes, hlong with
  | lead :: reserved :: p₀ :: p₁ :: s₀ :: s₁ :: s₂ :: s₃ :: l₀ :: l₁ :: l₂ :: l₃ :: rest, _ =>
    exact ⟨lead, reserved, p₀, p₁, s₀, s₁, s₂, s₃, l₀, l₁, l₂, l₃, rest, rfl⟩

end Bytes

namespace Frame

/-- The wire format of a datagram that carries a frame with at most `max` bytes of payload. -/
structure WireFormat (datagram : Bytes) (max : Nat) : Prop where
  header : 12 ≤ datagram.length
  version : (datagram.getD 0 0).toNat % 16 = 1
  op : (datagram.getD 0 0).toNat / 16 = 1 ∨ (datagram.getD 0 0).toNat / 16 = 2 ∨
    (datagram.getD 0 0).toNat / 16 = 3
  reserved : datagram.getD 1 0 = 0
  limit : datagram.uint32At 8 ≤ max
  whole : datagram.uint32At 8 = datagram.length - 12
  /-- The payload of a frame that is not data is one code. -/
  code : (datagram.getD 0 0).toNat / 16 ≠ 1 → datagram.uint32At 8 = 2

end Frame

/-! ### Reading with a cursor -/

namespace Bytes

/-- Reads a byte, which has to be there. -/
def byte? : Bytes → Option (UInt8 × Bytes)
  | [] => none
  | byte :: cursor => some (byte, cursor)

def uint16? (cursor : Bytes) : Option (UInt16 × Bytes) := do
  let (high, cursor) ← cursor.byte?
  let (low, cursor) ← cursor.byte?
  return (toUInt16 high low, cursor)

def uint32? (cursor : Bytes) : Option (UInt32 × Bytes) := do
  let (first, cursor) ← cursor.byte?
  let (second, cursor) ← cursor.byte?
  let (third, cursor) ← cursor.byte?
  let (fourth, cursor) ← cursor.byte?
  return (toUInt32 first second third fourth, cursor)

def from? (bytes : Bytes) (place : Nat) : Option Bytes :=
  if place ≤ bytes.length then some (bytes.drop place) else none

end Bytes

def Header.peek? (bytes : Bytes) : Option (Except WireError (Option Header)) :=
  if bytes.length < byteCount then some (.ok none)
  else do
    let (lead, cursor) ← bytes.byte?
    if lead.toNat % 16 ≠ currentVersion.toNat then
      return .error (.version (lead.toNat % 16))
    match OpType.ofNumber (lead.toNat / 16) with
    | .error failure => return .error failure
    | .ok op =>
      let (reserved, cursor) ← cursor.byte?
      if reserved ≠ 0 then return .error .reserved
      let (port, cursor) ← cursor.uint16?
      let (session, cursor) ← cursor.uint32?
      let (payloadLength, _) ← cursor.uint32?
      return .ok (some { version := currentVersion, op, port, session, payloadLength })

namespace Frame

def ofParts? (header : Header) (payload : Bytes) : Option Frame := do
  let body ←
    match header.op with
    | .data => some (.data payload)
    | .control => payload.uint16?.map fun (number, _) => .control (.ofNumber number)
    | .error => payload.uint16?.map fun (number, _) => .error (.ofNumber number)
  return { port := header.port, session := header.session, body }

/-- Reads a datagram with a cursor; `none` where that would read beyond its end. -/
def decodeDatagram? (datagram : Bytes) (max : Nat) : Option (Except WireError Frame) := do
  match ← Header.peek? datagram with
  | .error failure => return .error failure
  | .ok none => return .error .incomplete
  | .ok (some header) =>
    match header.checkedLength max with
    | .error failure => return .error failure
    | .ok length =>
      let rest ← datagram.from? Header.byteCount
      if rest.length < length then return .error .incomplete
      if rest.length > length then return .error .malformed
      return .ok (← ofParts? header rest)

end Frame

theorem Header.peek?_eq (bytes : Bytes) : peek? bytes = some (peek bytes) := by
  by_cases hshort : bytes.length < byteCount
  · have hnone : peek bytes = .ok none := by
      unfold peek
      split
      · simp only [List.length_cons, byteCount] at hshort
        omega
      · rfl
    rw [peek?, if_pos hshort, hnone]
  · obtain ⟨lead, reserved, p₀, p₁, s₀, s₁, s₂, s₃, l₀, l₁, l₂, l₃, rest, rfl⟩ :=
      Bytes.exists_twelve (Nat.not_lt.mp hshort)
    rw [peek?, if_neg hshort, peek]
    simp only [Bytes.byte?, Bytes.uint16?, Bytes.uint32?, Option.bind_eq_bind, Option.bind_some,
      Option.pure_def]
    split
    · rfl
    · cases OpType.ofNumber (lead.toNat / 16) with
      | error failure => rfl
      | ok op =>
          simp only
          split <;> rfl

namespace Header

variable {header : Header} {bytes : Bytes} {max length : Nat}

theorem checkedLength_eq_ok_iff : header.checkedLength max = .ok length ↔
    header.payloadLength.toNat = length ∧ length ≤ max ∧ (header.op ≠ .data → length = 2) := by
  simp only [checkedLength]
  constructor
  · intro hlength
    split at hlength
    · cases hlength
    · rename_i hlimit
      split at hlength
      · cases hlength
      · rename_i hcode
        cases hlength
        refine ⟨rfl, Nat.not_lt.mp hlimit, fun hop => ?_⟩
        exact Decidable.not_not.mp fun hne => hcode ⟨hop, hne⟩
  · rintro ⟨rfl, hlimit, hcode⟩
    rw [if_neg (Nat.not_lt.mpr hlimit), if_neg fun h => h.2 (hcode h.1)]

/-- The fields of a written header, by their places. -/
theorem fields_encode (hversion : header.version = currentVersion) (rest : Bytes) :
    ((header.encode ++ rest).getD 0 0).toNat % 16 = 1 ∧
      ((header.encode ++ rest).getD 0 0).toNat / 16 = header.op.toNumber ∧
      (header.encode ++ rest).getD 1 0 = 0 ∧
      (header.encode ++ rest).uint32At 8 = header.payloadLength.toNat := by
  obtain ⟨hlow, hhigh⟩ := leadByte_fields hversion
  obtain ⟨l₀, l₁, l₂, l₃, hlength, hlength'⟩ := Bytes.exists_ofUInt32 header.payloadLength
  refine ⟨hlow, hhigh, rfl, ?_⟩
  rw [← hlength', Bytes.toNat_toUInt32]
  simp only [encode, hlength]
  rfl

end Header

namespace Frame

variable {datagram : Bytes} {max : Nat} {frame : Frame}

/-! ### What is accepted -/

theorem decodeDatagram_eq_ok_iff : decodeDatagram datagram max = .ok frame ↔
    ∃ header, Header.peek datagram = .ok (some header) ∧
      header.checkedLength max = .ok (datagram.drop Header.byteCount).length ∧
      ofParts header (datagram.drop Header.byteCount) = frame := by
  unfold decodeDatagram
  constructor
  · intro hframe
    split at hframe
    · cases hframe
    · cases hframe
    · rename_i header hpeek
      split at hframe
      · cases hframe
      · rename_i length hlength
        simp only at hframe
        split at hframe
        · cases hframe
        · rename_i hlong
          split at hframe
          · cases hframe
          · rename_i hshort
            cases hframe
            obtain rfl := Nat.le_antisymm (Nat.not_lt.mp hlong) (Nat.not_lt.mp hshort)
            exact ⟨header, hpeek, hlength, rfl⟩
  · rintro ⟨header, hpeek, hlength, rfl⟩
    simp only [hpeek, hlength]
    rw [if_neg (Nat.lt_irrefl _), if_neg (Nat.lt_irrefl _)]

/-- **Exactly the wire format is accepted.** -/
theorem exists_decodeDatagram_iff :
    (∃ frame, decodeDatagram datagram max = .ok frame) ↔ WireFormat datagram max := by
  constructor
  · rintro ⟨frame, hframe⟩
    obtain ⟨header, hpeek, hchecked, -⟩ := decodeDatagram_eq_ok_iff.mp hframe
    obtain ⟨hlength, hlimit, hcode⟩ := Header.checkedLength_eq_ok_iff.mp hchecked
    obtain ⟨hversion, hbytes⟩ := Header.eq_encode_append_of_peek hpeek
    have hfields := Header.fields_encode hversion (datagram.drop Header.byteCount)
    rw [← hbytes] at hfields
    obtain ⟨hlow, hhigh, hreserved, hannounced⟩ := hfields
    have hdrop : (datagram.drop Header.byteCount).length = datagram.length - 12 :=
      List.length_drop
    have hlong : datagram.length = 12 + (datagram.drop Header.byteCount).length := by
      have hsizes := congrArg List.length hbytes
      rw [List.length_append, Header.length_encode] at hsizes
      exact hsizes
    refine ⟨?_, hlow, ?_, hreserved, ?_, ?_, fun hop => ?_⟩
    · omega
    · rw [hhigh]
      cases header.op <;> decide
    · omega
    · omega
    · have hne : header.op ≠ .data := by
        intro hdata
        rw [hhigh, hdata] at hop
        exact hop rfl
      have htwo := hcode hne
      omega
  · intro hformat
    obtain ⟨op, hop⟩ : ∃ op : OpType, (datagram.getD 0 0).toNat / 16 = op.toNumber := by
      obtain hdata | hcontrol | herror := hformat.op
      · exact ⟨.data, hdata⟩
      · exact ⟨.control, hcontrol⟩
      · exact ⟨.error, herror⟩
    have hversion := hformat.version
    have hreserved := hformat.reserved
    have hlimit := hformat.limit
    have hwhole := hformat.whole
    have hcode := hformat.code
    obtain ⟨lead, reserved, p₀, p₁, s₀, s₁, s₂, s₃, l₀, l₁, l₂, l₃, rest, rfl⟩ :=
      Bytes.exists_twelve hformat.header
    obtain rfl : reserved = 0 := hreserved
    refine ⟨_, decodeDatagram_eq_ok_iff.mpr
      ⟨_, Header.peek_of_fields hversion hop .., Header.checkedLength_eq_ok_iff.mpr ?_, rfl⟩⟩
    have hannounced : (Bytes.toUInt32 l₀ l₁ l₂ l₃).toNat =
        Bytes.uint32At (lead :: 0 :: p₀ :: p₁ :: s₀ :: s₁ :: s₂ :: s₃ :: l₀ :: l₁ :: l₂ :: l₃ ::
          rest) 8 := Bytes.toNat_toUInt32 ..
    have hrest : (List.drop Header.byteCount (lead :: 0 :: p₀ :: p₁ :: s₀ :: s₁ :: s₂ :: s₃ :: l₀ ::
        l₁ :: l₂ :: l₃ :: rest)).length = Bytes.uint32At (lead :: 0 :: p₀ :: p₁ :: s₀ :: s₁ ::
          s₂ :: s₃ :: l₀ :: l₁ :: l₂ :: l₃ :: rest) 8 := by
      rw [hwhole]
      exact List.length_drop
    refine ⟨hannounced.trans hrest.symm, hrest ▸ hlimit, fun hne => ?_⟩
    rw [hrest]
    refine hcode ?_
    intro hone
    have hnumber : op.toNumber = 1 := hop.symm.trans hone
    cases op with
    | data => exact hne rfl
    | control | error => cases hnumber

/-! ### What is read -/

theorem exists_of_length_two {payload : Bytes} (htwo : payload.length = 2) :
    ∃ high low, payload = [high, low] := by
  match payload, htwo with
  | [high, low], _ => exact ⟨high, low, rfl⟩

theorem ofParts?_eq {header : Header} {payload : Bytes}
    (hcode : header.op ≠ .data → payload.length = 2) :
    ofParts? header payload = some (ofParts header payload) := by
  obtain ⟨version, op, port, session, length⟩ := header
  cases op with
  | data => rfl
  | control | error =>
      obtain ⟨high, low, rfl⟩ := exists_of_length_two (hcode nofun)
      rfl

theorem decodeDatagram?_eq (datagram : Bytes) (max : Nat) :
    decodeDatagram? datagram max = some (decodeDatagram datagram max) := by
  unfold decodeDatagram? decodeDatagram
  rw [Header.peek?_eq]
  simp only [Option.bind_eq_bind, Option.bind_some, Option.pure_def]
  cases hpeek : Header.peek datagram with
  | error failure => rfl
  | ok found =>
      cases found with
      | none => rfl
      | some header =>
          simp only
          cases hchecked : header.checkedLength max with
          | error failure => rfl
          | ok length =>
              have hbytes := (Header.eq_encode_append_of_peek hpeek).2
              have hlong : Header.byteCount ≤ datagram.length := by
                rw [hbytes, List.length_append, Header.length_encode]
                exact Nat.le_add_right _ _
              simp only [Bytes.from?, if_pos hlong, Option.bind_some]
              split
              · rfl
              · rename_i hlow
                split
                · rfl
                · rename_i hhigh
                  obtain ⟨-, -, hcode⟩ := Header.checkedLength_eq_ok_iff.mp hchecked
                  rw [ofParts?_eq fun hop => by
                    have htwo := hcode hop
                    omega]
                  rfl

/-- The header and the payload of a frame that was made of them. -/
theorem parts_ofParts {header : Header} {payload : Bytes}
    (hversion : header.version = Header.currentVersion)
    (hlength : header.payloadLength.toNat = payload.length)
    (hcode : header.op ≠ .data → payload.length = 2) :
    (ofParts header payload).header = header ∧ (ofParts header payload).body.payload = payload := by
  have hannounced : UInt32.ofNat payload.length = header.payloadLength := by
    rw [← hlength]
    exact UInt32.ofNat_toNat
  obtain ⟨version, op, port, session, length⟩ := header
  obtain rfl : version = Header.currentVersion := hversion
  obtain rfl : UInt32.ofNat payload.length = length := hannounced
  cases op with
  | data => exact ⟨rfl, rfl⟩
  | control =>
      obtain ⟨high, low, rfl⟩ := exists_of_length_two (hcode nofun)
      refine ⟨rfl, ?_⟩
      simp only [ofParts, FrameBody.payload, ControlCode.toNumber_ofNumber,
        Bytes.ofUInt16_toUInt16]
  | error =>
      obtain ⟨high, low, rfl⟩ := exists_of_length_two (hcode nofun)
      refine ⟨rfl, ?_⟩
      simp only [ofParts, FrameBody.payload, ErrorCode.toNumber_ofNumber,
        Bytes.ofUInt16_toUInt16]

/-- What was read from a datagram is written as that datagram. -/
theorem encode_of_decodeDatagram (hframe : decodeDatagram datagram max = .ok frame) :
    frame.encode = .ok datagram := by
  obtain ⟨header, hpeek, hchecked, rfl⟩ := decodeDatagram_eq_ok_iff.mp hframe
  obtain ⟨hlength, -, hcode⟩ := Header.checkedLength_eq_ok_iff.mp hchecked
  obtain ⟨hversion, hbytes⟩ := Header.eq_encode_append_of_peek hpeek
  obtain ⟨hheader, hpayload⟩ := parts_ofParts hversion hlength hcode
  have hfits : (ofParts header (datagram.drop Header.byteCount)).payloadLength < lengthBound := by
    rw [payloadLength, hpayload, ← hlength]
    exact header.payloadLength.toNat_lt
  rw [encode, if_pos hfits, hheader, hpayload, ← hbytes]

/-- **The language of datagrams.** Reading a datagram never goes beyond its end; it succeeds exactly
on the wire format; and the frame that it yields is written as that datagram and is read from no
other. -/
theorem decodeDatagram_language (datagram : Bytes) (max : Nat) :
    decodeDatagram? datagram max = some (decodeDatagram datagram max) ∧
      ((∃ frame, decodeDatagram datagram max = .ok frame) ↔ WireFormat datagram max) ∧
      ∀ frame, decodeDatagram datagram max = .ok frame → frame.encode = .ok datagram ∧
        ∀ other limit, decodeDatagram other limit = .ok frame → other = datagram := by
  refine ⟨decodeDatagram?_eq datagram max, exists_decodeDatagram_iff, fun frame hframe => ?_⟩
  have hencode := encode_of_decodeDatagram hframe
  refine ⟨hencode, fun other limit hother => ?_⟩
  have hsame := (encode_of_decodeDatagram hother).symm.trans hencode
  exact Except.ok.inj hsame

/-- An error frame whose number has a name, at a limit that it just meets. -/
theorem decodeDatagram_language_error :
    let datagram : Bytes := [0x31, 0, 0, 161, 0, 0, 0, 3, 0, 0, 0, 2, 0, 111]
    let refused : Frame := { port := 161, session := 3, body := .error .connRefused }
    decodeDatagram datagram 2 = .ok refused ∧ WireFormat datagram 2 ∧
      refused.encode = .ok datagram := by
  intro datagram refused
  have hread : decodeDatagram datagram 2 = .ok refused := by rfl
  obtain ⟨-, haccepts, hwritten⟩ := decodeDatagram_language datagram 2
  exact ⟨hread, haccepts.mp ⟨refused, hread⟩, (hwritten refused hread).1⟩

end Frame

end SessionMux
