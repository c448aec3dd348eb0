import SessionMux.Proofs.Wire.Chunking

/-!
# Datagrams and streams are read alike

A datagram is read as a stream is that must hold one frame and nothing else (`Frame.ofNext`). Both
look at the header first, and at what stands behind it only if nothing is wrong there. So of several
faults both report the same one, and bytes that are missing or left over, which a stream waits for
or keeps, are faults of a datagram only where its header has none.
-/

namespace SessionMux

/-- Whether a fault is one of a header: its bytes alone tell that no frame can follow. -/
def WireError.IsOfHeader : WireError → Prop
  | version _ | unknownType _ | reserved | tooLarge .. | codeLength .. => True
  | incomplete | malformed | io _ => False

theorem WireError.IsOfHeader.ne_incomplete {fault : WireError} (h : fault.IsOfHeader) :
    fault ≠ .incomplete := by
  rintro rfl
  exact h

theorem WireError.IsOfHeader.ne_malformed {fault : WireError} (h : fault.IsOfHeader) :
    fault ≠ .malformed := by
  rintro rfl
  exact h

theorem Header.isOfHeader_of_peek {bytes : Bytes} {fault : WireError}
    (hpeek : Header.peek bytes = .error fault) : fault.IsOfHeader := by
  unfold Header.peek at hpeek
  split at hpeek
  · split at hpeek
    · cases hpeek
      trivial
    · split at hpeek
      · rename_i failure hop
        cases hpeek
        unfold OpType.ofNumber at hop
        split at hop <;> cases hop
        trivial
      · split at hpeek <;> cases hpeek
        trivial
  · cases hpeek

theorem Header.isOfHeader_of_checkedLength {header : Header} {max : Nat} {fault : WireError}
    (hlength : header.checkedLength max = .error fault) : fault.IsOfHeader := by
  simp only [Header.checkedLength] at hlength
  split at hlength
  · cases hlength
    trivial
  · split at hlength <;> cases hlength
    trivial

namespace Frame

variable {bytes : Bytes} {max : Nat}

theorem isOfHeader_of_decodeNext {fault : WireError} (hnext : decodeNext bytes max = .error fault) :
    fault.IsOfHeader := by
  cases hpeek : Header.peek bytes with
  | error other =>
      rw [decodeNext, hpeek] at hnext
      cases hnext
      exact Header.isOfHeader_of_peek hpeek
  | ok found =>
      cases found with
      | none =>
          rw [decodeNext, hpeek] at hnext
          cases hnext
      | some header =>
          rw [decodeNext_of_peek hpeek] at hnext
          cases hlength : header.checkedLength max with
          | error other =>
              rw [hlength] at hnext
              cases hnext
              exact Header.isOfHeader_of_checkedLength hlength
          | ok length =>
              rw [hlength] at hnext
              dsimp only at hnext
              split at hnext <;> cases hnext

/-- What becomes of a datagram, by what a stream would make of its bytes. -/
def ofNext : Except WireError (Option (Frame × Bytes)) → Except WireError Frame
  | .error fault => .error fault
  | .ok none => .error .incomplete
  | .ok (some (frame, [])) => .ok frame
  | .ok (some (_, _ :: _)) => .error .malformed

/-- A datagram is read in one go as a stream is read that holds the same bytes. -/
theorem decodeDatagram_eq_ofNext (bytes : Bytes) (max : Nat) :
    decodeDatagram bytes max = ofNext (decodeNext bytes max) := by
  cases hpeek : Header.peek bytes with
  | error fault => rw [decodeDatagram, decodeNext, hpeek, ofNext]
  | ok found =>
      cases found with
      | none => rw [decodeDatagram, decodeNext, hpeek, ofNext]
      | some header =>
          rw [decodeNext_of_peek hpeek, decodeDatagram, hpeek]
          dsimp only
          cases header.checkedLength max with
          | error fault => rfl
          | ok length =>
              dsimp only
              generalize bytes.drop Header.byteCount = rest
              by_cases hshort : rest.length < length
              · rw [if_pos hshort, if_pos hshort, ofNext]
              · rw [if_neg hshort, if_neg hshort]
                by_cases hlong : rest.length > length
                · obtain ⟨byte, left, hleft⟩ := List.exists_cons_of_length_pos
                    (l := rest.drop length) (by rw [List.length_drop]; omega)
                  rw [if_pos hlong, hleft, ofNext]
                · have hwhole : rest.length ≤ length := Nat.not_lt.mp hlong
                  rw [if_neg hlong, List.take_of_length_le hwhole,
                    List.drop_eq_nil_of_le hwhole, ofNext]

/-- **Datagrams and streams are read alike**, whatever the bytes and the limit. A datagram yields a
frame exactly if a stream yields that frame and no byte is left over; it is incomplete exactly if
the stream waits for more bytes, and malformed exactly if the stream yields a frame with bytes
behind it. A stream fails over nothing but the fault of a header, and exactly if the datagram fails
over the same one. -/
theorem decoders_agree (bytes : Bytes) (max : Nat) :
    (∀ frame, decodeDatagram bytes max = .ok frame ↔
        decodeNext bytes max = .ok (some (frame, []))) ∧
      (decodeDatagram bytes max = .error .incomplete ↔ decodeNext bytes max = .ok none) ∧
      (decodeDatagram bytes max = .error .malformed ↔
        ∃ frame rest, rest ≠ [] ∧ decodeNext bytes max = .ok (some (frame, rest))) ∧
      ∀ fault, decodeNext bytes max = .error fault ↔
        fault.IsOfHeader ∧ decodeDatagram bytes max = .error fault := by
  rw [decodeDatagram_eq_ofNext]
  have hheader {fault : WireError} (hnext : decodeNext bytes max = .error fault) :
      fault.IsOfHeader := isOfHeader_of_decodeNext hnext
  generalize decodeNext bytes max = next at hheader
  match next with
  | .error fault =>
      have hfault : fault.IsOfHeader := hheader rfl
      refine ⟨by simp [ofNext], by simp [ofNext, hfault.ne_incomplete],
        by simp [ofNext, hfault.ne_malformed], fun other => ⟨fun heq => ?_, ?_⟩⟩
      · cases heq
        exact ⟨hfault, rfl⟩
      · rintro ⟨-, heq⟩
        cases heq
        rfl
  | .ok none =>
      refine ⟨by simp [ofNext], by simp [ofNext], by simp [ofNext], fun other => ⟨nofun, ?_⟩⟩
      rintro ⟨hother, heq⟩
      cases heq
      exact hother.elim
  | .ok (some (frame, [])) => simp [ofNext]
  | .ok (some (frame, byte :: rest)) =>
      refine ⟨by simp [ofNext], by simp [ofNext], by simp [ofNext], fun other => ⟨nofun, ?_⟩⟩
      rintro ⟨hother, heq⟩
      cases heq
      exact hother.elim

/-- Three faults at once: the payload is too long for the limit, it is not a code, and bytes are
missing. Both find the first. -/
example :
    let bytes : Bytes := [0x21, 0, 0, 80, 0, 0, 0, 1, 0, 0, 0, 9, 7]
    decodeDatagram bytes 8 = .error (.tooLarge 9 8) ∧ decodeNext bytes 8 = .error (.tooLarge 9 8) :=
  ⟨rfl, rfl⟩

end Frame

end SessionMux
