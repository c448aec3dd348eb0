import SessionMux.Proofs.Wire.Buffer
import SessionMux.Wire.Stream

/-!
# Chunking does not matter

A stream decoder sees its bytes in the chunks in which they arrive, and takes a frame off the front
of its buffer when it is whole (`Stream.take`). What it makes of the bytes depends on them alone.
The reason is that more bytes behind a buffer never change a verdict: a header that is complete
stays what it is, so a frame that was found and a fault that came up are found and come up again,
with the additional bytes left over (`Frame.decodeNext_append_of_some`,
`Frame.decodeNext_append_of_error`). Decoding a buffer in one go therefore is decoding its front,
and going on with what that left together with the rest (`Frame.decodeAll_append`).
-/

namespace SessionMux

variable {max : Nat} {front rear buffer : Bytes}

theorem Header.peek_append_of_some {header : Header}
    (hpeek : Header.peek front = .ok (some header)) :
    Header.peek (front ++ rear) = .ok (some header) := by
  unfold Header.peek at hpeek
  split at hpeek
  · simpa only [List.cons_append, Header.peek] using hpeek
  · cases hpeek

theorem Header.peek_append_of_error {fault : WireError} (hpeek : Header.peek front = .error fault) :
    Header.peek (front ++ rear) = .error fault := by
  unfold Header.peek at hpeek
  split at hpeek
  · simpa only [List.cons_append, Header.peek] using hpeek
  · cases hpeek

theorem Frame.decodeNext_of_peek {header : Header}
    (hpeek : Header.peek buffer = .ok (some header)) :
    Frame.decodeNext buffer max =
      match header.checkedLength max with
      | .error fault => .error fault
      | .ok length =>
        if (buffer.drop Header.byteCount).length < length then .ok none
        else .ok (some (Frame.ofParts header ((buffer.drop Header.byteCount).take length),
          (buffer.drop Header.byteCount).drop length)) := by
  cases hlength : header.checkedLength max with
  | error fault => simp only [decodeNext, hpeek, hlength]
  | ok length => simp only [decodeNext, hpeek, hlength]

theorem Frame.peek_of_decodeNext_some {frame : Frame} {rest : Bytes}
    (hnext : Frame.decodeNext buffer max = .ok (some (frame, rest))) :
    ∃ header, Header.peek buffer = .ok (some header) := by
  unfold Frame.decodeNext at hnext
  split at hnext
  · cases hnext
  · cases hnext
  · exact ⟨_, by assumption⟩

theorem Frame.decodeNext_append_of_some {frame : Frame} {rest : Bytes}
    (hnext : Frame.decodeNext front max = .ok (some (frame, rest))) :
    Frame.decodeNext (front ++ rear) max = .ok (some (frame, rest ++ rear)) := by
  obtain ⟨header, hpeek⟩ := Frame.peek_of_decodeNext_some hnext
  have hlong := Header.byteCount_le_of_peek hpeek
  rw [Frame.decodeNext_of_peek hpeek] at hnext
  rw [Frame.decodeNext_of_peek (Header.peek_append_of_some hpeek)]
  cases hlength : header.checkedLength max with
  | error fault =>
      rw [hlength] at hnext
      cases hnext
  | ok length =>
      rw [hlength] at hnext
      simp only at hnext ⊢
      split at hnext
      · cases hnext
      · rename_i hcomplete
        cases hnext
        have hrest : length ≤ (front.drop Header.byteCount).length := by omega
        rw [List.drop_append_of_le_length hlong, if_neg (by rw [List.length_append]; omega),
          List.take_append_of_le_length hrest, List.drop_append_of_le_length hrest]

theorem Frame.decodeNext_append_of_error {fault : WireError}
    (hnext : Frame.decodeNext front max = .error fault) :
    Frame.decodeNext (front ++ rear) max = .error fault := by
  cases hpeek : Header.peek front with
  | error other =>
      unfold Frame.decodeNext at hnext ⊢
      rw [hpeek] at hnext
      rw [Header.peek_append_of_error hpeek]
      exact hnext
  | ok found =>
      cases found with
      | none =>
          unfold Frame.decodeNext at hnext
          rw [hpeek] at hnext
          cases hnext
      | some header =>
          rw [Frame.decodeNext_of_peek hpeek] at hnext
          rw [Frame.decodeNext_of_peek (Header.peek_append_of_some hpeek)]
          cases hlength : header.checkedLength max with
          | error other =>
              rw [hlength] at hnext
              exact hnext
          | ok length =>
              rw [hlength] at hnext
              simp only at hnext
              split at hnext <;> cases hnext

/-! ### A round of decoding, by what comes first -/

theorem Frame.decodeAll_of_none (hnext : Frame.decodeNext buffer max = .ok none) :
    Frame.decodeAll buffer max = { frames := [], fault := none, rest := buffer } := by
  rw [Frame.decodeAll]
  split
  · rename_i heq
    rw [hnext] at heq
    cases heq
  · rfl
  · rename_i heq
    rw [hnext] at heq
    cases heq

theorem Frame.decodeAll_of_error {fault : WireError}
    (hnext : Frame.decodeNext buffer max = .error fault) :
    Frame.decodeAll buffer max = { frames := [], fault := some fault, rest := buffer } := by
  rw [Frame.decodeAll]
  split
  · rename_i heq
    rw [hnext] at heq
    cases heq
    rfl
  · rename_i heq
    rw [hnext] at heq
    cases heq
  · rename_i heq
    rw [hnext] at heq
    cases heq

theorem Frame.decodeAll_of_some {frame : Frame} {rest : Bytes}
    (hnext : Frame.decodeNext buffer max = .ok (some (frame, rest))) :
    Frame.decodeAll buffer max =
      { Frame.decodeAll rest max with frames := frame :: (Frame.decodeAll rest max).frames } := by
  rw [Frame.decodeAll]
  split
  · rename_i heq
    rw [hnext] at heq
    cases heq
  · rename_i heq
    rw [hnext] at heq
    cases heq
  · rename_i heq
    rw [hnext] at heq
    cases heq
    rfl

/-- Decoding stops where more bytes are needed, unless a fault stopped it. -/
theorem Frame.decodeNext_rest_decodeAll (buffer : Bytes)
    (hfault : (Frame.decodeAll buffer max).fault = none) :
    Frame.decodeNext (Frame.decodeAll buffer max).rest max = .ok none := by
  cases hnext : Frame.decodeNext buffer max with
  | error fault =>
      rw [Frame.decodeAll_of_error hnext] at hfault
      cases hfault
  | ok found =>
      cases found with
      | none =>
          rw [Frame.decodeAll_of_none hnext]
          exact hnext
      | some found =>
          obtain ⟨frame, rest⟩ := found
          have hshorter := Frame.length_lt_of_decodeNext hnext
          rw [Frame.decodeAll_of_some hnext] at hfault ⊢
          exact Frame.decodeNext_rest_decodeAll rest hfault
termination_by buffer.length

/-- The frames in front of a fault, and the fault, do not depend on what stands behind it. -/
theorem Frame.decodeAll_append_of_fault {fault : WireError} (front rear : Bytes)
    (hfault : (Frame.decodeAll front max).fault = some fault) :
    (Frame.decodeAll (front ++ rear) max).frames = (Frame.decodeAll front max).frames ∧
      (Frame.decodeAll (front ++ rear) max).fault = some fault := by
  cases hnext : Frame.decodeNext front max with
  | error other =>
      rw [Frame.decodeAll_of_error hnext] at hfault ⊢
      rw [Frame.decodeAll_of_error (Frame.decodeNext_append_of_error hnext)]
      exact ⟨rfl, hfault⟩
  | ok found =>
      cases found with
      | none =>
          rw [Frame.decodeAll_of_none hnext] at hfault
          cases hfault
      | some found =>
          obtain ⟨frame, rest⟩ := found
          have hshorter := Frame.length_lt_of_decodeNext hnext
          rw [Frame.decodeAll_of_some hnext] at hfault ⊢
          rw [Frame.decodeAll_of_some (Frame.decodeNext_append_of_some hnext)]
          obtain ⟨hframes, hsame⟩ := Frame.decodeAll_append_of_fault rest rear hfault
          exact ⟨congrArg (frame :: ·) hframes, hsame⟩
termination_by front.length

/-- Without a fault in its front, a buffer is decoded by decoding the front and going on with what
that left over. -/
theorem Frame.decodeAll_append (front : Bytes)
    (hfault : (Frame.decodeAll front max).fault = none) :
    Frame.decodeAll (front ++ rear) max =
      { Frame.decodeAll ((Frame.decodeAll front max).rest ++ rear) max with
        frames := (Frame.decodeAll front max).frames ++
          (Frame.decodeAll ((Frame.decodeAll front max).rest ++ rear) max).frames } := by
  cases hnext : Frame.decodeNext front max with
  | error other =>
      rw [Frame.decodeAll_of_error hnext] at hfault
      cases hfault
  | ok found =>
      cases found with
      | none =>
          rw [Frame.decodeAll_of_none hnext]
          rfl
      | some found =>
          obtain ⟨frame, rest⟩ := found
          have hshorter := Frame.length_lt_of_decodeNext hnext
          rw [Frame.decodeAll_of_some hnext] at hfault ⊢
          rw [Frame.decodeAll_of_some (Frame.decodeNext_append_of_some hnext),
            Frame.decodeAll_append rest hfault]
          rfl
termination_by front.length

namespace Stream

/-- The decoder on its buffer, which a frame leaves when it is whole. -/
def take (max : Nat) : BufferWork (Option Frame) := do
  match ← MonadExcept.ofExcept (Header.peek (← BufferWork.held)) with
  | none => return none
  | some header =>
    let length ← MonadExcept.ofExcept (header.checkedLength max)
    if (← BufferWork.held).length < Header.byteCount + length then
      return none
    else
      BufferWork.advance Header.byteCount
      let payload ← BufferWork.splitTo length
      return some (Frame.ofParts header payload)

/-- Only a frame that is returned is taken off the buffer. -/
theorem on_take (max : Nat) (buffer : Bytes) :
    (take max).on buffer =
      match Frame.decodeNext buffer max with
      | .error fault => (.error fault, buffer)
      | .ok none => (.ok none, buffer)
      | .ok (some (frame, rest)) => (.ok (some frame), rest) := by
  simp only [take, BufferWork.on_bind, BufferWork.on_held, BufferWork.on_ofExcept]
  cases hpeek : Header.peek buffer with
  | error fault => simp only [Frame.decodeNext, hpeek]
  | ok found =>
      cases found with
      | none => simp only [Frame.decodeNext, hpeek, BufferWork.on_pure]
      | some header =>
          have hlong := Header.byteCount_le_of_peek hpeek
          rw [Frame.decodeNext_of_peek hpeek, List.length_drop]
          simp only [BufferWork.on_bind, BufferWork.on_held, BufferWork.on_ofExcept]
          cases header.checkedLength max with
          | error fault => rfl
          | ok length =>
              by_cases hshort : buffer.length < Header.byteCount + length
              · have hless : buffer.length - Header.byteCount < length := by omega
                simp only [if_pos hshort, if_pos hless, BufferWork.on_pure]
              · have hless : ¬ buffer.length - Header.byteCount < length := by omega
                simp only [if_neg hshort, if_neg hless, BufferWork.on_bind,
                  BufferWork.on_advance, BufferWork.on_splitTo, BufferWork.on_pure]

/-- A round of decoding in place: frames are taken off the buffer until one of them is not whole or
a fault comes up. -/
inductive Round (max : Nat) : Bytes → Decoded → Prop
  | waits {buffer after : Bytes} (htake : (take max).on buffer = (.ok none, after)) :
      Round max buffer { frames := [], fault := none, rest := after }
  | fails {buffer after : Bytes} {fault : WireError}
      (htake : (take max).on buffer = (.error fault, after)) :
      Round max buffer { frames := [], fault := some fault, rest := after }
  | takes {buffer after : Bytes} {frame : Frame} {later : Decoded}
      (htake : (take max).on buffer = (.ok (some frame), after)) (hlater : Round max after later) :
      Round max buffer { later with frames := frame :: later.frames }

theorem round_decodeAll (buffer : Bytes) : Round max buffer (Frame.decodeAll buffer max) := by
  have htake := on_take max buffer
  cases hnext : Frame.decodeNext buffer max with
  | error fault =>
      rw [hnext] at htake
      rw [Frame.decodeAll_of_error hnext]
      exact .fails htake
  | ok found =>
      cases found with
      | none =>
          rw [hnext] at htake
          rw [Frame.decodeAll_of_none hnext]
          exact .waits htake
      | some found =>
          obtain ⟨frame, rest⟩ := found
          have hshorter := Frame.length_lt_of_decodeNext hnext
          rw [hnext] at htake
          rw [Frame.decodeAll_of_some hnext]
          exact .takes htake (round_decodeAll rest)
termination_by buffer.length

/-- A decoder that needs more bytes, or fails, keeps those that it has. -/
theorem eq_of_on_take {after : Bytes} {result : Except WireError (Option Frame)}
    (hnone : ∀ frame, result ≠ .ok (some frame)) (htake : (take max).on buffer = (result, after)) :
    after = buffer := by
  rw [on_take] at htake
  split at htake <;> cases htake
  · rfl
  · rfl
  · exact absurd rfl (hnone _)

/-- What the results of several chunks amount to: all the frames, the fault of the last result, and
the bytes that the last one left. Without results that is the buffer. -/
def gather (buffer : Bytes) (results : List Decoded) : Decoded where
  frames := results.flatMap Decoded.frames
  fault := results.getLast?.bind Decoded.fault
  rest := results.getLast?.elim buffer Decoded.rest

theorem gather_cons_of_fault_eq_none {first : Decoded} (results : List Decoded)
    (hfault : first.fault = none) :
    gather buffer (first :: results) =
      { gather first.rest results with
        frames := first.frames ++ (gather first.rest results).frames } := by
  cases results with
  | nil => simp [gather, hfault]
  | cons second results => simp [gather, List.getLast?_cons]

/-- The chunks of a stream, behind bytes that are not a frame yet, decoded one by one and in one
go: the frames and the fault are the same, and so are the bytes left over, unless a fault came up
in front of them. -/
theorem gather_feedChunks (chunks : List Bytes) (buffer : Bytes)
    (hbuffer : Frame.decodeNext buffer max = .ok none) :
    (gather buffer (feedChunks max buffer chunks)).frames =
        (Frame.decodeAll (buffer ++ chunks.flatten) max).frames ∧
      (gather buffer (feedChunks max buffer chunks)).fault =
        (Frame.decodeAll (buffer ++ chunks.flatten) max).fault ∧
      ((Frame.decodeAll (buffer ++ chunks.flatten) max).fault = none →
        (gather buffer (feedChunks max buffer chunks)).rest =
          (Frame.decodeAll (buffer ++ chunks.flatten) max).rest) := by
  induction chunks generalizing buffer with
  | nil =>
      rw [List.flatten_nil, List.append_nil, Frame.decodeAll_of_none hbuffer]
      exact ⟨rfl, rfl, fun _ => rfl⟩
  | cons chunk chunks ih =>
      rw [List.flatten_cons, ← List.append_assoc, feedChunks]
      cases hfault : (Frame.decodeAll (buffer ++ chunk) max).fault with
      | some fault =>
          obtain ⟨hframes, hsame⟩ := Frame.decodeAll_append_of_fault _ chunks.flatten hfault
          rw [hframes, hsame]
          refine ⟨?_, ?_, nofun⟩
          · simp [gather]
          · simp [gather, hfault]
      | none =>
          have hrest := Frame.decodeNext_rest_decodeAll _ hfault
          obtain ⟨hframes, hsame, hleft⟩ := ih _ hrest
          rw [Frame.decodeAll_append _ hfault]
          simp only [gather_cons_of_fault_eq_none _ hfault]
          exact ⟨congrArg (_ ++ ·) hframes, hsame, hleft⟩

/-- **Chunking does not matter.** However a byte string is cut into chunks, decoding after each
chunk finds the frames and the fault that decoding it from one buffer finds, and without a fault the
same bytes are left over. That is what comes of decoding in place. A decoder that needs more bytes,
or that fails, leaves the buffer as it is. -/
theorem feedChunks_eq_decodeAll (max : Nat) (bytes : Bytes) :
    (∀ chunks : List Bytes, chunks.flatten = bytes →
      (gather [] (feedChunks max [] chunks)).frames = (Frame.decodeAll bytes max).frames ∧
        (gather [] (feedChunks max [] chunks)).fault = (Frame.decodeAll bytes max).fault ∧
        ((Frame.decodeAll bytes max).fault = none →
          (gather [] (feedChunks max [] chunks)).rest = (Frame.decodeAll bytes max).rest)) ∧
      (Frame.decodeNext bytes max = .ok none →
        Frame.decodeAll bytes max = { frames := [], fault := none, rest := bytes }) ∧
      Round max bytes (Frame.decodeAll bytes max) ∧
      ∀ result after, (take max).on bytes = (result, after) →
        (∀ frame, result ≠ .ok (some frame)) → after = bytes := by
  refine ⟨?_, Frame.decodeAll_of_none, round_decodeAll bytes,
    fun result after htake hnone => eq_of_on_take hnone htake⟩
  rintro chunks rfl
  exact gather_feedChunks chunks [] rfl

/-- Two cuts, one inside a header and one inside a payload, and the first byte of a second frame. -/
theorem feedChunks_cut_in_header_and_payload :
    let chunks : List Bytes := [[0x21, 0, 0, 80, 0], [0, 0, 1, 0, 0, 0, 2, 0], [1, 0x11]]
    let opened : Frame := { port := 80, session := 1, body := .control .sessionOpen }
    (gather [] (feedChunks 2 [] chunks)).frames = [opened] ∧
      (gather [] (feedChunks 2 [] chunks)).fault = none ∧
      (gather [] (feedChunks 2 [] chunks)).rest = [0x11] := by
  intro chunks opened
  have hlast := (feedChunks_eq_decodeAll 2 [0x11]).2.1 rfl
  have hwhole : Frame.decodeAll chunks.flatten 2 =
      { frames := [opened], fault := none, rest := [0x11] } := by
    have hfirst : Frame.decodeNext chunks.flatten 2 = .ok (some (opened, [0x11])) := rfl
    rw [Frame.decodeAll_of_some hfirst, hlast]
  obtain ⟨hframes, hfault, hrest⟩ := (feedChunks_eq_decodeAll 2 chunks.flatten).1 chunks rfl
  rw [hwhole] at hframes hfault hrest
  exact ⟨hframes, hfault, hrest rfl⟩

end Stream

end SessionMux
