import SessionMux.Link.StreamReader
import SessionMux.Proofs.Link.Connection
import SessionMux.Proofs.Wire.Chunking

/-!
# What a byte stream says

`Stream.reading` is what there is to find in the bytes of a stream: the frames that decoding them
from the front yields, up to the first fault, and how the stream ends, as far as it has arrived. It
does not depend on how the stream is cut into pieces or on how much of it is read at a time. What a
reader has in its buffer and what is still to be read say the same together, whatever it reads next
(`Stream.reading_of_read`), and a frame that it decodes is the next one
(`Stream.reading_of_frame`).
-/

namespace SessionMux

/-- The bytes of a stream, and how it ends if it does. An empty piece reads like the end. -/
def Arrival.stream : List Arrival → Bytes × Option (Except Fault Unit)
  | [] => ([], none)
  | .piece [] :: _ | .eof :: _ => ([], some (.ok ()))
  | .failure fault :: _ => ([], some (.error fault))
  | .piece (byte :: bytes) :: arrivals =>
    let (later, ending) := stream arrivals
    (byte :: bytes ++ later, ending)

theorem Arrival.stream_piece {bytes : Bytes} (hbytes : bytes ≠ []) (arrivals : List Arrival) :
    stream (.piece bytes :: arrivals) =
      (bytes ++ (stream arrivals).1, (stream arrivals).2) := by
  obtain _ | ⟨byte, bytes⟩ := bytes
  · exact absurd rfl hbytes
  · rfl

structure StreamReading where
  frames : List Frame
  ending : Option (Except WireError Unit)

namespace Stream

/-- How a stream ends whose bytes were decoded. A fault in the bytes comes before the end. -/
def ending (decoded : Decoded) (ended : Option (Except Fault Unit)) :
    Option (Except WireError Unit) :=
  match decoded.fault, ended with
  | some fault, _ => some (.error fault)
  | none, some (.ok ()) => some (finish decoded.rest)
  | none, some (.error fault) => some (.error (.io fault))
  | none, none => none

/-- What a stream says whose first bytes are in a buffer. -/
def reading (max : Nat) (buffer : Bytes) (arrivals : List Arrival) : StreamReading where
  frames := (Frame.decodeAll (buffer ++ (Arrival.stream arrivals).1) max).frames
  ending :=
    ending (Frame.decodeAll (buffer ++ (Arrival.stream arrivals).1) max) (Arrival.stream arrivals).2

variable {max : Nat} {buffer : Bytes} {connection next : Connection}

theorem reading_of_frame {frame : Frame} {rest : Bytes}
    (hnext : Frame.decodeNext buffer max = .ok (some (frame, rest))) (arrivals : List Arrival) :
    reading max buffer arrivals =
      { reading max rest arrivals with frames := frame :: (reading max rest arrivals).frames } := by
  rw [reading, Frame.decodeAll_of_some (Frame.decodeNext_append_of_some hnext)]
  rfl

theorem reading_of_fault {fault : WireError} (hnext : Frame.decodeNext buffer max = .error fault)
    (arrivals : List Arrival) :
    reading max buffer arrivals = { frames := [], ending := some (.error fault) } := by
  rw [reading, Frame.decodeAll_of_error (Frame.decodeNext_append_of_error hnext)]
  rfl

/-- Bytes can be in the buffer or still to be read. -/
theorem reading_congr {arrivals arrivals' : List Arrival} {buffer' : Bytes}
    (hbytes : buffer ++ (Arrival.stream arrivals).1 = buffer' ++ (Arrival.stream arrivals').1)
    (hended : (Arrival.stream arrivals).2 = (Arrival.stream arrivals').2) :
    reading max buffer arrivals = reading max buffer' arrivals' := by
  rw [reading, reading, hbytes, hended]

theorem reading_of_read {limit : Nat} {bytes : Bytes}
    (hread : connection.read limit = (.bytes bytes, next)) (more : List Arrival) :
    reading max buffer (connection.arrivals ++ more) =
      reading max (buffer ++ bytes) (next.arrivals ++ more) := by
  unfold Connection.read at hread
  split at hread <;> cases hread
  rename_i piece arrivals hne hrest
  have hpiece : piece ≠ [] := fun heq => hne (heq ▸ rfl)
  have hwhole : piece.take limit ++ piece.drop limit = piece := List.take_append_drop limit piece
  rw [hrest, List.cons_append]
  refine reading_congr ?_ ?_ <;> rw [Arrival.stream_piece hpiece]
  · split
    · rename_i hempty
      rw [List.isEmpty_iff.mp hempty, List.append_nil] at hwhole
      simp only [hwhole, List.append_assoc]
    · rename_i hleft
      rw [List.isEmpty_iff] at hleft
      rw [List.cons_append, Arrival.stream_piece hleft, List.append_assoc,
        ← List.append_assoc (piece.take limit), hwhole]
  · split
    · rfl
    · rename_i hleft
      rw [List.isEmpty_iff] at hleft
      rw [List.cons_append, Arrival.stream_piece hleft]

theorem reading_of_eof {limit : Nat} (hnext : Frame.decodeNext buffer max = .ok none)
    (hread : connection.read limit = (.eof, next)) (more : List Arrival) :
    reading max buffer (connection.arrivals ++ more) =
      { frames := [], ending := some (finish buffer) } := by
  have hdecoded := Frame.decodeAll_of_none hnext
  unfold Connection.read at hread
  split at hread <;> cases hread <;> rename_i hrest <;> rw [hrest, List.cons_append] <;>
    simp [reading, Arrival.stream, hdecoded, ending]

theorem reading_of_failed {limit : Nat} {fault : Fault}
    (hnext : Frame.decodeNext buffer max = .ok none)
    (hread : connection.read limit = (.failed fault, next)) (more : List Arrival) :
    reading max buffer (connection.arrivals ++ more) =
      { frames := [], ending := some (.error (.io fault)) } := by
  have hdecoded := Frame.decodeAll_of_none hnext
  unfold Connection.read at hread
  split at hread <;> cases hread
  rename_i hrest
  rw [hrest, List.cons_append]
  simp [reading, Arrival.stream, hdecoded, ending]

theorem reading_of_empty (hnext : Frame.decodeNext buffer max = .ok none) :
    reading max buffer [] = { frames := [], ending := none } := by
  have hdecoded := Frame.decodeAll_of_none hnext
  simp [reading, Arrival.stream, hdecoded, ending]

theorem arrivals_of_waits {limit : Nat} (hread : connection.read limit = (.waits, next)) :
    connection.arrivals = [] ∧ next = connection := by
  unfold Connection.read at hread
  split at hread <;> cases hread
  rename_i hrest
  exact ⟨hrest, rfl⟩

/-- A fault that decoding finds is never one of the connection, and has the code of the protocol. -/
theorem errorCode_of_decodeNext {fault : WireError}
    (hnext : Frame.decodeNext buffer max = .error fault) : fault.errorCode = .protocol := by
  unfold Frame.decodeNext at hnext
  split at hnext
  · rename_i failure hpeek
    cases hnext
    unfold Header.peek at hpeek
    split at hpeek
    · split at hpeek
      · cases hpeek
        rfl
      · split at hpeek
        · rename_i hop
          cases hpeek
          unfold OpType.ofNumber at hop
          split at hop <;> cases hop
          rfl
        · split at hpeek <;> cases hpeek
          rfl
    · cases hpeek
  · cases hnext
  · split at hnext
    · rename_i failure hlength
      cases hnext
      unfold Header.checkedLength at hlength
      simp only at hlength
      split at hlength
      · cases hlength
        rfl
      · split at hlength <;> cases hlength
        rfl
    · simp only at hnext
      split at hnext <;> cases hnext

theorem errorCode_of_decodeAll {fault : WireError} (bytes : Bytes)
    (hfault : (Frame.decodeAll bytes max).fault = some fault) : fault.errorCode = .protocol := by
  cases hnext : Frame.decodeNext bytes max with
  | error other =>
      rw [Frame.decodeAll_of_error hnext] at hfault
      cases hfault
      exact errorCode_of_decodeNext hnext
  | ok found =>
      cases found with
      | none =>
          rw [Frame.decodeAll_of_none hnext] at hfault
          cases hfault
      | some found =>
          obtain ⟨frame, rest⟩ := found
          have hshorter := Frame.length_lt_of_decodeNext hnext
          rw [Frame.decodeAll_of_some hnext] at hfault
          exact errorCode_of_decodeAll rest hfault
termination_by bytes.length

end Stream

/-! ### The reader -/

namespace StreamReader

def Act.frame? : Act → Option Frame
  | passes frame => some frame
  | concludes _ | leaves => none

theorem Act.frame?_eq_some_iff {act : Act} {frame : Frame} :
    act.frame? = some frame ↔ act = .passes frame := by
  cases act <;> simp [frame?]

/-- A reader that hands over a frame goes on, and one that found the end of the stream ends. -/
theorem turn_read (eager closed : Bool) (max : Nat) (connection : Connection) (buffer : Bytes) :
    match read eager closed max connection buffer with
    | (turn, .passes _, _) => ∃ rest, turn = .goes rest
    | (turn, .concludes _, _) => turn = .ends ()
    | (_, .leaves, _) => True := by
  rw [read]
  cases closed && !eager with
  | true => trivial
  | false =>
      rcases Frame.decodeNext buffer max with failure | _ | ⟨frame, rest⟩
      · rfl
      · rcases connection.read readLimit with ⟨_ | bytes | _ | fault, after⟩
        · trivial
        · trivial
        · rfl
        · rfl
      · exact ⟨rest, rfl⟩

inductive Reads (max : Nat) (connection : Connection) (buffer : Bytes) :
    Turn Bytes Unit × Act × Connection → Prop
  | passes {frame : Frame} {rest : Bytes}
      (hnext : Frame.decodeNext buffer max = .ok (some (frame, rest))) :
      Reads max connection buffer (.goes rest, .passes frame, connection)
  | reads {bytes : Bytes} {after : Connection} (hnext : Frame.decodeNext buffer max = .ok none)
      (hread : connection.read readLimit = (.bytes bytes, after)) :
      Reads max connection buffer (.goes (buffer ++ bytes), .leaves, after)
  | waits (hnext : Frame.decodeNext buffer max = .ok none) (hempty : connection.arrivals = []) :
      Reads max connection buffer (.waits buffer, .leaves, connection)
  | ends (verdict : Except WireError Unit) {after : Connection}
      (hsaid : ∀ more, Stream.reading max buffer (connection.arrivals ++ more) =
        { frames := [], ending := some verdict }) :
      Reads max connection buffer (.ends (), .concludes verdict, after)

theorem reads_read (eager : Bool) (max : Nat) (connection : Connection) (buffer : Bytes) :
    Reads max connection buffer (read eager false max connection buffer) := by
  rw [read, Bool.false_and, if_neg Bool.false_ne_true]
  cases hnext : Frame.decodeNext buffer max with
  | error failure => exact .ends _ fun more => Stream.reading_of_fault hnext _
  | ok found =>
      rcases found with _ | ⟨frame, rest⟩
      · rcases hread : connection.read readLimit with ⟨_ | bytes | _ | fault, after⟩
        · obtain ⟨hempty, rfl⟩ := Stream.arrivals_of_waits hread
          exact .waits hnext hempty
        · exact .reads hnext hread
        · exact .ends _ (Stream.reading_of_eof hnext hread)
        · exact .ends _ (Stream.reading_of_failed hnext hread)
      · exact .passes hnext

end StreamReader

end SessionMux
