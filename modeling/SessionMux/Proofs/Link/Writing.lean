import SessionMux.Link.Datagrams
import SessionMux.Link.StreamWriter
import SessionMux.Proofs.Channel.Deeds
import SessionMux.Proofs.Link.Connection

/-!
# What a writer does with the frames that it takes

The frames that were put into the queue, in order, are those that were handed to the connection,
then the one that the writer has in hand, if it has one, and then those that are still in the queue.
Of the bytes that were handed to a stream, some may not have been taken yet. Each section of a
writer's work keeps these accounts (`StreamWriter.shipped_step`, `DatagramWriter.sent_step`),
however much of its bytes a write takes. A writer that gives up leaves frames behind, and does not
touch the accounts any more.
-/

namespace SessionMux

def Frame.bytes (frame : Frame) : Bytes := frame.encode.toOption.getD []

theorem Frame.encode_of_append {max : Nat} {frame : Frame} {bytes : Bytes}
    (happend : Stream.append max frame [] = .ok bytes) :
    frame.encode = .ok frame.bytes ∧ frame.bytes = bytes := by
  unfold Stream.append at happend
  split at happend
  · cases happend
  · split at happend <;> cases happend
    rename_i hencode
    rw [Frame.bytes, hencode]
    exact ⟨rfl, rfl⟩

namespace Channel

variable {channel next : Channel}

theorem frames_fail (channel : Channel) (code : ErrorCode) (message : String) :
    (channel.fail code message).outbox.frames = channel.outbox.frames := by
  cases hopen : channel.closed with
  | true => rw [fail, if_pos hopen]
  | false =>
      have hledger : (channel.fail code message).ledger [] = _ := ledger_fail hopen code message
      exact (congrArg Ledger.frames hledger).trans (Ledger.queue_close _).1

theorem frames_takeFrame? {frame : Frame} (htake : channel.takeFrame? = some (frame, next)) :
    channel.outbox.frames = frame :: next.outbox.frames := by
  obtain ⟨hframes, -⟩ : _ ∧ next.ledger [] = _ := ledger_takeFrame? htake
  exact hframes

end Channel

/-! ### Streams -/

/-- Some of the frames that were posted have been handed to a stream, which has taken all of their
bytes but those that are pending. -/
def Shipped (posted later : List Frame) (written pending : Bytes) : Prop :=
  ∃ shipped, posted = shipped ++ later ∧ (∀ frame ∈ shipped, frame.encode = .ok frame.bytes) ∧
    written ++ pending = (shipped.map Frame.bytes).flatten

namespace Shipped

variable {posted later : List Frame} {written pending : Bytes}

theorem post (h : Shipped posted later written pending) (more : List Frame) :
    Shipped (posted ++ more) (later ++ more) written pending := by
  obtain ⟨shipped, rfl, hshipped, hbytes⟩ := h
  exact ⟨shipped, List.append_assoc _ _ _, hshipped, hbytes⟩

theorem encode {max : Nat} {frame : Frame} {bytes : Bytes}
    (h : Shipped posted (frame :: later) written [])
    (happend : Stream.append max frame [] = .ok bytes) : Shipped posted later written bytes := by
  obtain ⟨hencode, hsame⟩ := Frame.encode_of_append happend
  obtain ⟨shipped, rfl, hshipped, hbytes⟩ := h
  refine ⟨shipped ++ [frame], (List.append_assoc shipped [frame] later).symm,
    fun other hmem => ?_, ?_⟩
  · obtain hmem | hmem := List.mem_append.mp hmem
    · exact hshipped other hmem
    · rw [List.mem_singleton.mp hmem]
      exact hencode
  · rw [List.append_nil] at hbytes
    rw [List.map_append, List.flatten_append, ← hbytes, List.map_singleton,
      hsame, List.flatten_singleton]

theorem write {connection after : Connection} {result : WriteResult}
    (h : Shipped posted later connection.written.flatten pending)
    (hwrite : connection.write pending = (result, after)) :
    Shipped posted later after.written.flatten
      (pending.drop (Connection.WriteResult.count result)) := by
  obtain ⟨shipped, hposted, hshipped, hbytes⟩ := h
  refine ⟨shipped, hposted, hshipped, ?_⟩
  rw [Connection.written_of_write hwrite, List.append_assoc, List.take_append_drop, hbytes]

end Shipped

namespace StreamWriter

def pending : StreamWriter → Bytes
  | idle | holding _ => []
  | flushing pending | closing pending => pending

/-- The frames that a writer is still to hand to the stream, when `frames` are in the queue. One
that is about to shut the stream down hands it no more. -/
def Expects (frames later : List Frame) : StreamWriter → Prop
  | idle | flushing _ => later = frames
  | holding frame => later = frame :: frames
  | closing _ => True

theorem Expects.post {writer : StreamWriter} {frames later : List Frame}
    (h : writer.Expects frames later) (more : List Frame) :
    writer.Expects (frames ++ more) (later ++ more) := by
  cases writer with
  | idle | flushing | holding =>
      obtain rfl := h
      rfl
  | closing => trivial

def Keeps (posted : List Frame) : Turn StreamWriter Unit × Channel × Connection → Prop
  | (.waits writer, channel, connection) | (.goes writer, channel, connection) =>
    (∃ later, Shipped posted later connection.written.flatten writer.pending ∧
      writer.Expects channel.outbox.frames later) ∧ connection.shutdowns = 0
  | (.ends (), _, connection) =>
    ∃ later pending, Shipped posted later connection.written.flatten pending ∧
      (0 < connection.shutdowns → pending = [])

variable {channel : Channel} {connection : Connection} {posted later : List Frame}

theorem shipped_step (writer : StreamWriter)
    (h : Shipped posted later connection.written.flatten writer.pending)
    (hlater : writer.Expects channel.outbox.frames later) (hshut : connection.shutdowns = 0) :
    Keeps posted (writer.step channel connection) := by
  have hwritten {pending : Bytes} {result : WriteResult} {after : Connection}
      (h : Shipped posted later connection.written.flatten pending)
      (hwrite : connection.write pending = (result, after)) :
      Shipped posted later after.written.flatten
          (pending.drop (Connection.WriteResult.count result)) ∧ after.shutdowns = 0 := by
    have hstill := connection.shutdowns_write pending
    rw [hwrite] at hstill
    exact ⟨h.write hwrite, hstill.trans hshut⟩
  cases writer with
  | idle =>
      rw [step]
      split
      · exact ⟨⟨later, h, trivial⟩, hshut⟩
      · split
        · exact ⟨⟨later, h, hlater⟩, hshut⟩
        · rename_i htake
          obtain rfl := hlater
          exact ⟨⟨_, h, Channel.frames_takeFrame? htake⟩, hshut⟩
  | holding frame =>
      obtain rfl := hlater
      rw [step]
      split
      · exact ⟨⟨_, h, trivial⟩, hshut⟩
      · split
        · exact ⟨⟨_, h, trivial⟩, hshut⟩
        · rename_i happend
          exact ⟨⟨_, h.encode happend, rfl⟩, hshut⟩
  | flushing pending =>
      rw [step]
      split
      · exact ⟨⟨later, h, trivial⟩, hshut⟩
      · split
        · rename_i hempty
          rw [List.isEmpty_iff] at hempty
          subst hempty
          split <;> exact ⟨⟨later, h, hlater⟩, hshut⟩
        · split <;> rename_i hwrite <;> obtain ⟨hafter, hstill⟩ := hwritten h hwrite
          · exact ⟨⟨later, hafter, hlater⟩, hstill⟩
          · exact ⟨⟨later, hafter, trivial⟩, hstill⟩
          · exact ⟨⟨later, hafter, trivial⟩, hstill⟩
          · exact ⟨⟨later, hafter, hlater⟩, hstill⟩
  | closing pending =>
      rw [step]
      split
      · rename_i hempty
        rw [List.isEmpty_iff] at hempty
        subst hempty
        rw [Connection.close?]
        cases connection.lingers with
        | true => exact ⟨⟨later, h, trivial⟩, hshut⟩
        | false => exact ⟨later, [], h, fun _ => rfl⟩
      · have hnever {count : Nat} {rest : Bytes} (hstill : count = 0) (hpositive : 0 < count) :
            rest = [] := absurd hstill (Nat.ne_of_gt hpositive)
        split <;> rename_i hwrite <;> obtain ⟨hafter, hstill⟩ := hwritten h hwrite
        · exact ⟨⟨later, hafter, trivial⟩, hstill⟩
        · exact ⟨later, _, hafter, hnever hstill⟩
        · exact ⟨later, _, hafter, hnever hstill⟩
        · exact ⟨⟨later, hafter, trivial⟩, hstill⟩

/-- A writer puts nothing into the queue. -/
theorem frames_step (writer : StreamWriter) (channel : Channel) (connection : Connection) :
    (writer.step channel connection).2.1.outbox.frames <:+ channel.outbox.frames := by
  have hfail (failure : WireError) : (failWith channel failure).outbox.frames <:+
      channel.outbox.frames := by
    rw [failWith, Channel.frames_fail]
  cases writer with
  | idle =>
      rw [step]
      split
      · exact List.suffix_rfl
      · split
        · exact List.suffix_rfl
        · rename_i htake
          rw [Channel.frames_takeFrame? htake]
          exact List.suffix_cons _ _
  | holding frame =>
      rw [step]
      split
      · exact List.suffix_rfl
      · split
        · exact hfail _
        · exact List.suffix_rfl
  | flushing pending =>
      rw [step]
      split
      · exact List.suffix_rfl
      · split
        · split <;> exact List.suffix_rfl
        · split
          · exact List.suffix_rfl
          · exact hfail _
          · exact hfail _
          · exact List.suffix_rfl
  | closing pending =>
      rw [step]
      split <;> split <;> exact List.suffix_rfl

end StreamWriter

/-! ### Datagrams -/

def Sent (posted later : List Frame) (written : List Bytes) : Prop :=
  ∃ sent, posted = sent ++ later ∧ sent.map Frame.encode = written.map .ok

theorem Sent.post {posted later : List Frame} {written : List Bytes}
    (h : Sent posted later written) (more : List Frame) :
    Sent (posted ++ more) (later ++ more) written := by
  obtain ⟨sent, rfl, hwritten⟩ := h
  exact ⟨sent, List.append_assoc _ _ _, hwritten⟩

theorem Sent.send {posted later : List Frame} {written : List Bytes} {frame : Frame}
    {datagram : Bytes} (h : Sent posted (frame :: later) written)
    (hencode : frame.encode = .ok datagram) : Sent posted later (written ++ [datagram]) := by
  obtain ⟨sent, rfl, hwritten⟩ := h
  refine ⟨sent ++ [frame], (List.append_assoc sent [frame] later).symm, ?_⟩
  rw [List.map_append, List.map_append, hwritten, List.map_singleton, List.map_singleton, hencode]

namespace DatagramWriter

def Expects (frames later : List Frame) : DatagramWriter → Prop
  | idle => later = frames
  | holding frame => later = frame :: frames
  | sending datagram => ∃ frame, frame.encode = .ok datagram ∧ later = frame :: frames

theorem Expects.post {writer : DatagramWriter} {frames later : List Frame}
    (h : writer.Expects frames later) (more : List Frame) :
    writer.Expects (frames ++ more) (later ++ more) := by
  cases writer with
  | idle | holding =>
      obtain rfl := h
      rfl
  | sending datagram =>
      obtain ⟨frame, hencode, rfl⟩ := h
      exact ⟨frame, hencode, rfl⟩

def Keeps (posted : List Frame) : Turn DatagramWriter Unit × Channel × Connection → Prop
  | (.waits writer, channel, connection) | (.goes writer, channel, connection) =>
    ∃ later, Sent posted later connection.written ∧ writer.Expects channel.outbox.frames later
  | (.ends (), _, connection) => ∃ later, Sent posted later connection.written

variable {channel : Channel} {connection : Connection} {posted later : List Frame}

/-- A datagram is sent whole or not at all. -/
theorem written_send (connection : Connection) (datagram : Bytes) :
    (∃ count after, connection.send datagram = (.took count, after) ∧
        after.written = connection.written ++ [datagram]) ∨
      (connection.send datagram).2.written = connection.written ∧
        ∀ count, (connection.send datagram).1 ≠ .took count := by
  unfold Connection.send
  split
  · exact .inr ⟨rfl, nofun⟩
  · split
    · exact .inr ⟨rfl, nofun⟩
    · exact .inl ⟨_, _, rfl, rfl⟩

theorem sent_step (writer : DatagramWriter) (h : Sent posted later connection.written)
    (hlater : writer.Expects channel.outbox.frames later) :
    Keeps posted (writer.step channel connection) := by
  cases writer with
  | idle =>
      obtain rfl := hlater
      rw [step]
      split
      · exact ⟨_, h⟩
      · split
        · exact ⟨_, h, rfl⟩
        · rename_i htake
          exact ⟨_, h, Channel.frames_takeFrame? htake⟩
  | holding frame =>
      obtain rfl := hlater
      rw [step]
      split
      · exact ⟨_, h⟩
      · rename_i hencode
        exact ⟨_, h, frame, hencode, rfl⟩
  | sending datagram =>
      obtain ⟨frame, hencode, rfl⟩ := hlater
      rw [step]
      obtain ⟨count, after, hsend, hwritten⟩ | ⟨hwritten, hnever⟩ :=
        written_send connection datagram
      · rw [hsend]
        refine ⟨_, ?_, rfl⟩
        rw [hwritten]
        exact h.send hencode
      · split <;> rename_i hsend <;> rw [hsend] at hwritten hnever
        · refine ⟨_, ?_, frame, hencode, rfl⟩
          rw [hwritten]
          exact h
        · exact absurd rfl (hnever _)
        · refine ⟨frame :: channel.outbox.frames, ?_⟩
          rw [hwritten]
          exact h

theorem frames_step (writer : DatagramWriter) (channel : Channel) (connection : Connection) :
    (writer.step channel connection).2.1.outbox.frames <:+ channel.outbox.frames := by
  cases writer with
  | idle =>
      rw [step]
      split
      · exact List.suffix_rfl
      · split
        · exact List.suffix_rfl
        · rename_i htake
          rw [Channel.frames_takeFrame? htake]
          exact List.suffix_cons _ _
  | holding frame =>
      rw [step]
      split
      · rw [Channel.frames_fail]
      · exact List.suffix_rfl
  | sending datagram =>
      rw [step]
      split
      · exact List.suffix_rfl
      · exact List.suffix_rfl
      · rw [Channel.frames_fail]

end DatagramWriter

end SessionMux
