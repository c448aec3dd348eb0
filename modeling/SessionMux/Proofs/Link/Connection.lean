import Mathlib.Data.List.Basic
import SessionMux.Link.Connection

/-!
# What is read from a connection and written to it

Reading leaves alone what was written, and writing what is still to be read. A read takes bytes off
the front of the input (`Connection.input_of_read`), and a write that takes some of its bytes
appends just these to what was written.
-/

namespace SessionMux

def Arrival.bytes? : Arrival → Option Bytes
  | piece bytes => some bytes
  | failure _ | eof => none

namespace Connection

def input (connection : Connection) : Bytes :=
  (connection.arrivals.filterMap Arrival.bytes?).flatten

def consumed (before after : Connection) : Bytes :=
  before.input.take (before.input.length - after.input.length)

variable {connection next : Connection} {bytes datagram : Bytes}

theorem consumed_of_input (hinput : connection.input = bytes ++ next.input) :
    connection.consumed next = bytes := by
  rw [consumed, hinput, List.length_append, Nat.add_sub_cancel, List.take_left]

/-! ### Reading -/

@[simp]
theorem written_read (connection : Connection) (limit : Nat) :
    (connection.read limit).2.written = connection.written := by
  unfold read
  split <;> rfl

@[simp]
theorem shutdowns_read (connection : Connection) (limit : Nat) :
    (connection.read limit).2.shutdowns = connection.shutdowns := by
  unfold read
  split <;> rfl

@[simp]
theorem written_receive (connection : Connection) :
    connection.receive.2.written = connection.written := by
  unfold receive
  split <;> rfl

@[simp]
theorem shutdowns_receive (connection : Connection) :
    connection.receive.2.shutdowns = connection.shutdowns := by
  unfold receive
  split <;> rfl

def ReadResult.taken : ReadResult → Bytes
  | .bytes bytes => bytes
  | .waits | .eof | .failed _ => []

theorem input_of_read (connection : Connection) (limit : Nat) :
    connection.input =
      ReadResult.taken (connection.read limit).1 ++ (connection.read limit).2.input := by
  unfold read
  split
  · rfl
  · rfl
  · rename_i fault arrivals hrest
    have hfault : (Arrival.failure fault).bytes? = none := rfl
    simp [input, hrest, ReadResult.taken, hfault]
  · rename_i arrivals hrest
    simp [input, hrest, ReadResult.taken, Arrival.bytes?]
  · rename_i bytes arrivals hne hrest
    have hbytes : bytes.take limit ++ bytes.drop limit = bytes := List.take_append_drop limit bytes
    dsimp only [ReadResult.taken]
    split
    · rename_i hempty
      rw [List.isEmpty_iff.mp hempty, List.append_nil] at hbytes
      simp [input, hrest, Arrival.bytes?, hbytes]
    · simp only [input, hrest, Arrival.bytes?, List.filterMap_cons, List.flatten_cons]
      rw [← List.append_assoc, hbytes]

/-- A read with room for at least one byte takes at least one byte, and no more than there is room
for. -/
theorem bounds_of_read {limit : Nat} (hlimit : 1 ≤ limit)
    (hread : connection.read limit = (.bytes bytes, next)) :
    bytes ≠ [] ∧ bytes.length ≤ limit := by
  unfold read at hread
  split at hread
  · cases hread
  · cases hread
  · cases hread
  · cases hread
  · rename_i piece arrivals hne hrest
    obtain ⟨hbytes, -⟩ := Prod.mk.inj hread
    cases hbytes
    refine ⟨?_, List.length_take_le _ _⟩
    rw [Ne, List.take_eq_nil_iff]
    rintro (hzero | rfl)
    · omega
    · exact hne rfl

def ReadResult.IsLast : ReadResult → Prop
  | .eof | .failed _ => True
  | .waits | .bytes _ => False

/-! ### Writing -/

@[simp]
theorem arrivals_write (connection : Connection) (bytes : Bytes) :
    (connection.write bytes).2.arrivals = connection.arrivals := by
  unfold write
  split
  · rfl
  · split <;> rfl

@[simp]
theorem arrivals_send (connection : Connection) (datagram : Bytes) :
    (connection.send datagram).2.arrivals = connection.arrivals := by
  unfold send
  split
  · rfl
  · split <;> rfl

@[simp]
theorem shutdowns_write (connection : Connection) (bytes : Bytes) :
    (connection.write bytes).2.shutdowns = connection.shutdowns := by
  unfold write
  split
  · rfl
  · split <;> rfl

def WriteResult.count : WriteResult → Nat
  | .took count => count
  | .waits | .failed _ => 0

/-- Whether a write has failed, be it by taking nothing. -/
def WriteResult.IsBroken : WriteResult → Prop
  | .failed _ | .took 0 => True
  | .waits | .took _ => False

/-- However a write fares, it appends to what was written just the bytes that it takes. -/
theorem written_write (connection : Connection) (bytes : Bytes) :
    (connection.write bytes).2.written.flatten =
      connection.written.flatten ++ bytes.take (WriteResult.count (connection.write bytes).1) := by
  unfold write
  split
  · simp [WriteResult.count]
  · split <;> simp [WriteResult.count]

theorem written_of_write {result : WriteResult}
    (hwrite : connection.write bytes = (result, next)) :
    next.written.flatten = connection.written.flatten ++ bytes.take (WriteResult.count result) := by
  have hwritten := connection.written_write bytes
  rw [hwrite] at hwritten
  exact hwritten

theorem eq_of_waits (hwrite : connection.write bytes = (.waits, next)) : next = connection := by
  unfold write at hwrite
  split at hwrite
  · cases hwrite
  · split at hwrite <;> cases hwrite
    rfl

theorem consumed_of_write {result : WriteResult}
    (hwrite : connection.write bytes = (result, next)) : connection.consumed next = [] := by
  have harrivals := connection.arrivals_write bytes
  rw [hwrite] at harrivals
  refine consumed_of_input ?_
  rw [input, input, harrivals, List.nil_append]

structure SameBytes (before after : Connection) : Prop where
  input : before.input = after.input
  written : before.written.flatten = after.written.flatten

namespace SameBytes

theorem refl (connection : Connection) : connection.SameBytes connection where
  input := rfl
  written := rfl

theorem consumed (h : connection.SameBytes next) : connection.consumed next = [] :=
  consumed_of_input h.input

theorem shutdown (connection : Connection) : connection.SameBytes connection.shutdown.2 where
  input := rfl
  written := rfl

theorem of_read {limit : Nat} (hnone : ReadResult.taken (connection.read limit).1 = []) :
    connection.SameBytes (connection.read limit).2 := by
  constructor
  · rw [connection.input_of_read limit, hnone, List.nil_append]
  · rw [written_read]

theorem of_write (hnone : WriteResult.count (connection.write bytes).1 = 0) :
    connection.SameBytes (connection.write bytes).2 := by
  constructor
  · simp only [Connection.input, arrivals_write]
  · rw [written_write, hnone, List.take_zero, List.append_nil]

end SameBytes

end Connection

end SessionMux
