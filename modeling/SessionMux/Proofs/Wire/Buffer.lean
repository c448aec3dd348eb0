import SessionMux.Bytes
import SessionMux.Wire.Error

/-!
# Work on a buffer

Encoders and decoders work in place, on a buffer that they do not own: an encoder appends to it, a
decoder takes bytes off its front. Such work can fail, and what was done to the buffer until then is
not undone. What each step does to a buffer is said once, by a simp lemma about `BufferWork.on`.
-/

namespace SessionMux

abbrev BufferWork := ExceptT WireError (StateM Bytes)

namespace BufferWork

variable {α β : Type}

/-- What comes of the work, and the buffer behind it. -/
def on (work : BufferWork α) (buffer : Bytes) : Except WireError α × Bytes :=
  StateT.run (ExceptT.run work) buffer

def held : BufferWork Bytes := get

def put (bytes : Bytes) : BufferWork Unit := modify (· ++ bytes)

def advance (count : Nat) : BufferWork Unit := modify (·.drop count)

def splitTo (count : Nat) : BufferWork Bytes :=
  modifyGet fun buffer => (buffer.take count, buffer.drop count)

@[simp]
theorem on_pure (value : α) (buffer : Bytes) : on (pure value) buffer = (.ok value, buffer) := rfl

@[simp]
theorem on_ofExcept (result : Except WireError α) (buffer : Bytes) :
    on (MonadExcept.ofExcept result) buffer = (result, buffer) := by
  cases result <;> rfl

@[simp]
theorem on_held (buffer : Bytes) : held.on buffer = (.ok buffer, buffer) := rfl

@[simp]
theorem on_put (bytes buffer : Bytes) : (put bytes).on buffer = (.ok (), buffer ++ bytes) := rfl

@[simp]
theorem on_advance (count : Nat) (buffer : Bytes) :
    (advance count).on buffer = (.ok (), buffer.drop count) := rfl

@[simp]
theorem on_splitTo (count : Nat) (buffer : Bytes) :
    (splitTo count).on buffer = (.ok (buffer.take count), buffer.drop count) := rfl

theorem on_bind (first : BufferWork α) (next : α → BufferWork β) (buffer : Bytes) :
    (first >>= next).on buffer =
      match first.on buffer with
      | (.ok value, after) => (next value).on after
      | (.error fault, after) => (.error fault, after) := by
  unfold on ExceptT.run StateT.run
  simp only [bind, ExceptT.bind, ExceptT.mk, StateT.bind, ExceptT.bindCont]
  cases first buffer with
  | mk result after => cases result <;> rfl

end BufferWork

end SessionMux
