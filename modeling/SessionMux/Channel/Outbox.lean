import SessionMux.Channel.Config

/-!
The outbound queue of a channel. It has a fixed number of places. A place is taken by a frame, or
granted to a caller who is about to put one there; callers who find no place free wait and are
served first come, first served.
-/

namespace SessionMux

abbrev Caller := Nat

structure Outbox where
  capacity : Nat
  /-- The frames that wait to be written, the next one first. -/
  frames : List Frame
  /-- Callers who have a place and no frame in it yet. -/
  granted : List Caller
  /-- Callers who wait for a place, the next one first. -/
  waiting : List Caller
  draining : Bool
  deriving Repr, DecidableEq, Inhabited

namespace Outbox

def create (capacity : Nat) : Outbox :=
  { capacity, frames := [], granted := [], waiting := [], draining := true }

/-- The number of places that are neither taken nor granted. -/
def free (outbox : Outbox) : Nat :=
  outbox.capacity - outbox.frames.length - outbox.granted.length

def grantFree (outbox : Outbox) : Outbox :=
  { outbox with
    granted := outbox.granted ++ outbox.waiting.take outbox.free
    waiting := outbox.waiting.drop outbox.free }

def request (outbox : Outbox) (caller : Caller) : Outbox :=
  if outbox.free > 0 then { outbox with granted := outbox.granted ++ [caller] }
  else { outbox with waiting := outbox.waiting ++ [caller] }

inductive Reservation
  | granted
  | waiting
  | refused
  deriving Repr, DecidableEq, Inhabited

/-- Asks for a place, or asks again how the request stands. -/
def reserve (outbox : Outbox) (caller : Caller) : Reservation × Outbox :=
  if !outbox.draining then (.refused, outbox)
  else if outbox.granted.contains caller then (.granted, outbox)
  else if outbox.waiting.contains caller then (.waiting, outbox)
  else (if outbox.free > 0 then .granted else .waiting, outbox.request caller)

def release (outbox : Outbox) (caller : Caller) : Outbox :=
  grantFree
    { outbox with
      granted := outbox.granted.filter (· ≠ caller)
      waiting := outbox.waiting.filter (· ≠ caller) }

def fill (outbox : Outbox) (caller : Caller) (frame : Frame) : Outbox :=
  { outbox with
    granted := outbox.granted.filter (· ≠ caller)
    frames := if outbox.draining then outbox.frames ++ [frame] else outbox.frames }

/-- Puts a frame into a free place, without a grant. -/
def push (outbox : Outbox) (frame : Frame) : Outbox :=
  { outbox with frames := outbox.frames ++ [frame] }

/-- Takes the next frame out; its place goes to the first who waits. -/
def take? (outbox : Outbox) : Option (Frame × Outbox) :=
  match outbox.frames with
  | [] => none
  | frame :: frames => some (frame, grantFree { outbox with frames })

/-- Nobody takes frames any more: what is queued is lost, and nobody has or waits for a place. -/
def abandon (outbox : Outbox) : Outbox :=
  { outbox with frames := [], granted := [], waiting := [], draining := false }

end Outbox

end SessionMux
