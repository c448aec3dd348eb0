import Mathlib.Data.List.Basic
import SessionMux.Channel.Endpoint
import SessionMux.Channel.Sessions

/-!
# One session at one end

A lane is what one end of a connection holds of one session. Whatever an end does is seen on a lane
as one of few steps: those that begin with the end itself, `Lane.Works`, and those by which it hears
a frame of its peer, `Lane.Receives`. Each puts at most one frame into the outbound queue. The queue
belongs to no lane, since a frame in it is on its way between two of them.
-/

namespace SessionMux

def Frame.payload? (frame : Frame) : Option Bytes :=
  match frame.body with
  | .data payload => some payload
  | _ => none

def Message.payload? : Message → Option Bytes
  | data payload => some payload
  | _ => none

def payloads (frames : List Frame) : List Bytes := frames.filterMap Frame.payload?

def volume (payloads : List Bytes) : Nat := payloads.flatten.length

def Closing (frames : List Frame) : Prop := ∃ frame ∈ frames, frame.body = .control .sessionClose

@[ext]
structure Lane where
  /-- Whether the end may still choose the id of the session for one that it opens. -/
  free : Bool
  closed : Bool
  session : Option Session
  /-- The replies that wait for a place in the queue. -/
  replies : List Frame
  /-- The payloads of which the endpoint was told. -/
  heard : List Bytes
  sent : List Bytes

namespace Lane

inductive Works (lane : Lane) : List Frame → Lane → Prop
  | rests {free : Bool} (hfree : free = true → lane.free = true) : Works lane [] { lane with free }
  | opens {frame : Frame} (endpoint : Nat) (hfree : lane.free = true)
      (hbody : frame.body = .control .sessionOpen) :
      Works lane [frame]
        { lane with free := false, session := some (.create frame.port endpoint) }
  | sends {frame : Frame} {payload : Bytes} {session : Session}
      (hbody : frame.body = .data payload) (hsession : lane.session = some session) :
      Works lane [frame]
        { lane with
          session := some { session with bytesOut := session.bytesOut + payload.length }
          sent := lane.sent ++ [payload] }
  | closes {frame : Frame} {session : Session} (hbody : frame.body = .control .sessionClose)
      (hsession : lane.session = some session) : Works lane [frame] { lane with session := none }
  | complains {frame : Frame} {code : ErrorCode} {session : Session}
      (hbody : frame.body = .error code) (hsession : lane.session = some session) :
      Works lane [frame] lane
  | answers {front rear : List Frame} {frame : Frame}
      (hreplies : lane.replies = front ++ frame :: rear) :
      Works lane [frame] { lane with replies := front ++ rear }
  | shuts : Works lane [] { lane with closed := true, session := none }

def Replies (replies : List Frame) (reply : Frame) (out later : List Frame) : Prop :=
  (out = [reply] ∧ later = replies) ∨ (out = [] ∧ later = replies ++ [reply])

inductive Receives (frame : Frame) (lane : Lane) : List Frame → Lane → Prop
  | drops (hclosed : lane.closed = true) (hsession : lane.session = none) :
      Receives frame lane [] lane
  | strays {payload : Bytes} (hbody : frame.body = .data payload) (hsession : lane.session = none) :
      Receives frame lane [] lane
  | takes {payload : Bytes} {session : Session} (hbody : frame.body = .data payload)
      (hsession : lane.session = some session) :
      Receives frame lane []
        { lane with
          session := some { session with bytesIn := session.bytesIn + payload.length }
          heard := lane.heard ++ [payload] }
  | rejects {payload : Bytes} {session : Session} {reply : Frame} {out later : List Frame}
      (hbody : frame.body = .data payload) (hsession : lane.session = some session)
      (hreply : reply.body = .control .sessionClose)
      (hlater : Replies lane.replies reply out later) :
      Receives frame lane out
        { lane with session := none, heard := lane.heard ++ [payload], replies := later }
  | repeats {session : Session} (hbody : frame.body = .control .sessionOpen)
      (hsession : lane.session = some session) : Receives frame lane [] lane
  | admits (endpoint : Nat) (hbody : frame.body = .control .sessionOpen)
      (hsession : lane.session = none) :
      Receives frame lane [] { lane with session := some (.create frame.port endpoint) }
  | ends {reply : Frame} {out later : List Frame} (hbody : frame.body = .control .sessionClose)
      (hreply : reply.body = .control .sessionCloseAck)
      (hlater : Replies lane.replies reply out later) :
      Receives frame lane out { lane with session := none, replies := later }
  | ignores (hdata : frame.payload? = none) (hopen : frame.body ≠ .control .sessionOpen)
      (hclose : frame.body ≠ .control .sessionClose) : Receives frame lane [] lane

end Lane

/-! ### Payloads and frames that end the session -/

@[simp]
theorem payloads_append (front rear : List Frame) :
    payloads (front ++ rear) = payloads front ++ payloads rear :=
  List.filterMap_append

@[simp]
theorem payloads_cons (frame : Frame) (rest : List Frame) :
    payloads (frame :: rest) = frame.payload?.toList ++ payloads rest := by
  cases hframe : frame.payload? <;> simp [payloads, hframe]

@[simp]
theorem payloads_nil : payloads [] = [] := rfl

theorem Frame.payload?_eq_some_iff {frame : Frame} {payload : Bytes} :
    frame.payload? = some payload ↔ frame.body = .data payload := by
  rw [payload?]
  cases frame.body <;> simp

theorem volume_concat (payloads : List Bytes) (payload : Bytes) :
    volume (payloads ++ [payload]) = volume payloads + payload.length := by
  simp [volume]

@[simp]
theorem closing_nil : ¬ Closing [] := by simp [Closing]

@[simp]
theorem closing_cons {frame : Frame} {rest : List Frame} :
    Closing (frame :: rest) ↔ frame.body = .control .sessionClose ∨ Closing rest := by
  simp [Closing]

@[simp]
theorem closing_append {front rear : List Frame} :
    Closing (front ++ rear) ↔ Closing front ∨ Closing rear := by
  simp only [Closing, List.mem_append, or_and_right, exists_or]

end SessionMux
