import Mathlib.Data.List.Basic
import SessionMux.Channel.Receive
import SessionMux.Channel.Request

/-!
# The ledger of a channel

The part of a channel that its sessions depend on: the table, the frames on their way out, what the
endpoints were told and what was published. Who has or waits for a place in the queue, who waits for
an acknowledgement and which tasks are to be woken is left out. So asking for a place, giving it
back and giving up a wait leave the ledger alone, and every other operation of a channel is an
operation of the ledger.

Replies that found the queue full are on their way out as well. Before its host heeds it, such a
reply is a signal of the channel; then a task of its own holds it. `Channel.ledger` takes the
replies that tasks hold as an argument and adds those among the signals.
-/

namespace SessionMux

def Signal.deferred? : Signal → Option Frame
  | deferred frame => some frame
  | _ => none

structure Ledger where
  sessions : Sessions
  nextSession : Nat
  bytesIn : Nat
  bytesOut : Nat
  closed : Bool
  draining : Bool
  frames : List Frame
  /-- The replies that wait for a place in the queue. -/
  replies : List Frame
  /-- The session of each endpoint and what it was told, oldest endpoint first. -/
  endpoints : List (UInt32 × List Message)
  changes : List Change

namespace Ledger

def publish (ledger : Ledger) (change : Change) : Ledger :=
  { ledger with changes := ledger.changes ++ [change] }

def push (ledger : Ledger) (frame : Frame) : Ledger :=
  { ledger with frames := if ledger.draining then ledger.frames ++ [frame] else ledger.frames }

def defer (ledger : Ledger) (frame : Frame) : Ledger :=
  { ledger with replies := ledger.replies ++ [frame] }

def tell (ledger : Ledger) (endpoint : Nat) (message : Message) : Ledger :=
  { ledger with endpoints := ledger.endpoints.modify endpoint (Prod.map id (· ++ [message])) }

def add (ledger : Ledger) (id : UInt32) (port : UInt16) : Ledger :=
  { ledger with
    sessions := ledger.sessions.insert id (.create port ledger.endpoints.length)
    endpoints := ledger.endpoints ++ [(id, [])] }.publish (.sessionCreate id port)

def remove (ledger : Ledger) (id : UInt32) : Ledger :=
  match ledger.sessions.find? id with
  | none => ledger
  | some session =>
    { ledger.tell session.endpoint .closed with sessions := ledger.sessions.erase id }.publish
      (.sessionClose id)

def close (ledger : Ledger) : Ledger :=
  (ledger.sessions.ids.foldl remove { ledger with closed := true }).publish .channelClose

/-- The end of a channel keeps what the end of each session keeps. -/
theorem close_preserves {motive : Ledger → Prop} {ledger : Ledger}
    (h : motive { ledger with closed := true })
    (hremove : ∀ before id, motive before → motive (before.remove id))
    (hpublish : ∀ before, motive before → motive (before.publish .channelClose)) :
    motive ledger.close :=
  hpublish _ (List.foldlRecOn _ _ h fun before hbefore id _ => hremove before id hbefore)

theorem publish_push (ledger : Ledger) (frame : Frame) (change : Change) :
    (ledger.push frame).publish change = (ledger.publish change).push frame := rfl

def receive (ledger : Ledger) (id : UInt32) (session : Session) (payload : Bytes) : Ledger :=
  { ledger.tell session.endpoint (.data payload) with
    sessions := ledger.sessions.insert id
      { session with bytesIn := session.bytesIn + payload.length }
    bytesIn := ledger.bytesIn + payload.length }.publish (.sessionTransaction id payload.length 0)

def send (ledger : Ledger) (id : UInt32) (session : Session) (payload : Bytes) : Ledger :=
  ({ ledger with
    sessions := ledger.sessions.insert id
      { session with bytesOut := session.bytesOut + payload.length }
    bytesOut := ledger.bytesOut + payload.length }.push
      { port := session.port, session := id, body := .data payload }).publish
    (.sessionTransaction id 0 payload.length)

end Ledger

theorem map_modify_of_comm {α β : Type} (view : α → β) (change : α → α) (change' : β → β)
    (hcomm : ∀ value, view (change value) = change' (view value)) (values : List α) (place : Nat) :
    (values.modify place change).map view = (values.map view).modify place change' := by
  apply List.ext_getElem?
  intro index
  rw [List.getElem?_map, List.getElem?_modify, List.getElem?_modify, List.getElem?_map]
  cases values[index]? with
  | none => rfl
  | some value =>
      by_cases heq : place = index <;> simp [heq, hcomm]

namespace Channel

/-- The ledger of a channel, `replies` being held by tasks. -/
def ledger (channel : Channel) (replies : List Frame) : Ledger where
  sessions := channel.sessions
  nextSession := channel.nextSession
  bytesIn := channel.bytesIn
  bytesOut := channel.bytesOut
  closed := channel.closed
  draining := channel.outbox.draining
  frames := channel.outbox.frames
  replies := replies ++ channel.signals.filterMap Signal.deferred?
  endpoints := channel.endpoints.map fun endpoint => (endpoint.session, endpoint.told)
  changes := channel.changes

variable {channel : Channel} {replies : List Frame}

/-! ### Operations that leave the ledger alone -/

/-- A new outbound queue that holds the same frames is no change, whoever was granted a place. -/
theorem ledger_setOutbox {outbox : Outbox} (hframes : outbox.frames = channel.outbox.frames)
    (hdraining : outbox.draining = channel.outbox.draining) :
    (channel.setOutbox outbox).ledger replies = channel.ledger replies := by
  simp [ledger, setOutbox, hframes, hdraining, Signal.deferred?]

theorem ledger_giveBack (caller : Caller) :
    (channel.giveBack caller).ledger replies = channel.ledger replies :=
  ledger_setOutbox rfl rfl

theorem ledger_reserve (caller : Caller) :
    (channel.reserve caller).2.ledger replies = channel.ledger replies := by
  have hframes : (channel.outbox.reserve caller).2.frames = channel.outbox.frames ∧
      (channel.outbox.reserve caller).2.draining = channel.outbox.draining := by
    unfold Outbox.reserve Outbox.request
    split_ifs <;> exact ⟨rfl, rfl⟩
  simp [ledger, reserve, hframes]

theorem ledger_stopWaiting (caller : Caller) (id : UInt32) :
    (channel.stopWaiting caller id).ledger replies = channel.ledger replies := by
  simp [ledger, stopWaiting, Signal.deferred?]

theorem ledger_signal {signal : Signal} (hsignal : signal.deferred? = none) :
    (channel.signal signal).ledger replies = channel.ledger replies := by
  simp [ledger, Channel.signal, hsignal]

/-! ### Operations of the ledger -/

@[simp]
theorem ledger_publish (change : Change) :
    (channel.publish change).ledger replies = (channel.ledger replies).publish change := rfl

@[simp]
theorem ledger_report (code : ErrorCode) (level : Level) (message : String) :
    (channel.report code level message).ledger replies =
      (channel.ledger replies).publish (.channelError { code, level, message }) := rfl

@[simp]
theorem ledger_tell (endpoint : Nat) (message : Message) :
    (channel.tell endpoint message).ledger replies =
      (channel.ledger replies).tell endpoint message := by
  have htold := map_modify_of_comm (fun endpoint => (endpoint.session, endpoint.told))
    (·.tell message) (Prod.map id (· ++ [message])) (fun _ => rfl) channel.endpoints endpoint
  rw [tell, ledger_signal rfl]
  simp only [ledger, Ledger.tell, htold]

@[simp]
theorem ledger_fill (caller : Caller) (frame : Frame) :
    (channel.fill caller frame).ledger replies = (channel.ledger replies).push frame := by
  rw [fill, ledger_signal rfl]
  rfl

@[simp]
theorem ledger_removeSession (id : UInt32) :
    (channel.removeSession id).ledger replies = (channel.ledger replies).remove id := by
  unfold removeSession Ledger.remove
  rw [show (channel.ledger replies).sessions = channel.sessions from rfl]
  cases channel.sessions.find? id with
  | none => rfl
  | some session =>
      simp only [ledger_publish, ← ledger_tell]
      rfl

theorem ledger_addSession (id : UInt32) (port : UInt16) (kind : EndpointKind) (inbound : Bool) :
    ((channel.addSession id port kind inbound).publish (.sessionCreate id port)).ledger replies =
      (channel.ledger replies).add id port := by
  simp [ledger, addSession, publish, Ledger.add, Ledger.publish, Endpoint.create]

/-- A reply goes into the queue or waits for a place there; where nobody takes frames out of the
queue any more it is dropped. -/
theorem ledger_enqueue (frame : Frame) :
    (channel.enqueue frame).ledger replies = (channel.ledger replies).push frame ∨
      (channel.outbox.draining = true ∧
        (channel.enqueue frame).ledger replies = (channel.ledger replies).defer frame) := by
  cases hdraining : channel.outbox.draining with
  | false =>
      left
      simp [enqueue, ledger, Ledger.push, hdraining]
  | true =>
      by_cases hfree : channel.outbox.free > 0
      · left
        rw [enqueue, hdraining, Bool.not_true, if_neg Bool.false_ne_true, if_pos hfree,
          ledger_signal rfl]
        simp [ledger, Ledger.push, Outbox.push, hdraining]
      · right
        refine ⟨rfl, ?_⟩
        rw [enqueue, hdraining, Bool.not_true, if_neg Bool.false_ne_true, if_neg hfree]
        simp [ledger, Ledger.defer, Channel.signal, Signal.deferred?]

theorem ledger_foldl_removeSession (replies : List Frame) (ids : List UInt32) (channel : Channel) :
    (ids.foldl removeSession channel).ledger replies =
      ids.foldl Ledger.remove (channel.ledger replies) := by
  induction ids generalizing channel with
  | nil => rfl
  | cons id ids ih => rw [List.foldl_cons, List.foldl_cons, ih, ledger_removeSession]

theorem ledger_close (hopen : channel.closed = false) :
    channel.close.ledger replies = (channel.ledger replies).close := by
  have hended := ledger_foldl_removeSession replies channel.sessions.ids
    { channel with closed := true }
  rw [close, if_neg (by simp [hopen]), ledger_signal rfl, ledger_publish, Ledger.close]
  refine congrArg (Ledger.publish · .channelClose) (Eq.trans ?_ hended)
  simp [ledger, Signal.deferred?]

theorem ledger_fail (hopen : channel.closed = false) (code : ErrorCode) (message : String) :
    (channel.fail code message).ledger replies =
      ((channel.ledger replies).publish
        (.channelError { code, level := .critical, message })).close := by
  rw [fail, if_neg (by simp [hopen]), ledger_close (by exact hopen), ledger_report]

theorem ledger_abandonOutbox :
    channel.abandonOutbox.ledger replies =
      { channel.ledger replies with frames := [], draining := false } := by
  simp [ledger, abandonOutbox, Outbox.abandon, Signal.deferred?]

theorem ledger_takeFrame? {frame : Frame} {rest : Channel}
    (htake : channel.takeFrame? = some (frame, rest)) :
    channel.outbox.frames = frame :: rest.outbox.frames ∧
      rest.ledger replies =
        { channel.ledger replies with frames := rest.outbox.frames } := by
  unfold takeFrame? Outbox.take? at htake
  cases hframes : channel.outbox.frames with
  | nil => simp [hframes] at htake
  | cons first frames =>
      simp only [hframes, Option.map_some, Option.some.injEq, Prod.mk.injEq] at htake
      obtain ⟨rfl, rfl⟩ := htake
      refine ⟨rfl, ?_⟩
      simp [ledger, setOutbox, Outbox.grantFree, Signal.deferred?]

end Channel

end SessionMux
