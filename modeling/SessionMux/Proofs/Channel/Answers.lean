import Mathlib.Data.List.Induction
import SessionMux.Proofs.Channel.Ledger

/-!
# What the peer is answered

Some frames of the peer are answered: a close is acknowledged, a session that the application does
not take is refused, and a payload that the endpoint does not take ends the session.
`Channel.reply?` says which reply a frame causes in a state of the channel. Whatever else a frame
does, all that it does to the outbound queue is to send this reply on its way
(`Channel.outflow_receive`): into the queue if there is a place free, and otherwise behind the
replies that wait for one. All the rest it does whatever the state of the queue
(`Channel.rest_receive`).
-/

namespace SessionMux

/-- An outbound queue, and the replies that found it full and wait for a place. -/
structure Outflow where
  outbox : Outbox
  deferred : List Frame

namespace Outflow

def answer (outflow : Outflow) (reply : Frame) : Outflow :=
  if !outflow.outbox.draining then outflow
  else if outflow.outbox.free > 0 then { outflow with outbox := outflow.outbox.push reply }
  else { outflow with deferred := outflow.deferred ++ [reply] }

/-- The replies that were sent on their way since an earlier state: those in the queue, and then
those that wait. -/
def repliesSince (outflow start : Outflow) : List Frame :=
  outflow.outbox.frames.drop start.outbox.frames.length ++
    outflow.deferred.drop start.deferred.length

variable {outflow : Outflow}

theorem answer_of_not_draining (hdraining : outflow.outbox.draining = false) (reply : Frame) :
    outflow.answer reply = outflow := by
  rw [answer, hdraining, Bool.not_false, if_pos rfl]

section Draining

variable (hdraining : outflow.outbox.draining = true)
include hdraining

theorem answer_of_free (hfree : 0 < outflow.outbox.free) (reply : Frame) :
    outflow.answer reply = { outflow with outbox := outflow.outbox.push reply } := by
  rw [answer, hdraining, Bool.not_true, if_neg Bool.false_ne_true, if_pos hfree]

theorem answer_of_full (hfull : outflow.outbox.free = 0) (reply : Frame) :
    outflow.answer reply = { outflow with deferred := outflow.deferred ++ [reply] } := by
  rw [answer, hdraining, Bool.not_true, if_neg Bool.false_ne_true, if_neg (by omega)]

/-- While nobody takes a frame out, replies fill the queue, and all those that come later wait. -/
theorem foldl_answer (replies : List Frame) :
    ∃ queued waiting, queued ++ waiting = replies ∧
      (replies.foldl answer outflow).outbox.frames = outflow.outbox.frames ++ queued ∧
      (replies.foldl answer outflow).deferred = outflow.deferred ++ waiting ∧
      (replies.foldl answer outflow).outbox.draining = true ∧
      (waiting ≠ [] → (replies.foldl answer outflow).outbox.free = 0) := by
  induction replies using List.reverseRecOn with
  | nil => exact ⟨[], [], rfl, by simp, by simp, hdraining, fun hnil => absurd rfl hnil⟩
  | append_singleton replies reply ih =>
      obtain ⟨queued, waiting, hsplit, hframes, hdeferred, hstill, hfull⟩ := ih
      rw [List.foldl_append, List.foldl_cons, List.foldl_nil]
      generalize replies.foldl answer outflow = middle at hframes hdeferred hstill hfull
      by_cases hfree : 0 < middle.outbox.free
      · -- There is a place free, so nothing waits yet.
        have hnone : waiting = [] := by
          by_contra hwaiting
          have := hfull hwaiting
          omega
        subst hnone
        rw [answer_of_free hstill hfree]
        refine ⟨queued ++ [reply], [], ?_, ?_, ?_, hstill, fun hnil => absurd rfl hnil⟩
        · rw [← hsplit]
          simp
        · simp [Outbox.push, hframes]
        · simpa using hdeferred
      · have hzero : middle.outbox.free = 0 := by omega
        rw [answer_of_full hstill hzero]
        refine ⟨queued, waiting ++ [reply], ?_, hframes, ?_, hstill, fun _ => hzero⟩
        · rw [← List.append_assoc, hsplit]
        · simp [hdeferred]

theorem repliesSince_foldl_answer (replies : List Frame) :
    (replies.foldl answer outflow).repliesSince outflow = replies := by
  obtain ⟨queued, waiting, hsplit, hframes, hdeferred, -⟩ := foldl_answer hdraining replies
  rw [repliesSince, hframes, hdeferred, List.drop_left, List.drop_left, hsplit]

end Draining

theorem repliesSince_foldl_answer_of_not_draining (hdraining : outflow.outbox.draining = false)
    (replies : List Frame) : (replies.foldl answer outflow).repliesSince outflow = [] := by
  have hsame : replies.foldl answer outflow = outflow := by
    induction replies with
    | nil => rfl
    | cons reply replies ih => rw [List.foldl_cons, answer_of_not_draining hdraining, ih]
  rw [hsame, repliesSince, List.drop_length, List.drop_length, List.append_nil]

end Outflow

namespace Channel

/-- The reply that a frame of the peer causes, if it causes one. Every close is acknowledged, be its
session live or not; a session that is not live and that the application does not take is refused;
and a payload that the endpoint of a live session does not take ends this session. -/
def reply? (channel : Channel) (frame : Frame) (admission : Admission) : Option Frame :=
  if channel.closed then none
  else
    match frame.body with
    | .control .sessionClose =>
      some { port := frame.port, session := frame.session, body := .control .sessionCloseAck }
    | .control .sessionOpen =>
      match channel.sessions.find? frame.session with
      | some _ => none
      | none =>
        match admission with
        | .ok _ => none
        | .error _ =>
          some { port := frame.port, session := frame.session, body := .error .connRefused }
    | .data payload =>
      (channel.sessions.find? frame.session).bind fun session =>
        (channel.endpoints[session.endpoint]?.bind (·.refusal? payload)).map fun _ =>
          { port := session.port, session := frame.session, body := .control .sessionClose }
    | .control .sessionCloseAck | .control (.other _) | .error _ => none

def outflow (channel : Channel) : Outflow where
  outbox := channel.outbox
  deferred := channel.signals.filterMap Signal.deferred?

variable {channel : Channel}

/-- A reply is about the session that the frame is about. -/
theorem session_of_reply? {frame : Frame} {admission : Admission} {reply : Frame}
    (hreply : channel.reply? frame admission = some reply) : reply.session = frame.session := by
  unfold reply? at hreply
  split at hreply
  · cases hreply
  · split at hreply
    · cases hreply
      rfl
    · split at hreply
      · cases hreply
      · split at hreply <;> cases hreply
        rfl
    · obtain ⟨session, -, hreply⟩ := Option.bind_eq_some_iff.mp hreply
      obtain ⟨error, -, rfl⟩ := Option.map_eq_some_iff.mp hreply
      rfl
    all_goals cases hreply

/-! ### Operations that send no reply -/

@[simp]
theorem outflow_publish (change : Change) : (channel.publish change).outflow = channel.outflow :=
  rfl

theorem outflow_signal {signal : Signal} (hsignal : signal.deferred? = none) :
    (channel.signal signal).outflow = channel.outflow := by
  simp [outflow, Channel.signal, hsignal]

@[simp]
theorem outflow_tell (channel : Channel) (endpoint : Nat) (message : Message) :
    (channel.tell endpoint message).outflow = channel.outflow := by
  rw [tell, outflow_signal rfl]
  rfl

@[simp]
theorem outflow_removeSession (id : UInt32) :
    (channel.removeSession id).outflow = channel.outflow := by
  unfold removeSession
  cases channel.sessions.find? id with
  | none => rfl
  | some session => exact outflow_tell channel session.endpoint .closed

theorem outflow_enqueue (frame : Frame) :
    (channel.enqueue frame).outflow = channel.outflow.answer frame := by
  unfold enqueue Outflow.answer
  rw [show channel.outflow.outbox = channel.outbox from rfl]
  split_ifs
  · rfl
  · rw [outflow_signal rfl]
    rfl
  · simp [outflow, Channel.signal, Signal.deferred?]

/-! ### Frames of the peer -/

section Open

variable (hopen : channel.closed = false) (port : UInt16) (id : UInt32) (admission : Admission)
include hopen

theorem outflow_receiveData (payload : Bytes) :
    (channel.receiveData port id payload).outflow =
      (channel.reply? { port, session := id, body := .data payload } admission).elim
        channel.outflow channel.outflow.answer := by
  unfold receiveData reply?
  rw [hopen, if_neg Bool.false_ne_true]
  dsimp only
  cases channel.sessions.find? id with
  | none => rfl
  | some session =>
      have htold := outflow_tell channel session.endpoint (.data payload)
      simp only [Option.bind_some]
      cases channel.endpoints[session.endpoint]?.bind (·.refusal? payload) with
      | none => exact htold
      | some error =>
          dsimp only
          rw [outflow_enqueue, outflow_removeSession, outflow_publish, outflow_publish]
          exact congrArg (Outflow.answer · _) htold

theorem outflow_receiveOpen :
    (channel.receiveOpen port id admission).outflow =
      (channel.reply? { port, session := id, body := .control .sessionOpen } admission).elim
        channel.outflow channel.outflow.answer := by
  unfold receiveOpen reply?
  rw [hopen, if_neg Bool.false_ne_true]
  dsimp only
  cases channel.sessions.find? id with
  | some session =>
      dsimp only
      split_ifs <;> rfl
  | none =>
      cases admission with
      | ok kind => rfl
      | error error => exact outflow_enqueue _

theorem outflow_receiveClose :
    (channel.receiveClose port id).outflow =
      (channel.reply? { port, session := id, body := .control .sessionClose } admission).elim
        channel.outflow channel.outflow.answer := by
  rw [receiveClose, outflow_enqueue, outflow_removeSession]
  unfold reply?
  rw [hopen, if_neg Bool.false_ne_true]
  rfl

end Open

theorem outflow_receiveCloseAck (id : UInt32) :
    (channel.receiveCloseAck id).outflow = channel.outflow := by
  unfold receiveCloseAck
  cases channel.pendingClose.lookup id with
  | none => rfl
  | some caller => exact outflow_signal rfl

theorem outflow_receiveError (id : UInt32) (code : ErrorCode) :
    (channel.receiveError id code).outflow = channel.outflow := by
  unfold receiveError
  cases channel.sessions.find? id with
  | none => rfl
  | some session => exact outflow_tell channel session.endpoint (.error code)

/-- **What a frame does to the outbound queue** is to send its reply on its way, if it has one. -/
theorem outflow_receive (channel : Channel) (frame : Frame) (admission : Admission) :
    (channel.receive frame admission).outflow =
      (channel.reply? frame admission).elim channel.outflow channel.outflow.answer := by
  cases hopen : channel.closed with
  | true => simp [receive, reply?, hopen]
  | false =>
      have hnone (hreply : channel.reply? frame admission = none) :
          (channel.reply? frame admission).elim channel.outflow channel.outflow.answer =
            channel.outflow := by rw [hreply, Option.elim_none]
      obtain ⟨port, id, body⟩ := frame
      rw [receive, hopen, if_neg Bool.false_ne_true]
      cases body with
      | data payload => exact outflow_receiveData hopen port id admission payload
      | error code =>
          rw [hnone (by simp [reply?])]
          exact outflow_receiveError id code
      | control code =>
          cases code with
          | sessionOpen => exact outflow_receiveOpen hopen port id admission
          | sessionClose => exact outflow_receiveClose hopen port id admission
          | sessionCloseAck =>
              rw [hnone (by simp [reply?])]
              exact outflow_receiveCloseAck id
          | other number =>
              rw [hnone (by simp [reply?])]
              rfl

/-! ### A full queue -/

/-- A channel but for its outbound queue, and for what is still to be heeded. -/
def rest (channel : Channel) : Channel := { channel with outbox := default, signals := [] }

theorem rest_enqueue (frame : Frame) : (channel.enqueue frame).rest = channel.rest := by
  unfold enqueue
  split_ifs <;> rfl

theorem rest_report (code : ErrorCode) (level : Level) (message : String) :
    (channel.report code level message).rest = channel.rest.report code level message := rfl

theorem rest_removeSession {first second : Channel} (h : first.rest = second.rest) (id : UInt32) :
    (first.removeSession id).rest = (second.removeSession id).rest := by
  obtain ⟨outbox, signals, rfl⟩ :
      ∃ outbox signals, first = { second with outbox, signals } := by
    refine ⟨first.outbox, first.signals, ?_⟩
    cases first
    cases second
    simpa [rest] using h
  unfold removeSession
  dsimp only
  cases second.sessions.find? id <;> rfl

section Rest

variable (channel : Channel) (outbox : Outbox) (signals : List Signal) (port : UInt16) (id : UInt32)

theorem rest_receiveData (payload : Bytes) :
    (receiveData { channel with outbox, signals } port id payload).rest =
      (channel.receiveData port id payload).rest := by
  unfold receiveData
  dsimp only
  cases channel.sessions.find? id with
  | none => rfl
  | some session =>
      dsimp only
      cases channel.endpoints[session.endpoint]?.bind (·.refusal? payload) with
      | none => rfl
      | some error =>
          dsimp only
          rw [rest_enqueue, rest_enqueue]
          refine rest_removeSession ?_ id
          rfl

theorem rest_receiveOpen (admission : Admission) :
    (receiveOpen { channel with outbox, signals } port id admission).rest =
      (channel.receiveOpen port id admission).rest := by
  unfold receiveOpen
  dsimp only
  cases channel.sessions.find? id with
  | some session =>
      dsimp only
      split_ifs <;> rfl
  | none =>
      cases admission with
      | ok kind => rfl
      | error error =>
          dsimp only
          rw [rest_report, rest_report, rest_enqueue, rest_enqueue]
          rfl

theorem rest_receiveControl (code : ControlCode) (admission : Admission) :
    (receiveControl { channel with outbox, signals } port id code admission).rest =
      (channel.receiveControl port id code admission).rest := by
  cases code with
  | sessionOpen => exact rest_receiveOpen channel outbox signals port id admission
  | sessionClose =>
      simp only [receiveControl, receiveClose, rest_enqueue]
      refine rest_removeSession ?_ id
      rfl
  | sessionCloseAck =>
      simp only [receiveControl, receiveCloseAck]
      cases channel.pendingClose.lookup id <;> rfl
  | other number => rfl

/-- **No frame waits for the queue.** Whatever else a frame does, it does at once, however full the
queue is. -/
theorem rest_receive (frame : Frame) (admission : Admission) :
    (receive { channel with outbox, signals } frame admission).rest =
      (channel.receive frame admission).rest := by
  unfold receive
  dsimp only
  split_ifs
  · rfl
  · cases frame.body with
    | data payload => exact rest_receiveData channel outbox signals frame.port frame.session payload
    | control code =>
        exact rest_receiveControl channel outbox signals frame.port frame.session code admission
    | error code =>
        simp only [receiveError]
        cases channel.sessions.find? frame.session <;> rfl

end Rest

end Channel

end SessionMux
