import Mathlib.Logic.Basic
import SessionMux.Host.Job

/-!
# What was published is not read

A channel leaves what it publishes in a list that only grows, and nothing that works with a channel
looks at the list. Had other changes been published before (`Channel.behind`), every operation would
do the same, and publish the same behind them.
-/

namespace SessionMux

namespace Channel

/-- The channel, had these changes been published before its own. -/
def behind (past : List Change) (channel : Channel) : Channel :=
  { channel with changes := past ++ channel.changes }

variable (past : List Change) (channel : Channel)

theorem publish_behind (change : Change) :
    (channel.behind past).publish change = (channel.publish change).behind past := by
  rw [publish, publish, behind, behind, List.append_assoc]

theorem report_behind (code : ErrorCode) (level : Level) (message : String) :
    (channel.behind past).report code level message =
      (channel.report code level message).behind past :=
  channel.publish_behind past _

theorem enqueue_behind (frame : Frame) :
    (channel.behind past).enqueue frame = (channel.enqueue frame).behind past := by
  rw [enqueue, enqueue, apply_ite (behind past), apply_ite (behind past)]
  rfl

theorem removeSession_behind (id : UInt32) :
    (channel.behind past).removeSession id = (channel.removeSession id).behind past := by
  have hsessions : (channel.behind past).sessions = channel.sessions := rfl
  rw [removeSession, removeSession, hsessions]
  cases channel.sessions.find? id with
  | none => rfl
  | some session =>
      exact publish_behind past
        { channel.tell session.endpoint .closed with sessions := channel.sessions.erase id } _

theorem foldl_removeSession_behind (ids : List UInt32) :
    ids.foldl removeSession (channel.behind past) =
      (ids.foldl removeSession channel).behind past := by
  induction ids generalizing channel with
  | nil => rfl
  | cons id ids ih => rw [List.foldl_cons, List.foldl_cons, removeSession_behind, ih]

theorem close_behind : (channel.behind past).close = channel.close.behind past := by
  have hclosed : (channel.behind past).closed = channel.closed := rfl
  rw [close, close, hclosed]
  cases channel.closed with
  | true => rfl
  | false =>
      have hended : (channel.behind past).sessions.ids.foldl removeSession
            { channel.behind past with closed := true } =
          (channel.sessions.ids.foldl removeSession { channel with closed := true }).behind past :=
        foldl_removeSession_behind past { channel with closed := true } _
      rw [if_neg Bool.false_ne_true, if_neg Bool.false_ne_true, hended]
      generalize channel.sessions.ids.foldl removeSession { channel with closed := true } = ended
      exact congrArg (signal · .shutdown) (publish_behind past { ended with
        pendingClose := []
        signals := ended.signals ++ ended.pendingClose.map fun pending => .forsaken pending.2 } _)

theorem fail_behind (code : ErrorCode) (message : String) :
    (channel.behind past).fail code message = (channel.fail code message).behind past := by
  rw [fail, fail, report_behind, close_behind, apply_ite (behind past)]
  rfl

theorem takeFrame?_behind :
    (channel.behind past).takeFrame? = channel.takeFrame?.map (Prod.map id (behind past)) := by
  rw [takeFrame?, takeFrame?, Option.map_map]
  rfl

/-! ### What the peer asks for -/

theorem receiveData_behind (port : UInt16) (id : UInt32) (payload : Bytes) :
    (channel.behind past).receiveData port id payload =
      (channel.receiveData port id payload).behind past := by
  have hsessions : (channel.behind past).sessions = channel.sessions := rfl
  rw [receiveData, receiveData, hsessions]
  cases channel.sessions.find? id with
  | none => exact report_behind past channel _ _ _
  | some session =>
      have hendpoints : (channel.behind past).endpoints = channel.endpoints := rfl
      have htold := publish_behind past
        { channel.tell session.endpoint (.data payload) with
          sessions := channel.sessions.insert id
            { session with bytesIn := session.bytesIn + payload.length }
          bytesIn := channel.bytesIn + payload.length }
        (.sessionTransaction id payload.length 0)
      dsimp only
      rw [hendpoints]
      cases channel.endpoints[session.endpoint]?.bind (·.refusal? payload) with
      | none => exact htold
      | some error =>
          refine (congrArg (fun told => ((publish told _).removeSession id).enqueue _) htold).trans
            ?_
          rw [publish_behind, removeSession_behind, enqueue_behind]
          rfl

theorem receiveOpen_behind (port : UInt16) (id : UInt32) (admission : Admission) :
    (channel.behind past).receiveOpen port id admission =
      (channel.receiveOpen port id admission).behind past := by
  have hsessions : (channel.behind past).sessions = channel.sessions := rfl
  unfold receiveOpen
  rw [hsessions]
  cases channel.sessions.find? id with
  | some session =>
      dsimp only
      rw [report_behind, apply_ite (behind past)]
  | none =>
      cases admission with
      | ok kind => exact publish_behind past (channel.addSession id port kind true) _
      | error error =>
          dsimp only
          rw [enqueue_behind, report_behind]

theorem receiveCloseAck_behind (id : UInt32) :
    (channel.behind past).receiveCloseAck id = (channel.receiveCloseAck id).behind past := by
  have hpending : (channel.behind past).pendingClose = channel.pendingClose := rfl
  rw [receiveCloseAck, receiveCloseAck, hpending]
  cases channel.pendingClose.lookup id <;> rfl

theorem receiveControl_behind (port : UInt16) (id : UInt32) (code : ControlCode)
    (admission : Admission) :
    (channel.behind past).receiveControl port id code admission =
      (channel.receiveControl port id code admission).behind past := by
  cases code with
  | sessionOpen => exact receiveOpen_behind past channel port id admission
  | sessionClose =>
      rw [receiveControl, receiveControl, receiveClose, receiveClose, removeSession_behind,
        enqueue_behind]
  | sessionCloseAck => exact receiveCloseAck_behind past channel id
  | other number => exact report_behind past channel _ _ _

theorem receiveError_behind (id : UInt32) (code : ErrorCode) :
    (channel.behind past).receiveError id code = (channel.receiveError id code).behind past := by
  have hsessions : (channel.behind past).sessions = channel.sessions := rfl
  rw [receiveError, receiveError, hsessions]
  cases channel.sessions.find? id with
  | none => exact report_behind past channel _ _ _
  | some session => exact publish_behind past (channel.tell session.endpoint (.error code)) _

theorem receive_behind (frame : Frame) (admission : Admission) :
    (channel.behind past).receive frame admission =
      (channel.receive frame admission).behind past := by
  have hclosed : (channel.behind past).closed = channel.closed := rfl
  rw [receive, receive, hclosed, apply_ite (behind past)]
  cases frame.body with
  | data payload => exact if_congr Iff.rfl rfl (receiveData_behind past channel _ _ _)
  | control code => exact if_congr Iff.rfl rfl (receiveControl_behind past channel _ _ _ _)
  | error code => exact if_congr Iff.rfl rfl (receiveError_behind past channel _ _)

/-! ### What the application asks for -/

theorem reserve_behind (caller : Caller) :
    (channel.behind past).reserve caller = (channel.reserve caller).map id (behind past) := rfl

theorem send_behind (caller : Caller) (session : UInt32) (payload : Bytes) :
    (channel.behind past).send caller session payload =
      (channel.send caller session payload).map id (behind past) := by
  have hsessions : (channel.behind past).sessions = channel.sessions := rfl
  rw [send, send, hsessions, apply_ite (Prod.map id (behind past))]
  apply if_congr Iff.rfl rfl
  cases channel.sessions.find? session with
  | none => rfl
  | some found =>
      have hpublished := publish_behind past
        (fill
          { channel with
            sessions := channel.sessions.insert session
              { found with bytesOut := found.bytesOut + payload.length }
            bytesOut := channel.bytesOut + payload.length }
          caller { port := found.port, session, body := .data payload })
        (.sessionTransaction session 0 payload.length)
      exact congrArg (Prod.mk (Except.ok ())) hpublished

theorem openSession_behind (caller : Caller) (port : UInt16) (kind : EndpointKind) :
    (channel.behind past).openSession caller port kind =
      (channel.openSession caller port kind).map id (behind past) := by
  have hsessions : (channel.behind past).sessions = channel.sessions := rfl
  have hnext : (channel.behind past).nextSession = channel.nextSession := rfl
  rw [openSession, openSession, hsessions, hnext, apply_ite (Prod.map id (behind past))]
  apply if_congr Iff.rfl rfl
  dsimp only
  generalize Channel.firstFree? channel.sessions channel.sessions.size channel.nextSession = found
  cases found with
  | none => rfl
  | some session =>
      have hpublished := publish_behind past
        ((addSession { channel with nextSession := channel.nextAfter (some session) } session port
          kind false).fill caller { port, session, body := .control .sessionOpen })
        (.sessionCreate session port)
      exact congrArg (Prod.mk (Except.ok session)) hpublished

theorem closeSession_behind (caller : Caller) (session : UInt32) (waits : Bool) :
    (channel.behind past).closeSession caller session waits =
      (channel.closeSession caller session waits).map id (behind past) := by
  have hsessions : (channel.behind past).sessions = channel.sessions := rfl
  rw [closeSession, closeSession, hsessions, apply_ite (Prod.map id (behind past)),
    removeSession_behind]
  apply if_congr Iff.rfl rfl
  cases channel.sessions.find? session with
  | none => rfl
  | some found => cases waits <;> rfl

theorem sendError_behind (caller : Caller) (session : UInt32) (code : ErrorCode) :
    (channel.behind past).sendError caller session code =
      (channel.sendError caller session code).map id (behind past) := by
  have hsessions : (channel.behind past).sessions = channel.sessions := rfl
  rw [sendError, sendError, hsessions, apply_ite (Prod.map id (behind past))]
  apply if_congr Iff.rfl rfl
  cases channel.sessions.find? session with
  | none => rfl
  | some found =>
      have hpublished := publish_behind past
        (channel.fill caller { port := found.port, session, body := .error code })
        (.sessionError session
          { code, level := .warning, message := s!"local endpoint reported {code.text}" })
      exact congrArg (Prod.mk (Except.ok ())) hpublished

end Channel

/-! ### The work of tasks -/

open Channel

variable (past : List Change) (channel : Channel)

namespace Call

theorem perform_behind (clock : Nat) (caller : Caller) (request : Request) :
    perform (channel.behind past) clock caller request =
      (perform channel clock caller request).map id (behind past) := by
  cases request with
  | send session payload => rw [perform, perform, send_behind]; rfl
  | openSession port kind => rw [perform, perform, openSession_behind]; rfl
  | closeSession session => rw [perform, perform, closeSession_behind]; rfl
  | closeAndWait session timeout =>
      rw [perform, perform, closeSession_behind]
      rcases channel.closeSession caller session true with ⟨_ | _, after⟩ <;> rfl
  | sendError session code => rw [perform, perform, sendError_behind]; rfl

theorem ask_behind (clock : Nat) (caller : Caller) (request : Request) :
    ask (channel.behind past) clock caller request =
      (ask channel clock caller request).map id (behind past) := by
  have hoversize (payload : Bytes) :
      (channel.behind past).oversize? payload = channel.oversize? payload := rfl
  unfold ask
  simp only [hoversize, reserve_behind]
  split
  · rfl
  · rcases channel.reserve caller with ⟨_ | _ | _, after⟩
    · exact perform_behind past after clock caller request
    · rfl
    · rfl

theorem step_behind (present : Bool) (clock : Nat) (caller : Caller) (request : Request)
    (stage : CallStage) :
    step (channel.behind past) present clock caller request stage =
      (step channel present clock caller request stage).map id (behind past) := by
  cases stage with
  | arriving => rfl
  | asking => exact ask_behind past channel clock caller request
  | awaiting session deadline verdict =>
      cases verdict with
      | none =>
          rw [step, step, await, await, apply_ite (Prod.map id (behind past))]
          rfl
      | some verdict => cases verdict <;> rfl

end Call

namespace Forward

variable (forward : Forward) (client : Connection)

def After.behind (past : List Change) (after : After) : After :=
  (after.1, after.2.1.behind past, after.2.2)

theorem opened_behind (caller : Caller) :
    forward.opened (channel.behind past) caller client =
      (forward.opened channel caller client).behind past := by
  rw [opened, opened, reserve_behind]
  rcases channel.reserve caller with ⟨_ | _ | _, reserved⟩
  · dsimp only [Prod.map, id]
    rw [openSession_behind]
    rcases reserved.openSession caller forward.port .forwarded with ⟨_ | _, opened⟩ <;> rfl
  · rfl
  · rfl

theorem listen_behind (eager : Bool) :
    forward.listen eager (channel.behind past) client =
      (forward.listen eager channel client).behind past := by
  have hmessage : forward.message? (channel.behind past) = forward.message? channel := rfl
  have hlimit : chunkLimit (channel.behind past) = chunkLimit channel := rfl
  unfold listen
  rw [hmessage, hlimit]
  rcases client.read (chunkLimit channel) with ⟨_ | _ | _ | _, rest⟩ <;>
    rcases forward.message? channel with _ | _ | _ | _ <;> cases eager <;> rfl

theorem transmit_behind (caller : Caller) (payload : Bytes) :
    forward.transmit (channel.behind past) caller client payload =
      (forward.transmit channel caller client payload).behind past := by
  have hoversize : (channel.behind past).oversize? payload = channel.oversize? payload := rfl
  rw [transmit, transmit, hoversize, reserve_behind]
  cases channel.oversize? payload with
  | some error => rfl
  | none =>
      rcases channel.reserve caller with ⟨_ | _ | _, reserved⟩
      · dsimp only [Prod.map, id]
        rw [send_behind]
        rcases reserved.send caller forward.stats.session payload with ⟨error | _, sent⟩
        · cases error <;> rfl
        · rfl
      · rfl
      · rfl

theorem deliver_behind (rest : Bytes) (size : Nat) :
    forward.deliver (channel.behind past) client rest size =
      (forward.deliver channel client rest size).behind past := by
  rw [deliver, deliver, apply_ite (After.behind past)]
  apply if_congr Iff.rfl rfl
  split <;> rfl

theorem complain_behind (caller : Caller) (fault : Fault) :
    forward.complain (channel.behind past) caller client fault =
      (forward.complain channel caller client fault).behind past := by
  rw [complain, complain, reserve_behind]
  rcases channel.reserve caller with ⟨_ | _ | _, reserved⟩
  · dsimp only [Prod.map, id]
    rw [sendError_behind]
    rfl
  · rfl
  · rfl

theorem finish_behind (cause : ForwardEnd) (closed : Except ChannelError Unit) :
    forward.finish (channel.behind past) client cause closed =
      (forward.finish channel client cause closed).behind past := by
  unfold finish
  split <;> rfl

theorem close_behind (caller : Caller) (cause : ForwardEnd) :
    forward.close (channel.behind past) caller client cause =
      (forward.close channel caller client cause).behind past := by
  rw [close, close, reserve_behind]
  rcases channel.reserve caller with ⟨_ | _ | _, reserved⟩
  · dsimp only [Prod.map, id]
    rw [closeSession_behind]
    exact forward.finish_behind past _ client cause _
  · rfl
  · exact forward.finish_behind past reserved client cause _

theorem step_behind (eager : Bool) (caller : Caller) :
    forward.step eager (channel.behind past) caller client =
      (forward.step eager channel caller client).behind past := by
  unfold step
  cases forward.stage with
  | opening => exact opened_behind past channel forward client caller
  | listening => exact listen_behind past channel forward client eager
  | sending payload => exact transmit_behind past channel forward client caller payload
  | writing rest size => exact deliver_behind past channel forward client rest size
  | reporting fault => exact complain_behind past channel forward client caller fault
  | closing cause => exact close_behind past channel forward client caller cause

end Forward

end SessionMux
