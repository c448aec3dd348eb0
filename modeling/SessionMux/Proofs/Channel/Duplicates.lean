import Mathlib.Data.List.Basic
import SessionMux.Channel.Receive

/-!
# Frames that arrive twice

A datagram can arrive more than once. What becomes of the sessions of a channel depends only on its
roster: whether it is closed, which sessions it has, the endpoints ever created, and the sessions
that were published as new. A frame that opens a session changes the roster exactly when a session
begins with it. So a copy of it that comes while the session is live is lost on the sessions, and so
is one that the application refuses; one that comes after the session has ended begins it anew.
-/

namespace SessionMux

def Change.created? : Change → Option (UInt32 × UInt16)
  | sessionCreate session port => some (session, port)
  | _ => none

structure Roster where
  closed : Bool
  sessions : Sessions
  endpoints : List Endpoint
  /-- The sessions that were published as new, each with its port. -/
  created : List (UInt32 × UInt16)

namespace Roster

def tell (roster : Roster) (endpoint : Nat) (message : Message) : Roster :=
  { roster with endpoints := roster.endpoints.modify endpoint (·.tell message) }

def add (roster : Roster) (id : UInt32) (port : UInt16) (kind : EndpointKind) : Roster :=
  { roster with
    sessions := roster.sessions.insert id (.create port roster.endpoints.length)
    endpoints := roster.endpoints ++ [Endpoint.create id port kind true]
    created := roster.created ++ [(id, port)] }

def remove (roster : Roster) (id : UInt32) : Roster :=
  match roster.sessions.find? id with
  | none => roster
  | some session =>
    { roster.tell session.endpoint .closed with sessions := roster.sessions.erase id }

def hear (roster : Roster) (id : UInt32) (payload : Bytes) : Roster :=
  match roster.sessions.find? id with
  | none => roster
  | some session =>
    let told :=
      { roster.tell session.endpoint (.data payload) with
        sessions := roster.sessions.insert id
          { session with bytesIn := session.bytesIn + payload.length } }
    match roster.endpoints[session.endpoint]?.bind (·.refusal? payload) with
    | none => told
    | some _ => told.remove id

def Admits (roster : Roster) (id : UInt32) (admission : Admission) : Prop :=
  roster.closed = false ∧ roster.sessions.find? id = none ∧ ∃ kind, admission = .ok kind

def begin (roster : Roster) (port : UInt16) (id : UInt32) (admission : Admission) : Roster :=
  match roster.sessions.find? id, admission with
  | none, .ok kind => roster.add id port kind
  | _, _ => roster

def receive (roster : Roster) (frame : Frame) (admission : Admission) : Roster :=
  if roster.closed then roster
  else
    match frame.body with
    | .data payload => roster.hear frame.session payload
    | .control .sessionOpen => roster.begin frame.port frame.session admission
    | .control .sessionClose => roster.remove frame.session
    | .control _ => roster
    | .error code =>
      match roster.sessions.find? frame.session with
      | none => roster
      | some session => roster.tell session.endpoint (.error code)

end Roster

namespace Channel

def roster (channel : Channel) : Roster where
  closed := channel.closed
  sessions := channel.sessions
  endpoints := channel.endpoints
  created := channel.changes.filterMap Change.created?

variable {channel : Channel}

theorem roster_publish {change : Change} (hchange : change.created? = none) :
    (channel.publish change).roster = channel.roster := by
  simp [roster, publish, hchange]

theorem roster_tell (endpoint : Nat) (message : Message) :
    (channel.tell endpoint message).roster = channel.roster.tell endpoint message := rfl

theorem roster_enqueue (frame : Frame) : (channel.enqueue frame).roster = channel.roster := by
  unfold enqueue
  split_ifs <;> rfl

theorem roster_removeSession (id : UInt32) :
    (channel.removeSession id).roster = channel.roster.remove id := by
  unfold removeSession Roster.remove
  rw [show channel.roster.sessions = channel.sessions from rfl]
  cases channel.sessions.find? id with
  | none => rfl
  | some session =>
      simp only
      rw [roster_publish rfl]
      rfl

theorem roster_receiveData (port : UInt16) (id : UInt32) (payload : Bytes) :
    (channel.receiveData port id payload).roster = channel.roster.hear id payload := by
  unfold receiveData Roster.hear
  rw [show channel.roster.sessions = channel.sessions from rfl,
    show channel.roster.endpoints = channel.endpoints from rfl]
  cases channel.sessions.find? id with
  | none => exact roster_publish rfl
  | some session =>
      simp only
      cases channel.endpoints[session.endpoint]?.bind (·.refusal? payload) with
      | none => exact roster_publish rfl
      | some error =>
          simp only
          rw [roster_enqueue, roster_removeSession, roster_publish rfl, roster_publish rfl]
          rfl

theorem roster_receiveOpen (port : UInt16) (id : UInt32) (admission : Admission) :
    (channel.receiveOpen port id admission).roster = channel.roster.begin port id admission := by
  unfold receiveOpen Roster.begin
  rw [show channel.roster.sessions = channel.sessions from rfl]
  cases channel.sessions.find? id with
  | some session =>
      simp only
      split_ifs
      · rfl
      · exact roster_publish rfl
  | none =>
      cases admission with
      | ok kind => simp [roster, addSession, publish, Roster.add, Change.created?]
      | error error =>
          simp only
          rw [report, roster_publish rfl, roster_enqueue]

theorem roster_receive (frame : Frame) (admission : Admission) :
    (channel.receive frame admission).roster = channel.roster.receive frame admission := by
  unfold receive Roster.receive
  rw [show channel.roster.closed = channel.closed from rfl]
  split_ifs
  · rfl
  · cases frame.body with
    | data payload => exact roster_receiveData _ _ _
    | control code =>
        cases code with
        | sessionOpen => exact roster_receiveOpen _ _ _
        | sessionClose =>
            simp only [receiveControl, receiveClose]
            rw [roster_enqueue, roster_removeSession]
        | sessionCloseAck =>
            simp only [receiveControl, receiveCloseAck]
            split <;> rfl
        | other number => exact roster_publish rfl
    | error code =>
        simp only [receiveError]
        rw [show channel.roster.sessions = channel.sessions from rfl]
        cases channel.sessions.find? frame.session with
        | none => exact roster_publish rfl
        | some session =>
            simp only
            rw [roster_publish rfl, roster_tell]

end Channel

/-- A frame that opens a session changes the roster exactly when a session begins with it. -/
theorem Roster.receive_eq_self_iff {roster : Roster} {frame : Frame} {admission : Admission}
    (hopening : frame.body = .control .sessionOpen) :
    roster.receive frame admission = roster ↔ ¬ roster.Admits frame.session admission := by
  unfold receive Admits
  rw [hopening]
  cases hclosed : roster.closed with
  | true => simp
  | false =>
      rw [if_neg Bool.false_ne_true, begin.eq_def]
      cases hfind : roster.sessions.find? frame.session with
      | some session => simp
      | none =>
          cases admission with
          | error error => simp
          | ok kind =>
              have hlonger : roster.add frame.session frame.port kind ≠ roster := by
                intro heq
                have hlength := congrArg (fun roster => roster.endpoints.length) heq
                simp [add] at hlength
              simp [hlonger]

namespace Channel

abbrev Delivery := Frame × Admission

def deliver (channel : Channel) (delivery : Delivery) : Channel :=
  channel.receive delivery.1 delivery.2

theorem roster_deliver (channel : Channel) (delivery : Delivery) :
    (channel.deliver delivery).roster = channel.roster.receive delivery.1 delivery.2 :=
  roster_receive delivery.1 delivery.2

/-- What is left to be delivered to a channel, without and with copies of a frame. A copy comes
where no session begins with it. -/
inductive Repeated (frame : Frame) : Channel → List Delivery → List Delivery → Prop
  | nil {channel : Channel} : Repeated frame channel [] []
  | cons {channel : Channel} {rest copies : List Delivery} (delivery : Delivery)
      (hrest : Repeated frame (channel.deliver delivery) rest copies) :
      Repeated frame channel (delivery :: rest) (delivery :: copies)
  | copy {channel : Channel} {rest copies : List Delivery} (admission : Admission)
      (hidle : ¬ channel.roster.Admits frame.session admission)
      (hrest : Repeated frame (channel.deliver (frame, admission)) rest copies) :
      Repeated frame channel rest ((frame, admission) :: copies)

/-- Two channels with one roster keep it in common as long as the same frames are delivered to
them. -/
theorem roster_foldl_deliver_congr {channel other : Channel}
    (hroster : channel.roster = other.roster) (deliveries : List Delivery) :
    (deliveries.foldl deliver channel).roster = (deliveries.foldl deliver other).roster := by
  induction deliveries generalizing channel other with
  | nil => exact hroster
  | cons delivery deliveries ih =>
      refine ih ?_
      rw [roster_deliver, roster_deliver, hroster]

theorem Repeated.roster_eq {channel : Channel} {frame : Frame} {rest copies : List Delivery}
    (hopening : frame.body = .control .sessionOpen) (h : Repeated frame channel rest copies) :
    (copies.foldl deliver channel).roster = (rest.foldl deliver channel).roster := by
  induction h with
  | nil => rfl
  | cons delivery _ ih => exact ih
  | @copy channel rest _ admission hidle _ ih =>
      -- The runs part here, in channels that have their rosters in common and no more.
      have hsame : (channel.deliver (frame, admission)).roster = channel.roster := by
        rw [roster_deliver]
        exact (Roster.receive_eq_self_iff hopening).mpr hidle
      exact ih.trans (roster_foldl_deliver_congr hsame rest)

/-- **Duplicates are lost on the sessions.** Copies of a frame that opened a session, each of which
comes while the session is live, or is refused by the application, or comes to a closed channel,
leave the session table, the endpoints and the sessions published as new as they are without the
copies. -/
theorem duplicates_harmless (channel : Channel) (front : List Delivery)
    {rest copies : List Delivery} {opening : Frame} {admission : Admission}
    (hopening : opening.body = .control .sessionOpen)
    (hcopies : Repeated opening ((front ++ [(opening, admission)]).foldl deliver channel)
      rest copies) :
    let without := (front ++ (opening, admission) :: rest).foldl deliver channel
    let doubled := (front ++ (opening, admission) :: copies).foldl deliver channel
    doubled.sessions = without.sessions ∧ doubled.endpoints = without.endpoints ∧
      doubled.changes.filterMap Change.created? = without.changes.filterMap Change.created? := by
  intro without doubled
  have hroster : doubled.roster = without.roster := by
    have hrest := hcopies.roster_eq hopening
    rw [← List.foldl_append, ← List.foldl_append, List.append_assoc, List.append_assoc] at hrest
    exact hrest
  exact ⟨congrArg Roster.sessions hroster, congrArg Roster.endpoints hroster,
    congrArg Roster.created hroster⟩

/-- One copy comes while the session is live, and another, after its end, is refused. -/
theorem duplicates_harmless_while_live :
    let channel := create default 4
    let opening : Delivery :=
      ({ port := 80, session := 2, body := .control .sessionOpen }, .ok .queue)
    let refused : Delivery := (opening.1, .error (.refused 80))
    let payload : Delivery := ({ port := 80, session := 2, body := .data [7] }, .ok .queue)
    let closing : Delivery :=
      ({ port := 80, session := 2, body := .control .sessionClose }, .ok .queue)
    Repeated opening.1 (channel.deliver opening) [payload, closing]
        [payload, opening, closing, refused] ∧
      ([opening, payload, opening, closing, refused].foldl deliver channel).endpoints =
        ([opening, payload, closing].foldl deliver channel).endpoints := by
  intro channel opening refused payload closing
  have hcopies : Repeated opening.1 (channel.deliver opening) [payload, closing]
      [payload, opening, closing, refused] := by
    refine .cons payload (.copy _ ?_ (.cons closing (.copy _ ?_ .nil)))
    · rintro ⟨-, hfind, -⟩
      revert hfind
      decide
    · rintro ⟨-, -, kind, hadmission⟩
      cases hadmission
  exact ⟨hcopies, (duplicates_harmless channel [] rfl hcopies).2.1⟩

/-- A copy that comes after the end of the session begins it anew. -/
theorem duplicate_after_end :
    let channel := create default 4
    let opening : Delivery :=
      ({ port := 80, session := 2, body := .control .sessionOpen }, .ok .queue)
    let closing : Delivery :=
      ({ port := 80, session := 2, body := .control .sessionClose }, .ok .queue)
    let without := [opening, closing].foldl deliver channel
    let doubled := [opening, closing, opening].foldl deliver channel
    doubled.sessions ≠ without.sessions ∧ doubled.endpoints ≠ without.endpoints ∧
      doubled.changes.filterMap Change.created? ≠ without.changes.filterMap Change.created? := by
  decide

end Channel

end SessionMux
