import SessionMux.Proofs.Channel.Answers
import SessionMux.Proofs.Host.Handle

/-!
# Sessions do not concern each other

All sessions of a channel share its table, its counters, its outbound queue and the list of those
who wait for an acknowledgement. `Channel.share` is the part of all this that belongs to one session
id. It goes its way as if there were no other sessions: a frame for the id does to it what
`Share.receive` says, which looks at nothing else, and a frame for another id leaves it alone. So
what the peer sends for other sessions can neither be seen nor felt by a session
(`Host.sessions_isolated`).
-/

namespace SessionMux

def Session.figures (session : Session) : UInt16 × Nat × Nat :=
  (session.port, session.bytesIn, session.bytesOut)

@[ext]
structure Share where
  id : UInt32
  closed : Bool
  /-- Port and counters, while a session with the id is live. -/
  live? : Option (UInt16 × Nat × Nat)
  /-- The endpoints of all sessions that had the id, oldest first. -/
  endpoints : List Endpoint
  changes : List Change
  /-- Who waits for the acknowledgement of a close. -/
  waiter? : Option Caller

namespace Share

def publish (share : Share) (change : Change) : Share :=
  { share with changes := share.changes ++ [change] }

def tell (share : Share) (message : Message) : Share :=
  { share with
    endpoints := share.endpoints.dropLast ++ share.endpoints.getLast?.toList.map (·.tell message) }

def begin (share : Share) (port : UInt16) (kind : EndpointKind) : Share :=
  { share with
    live? := some (port, 0, 0)
    endpoints := share.endpoints ++ [Endpoint.create share.id port kind true] }.publish
    (.sessionCreate share.id port)

def remove (share : Share) : Share :=
  match share.live? with
  | none => share
  | some _ => { share.tell .closed with live? := none }.publish (.sessionClose share.id)

def refusal? (share : Share) (payload : Bytes) : Option EndpointError :=
  share.endpoints.getLast?.bind (·.refusal? payload)

def hear (share : Share) (payload : Bytes) : Share :=
  match share.live? with
  | none => share
  | some (port, bytesIn, bytesOut) =>
    let told :=
      { share.tell (.data payload) with
        live? := some (port, bytesIn + payload.length, bytesOut) }.publish
        (.sessionTransaction share.id payload.length 0)
    match share.refusal? payload with
    | none => told
    | some error =>
      (told.publish (.sessionError share.id
        { code := .connReset, level := .warning
          message := s!"local endpoint failed: {error.message}" })).remove

def receive (share : Share) (port : UInt16) (body : FrameBody) (admission : Admission) : Share :=
  if share.closed then share
  else
    match body with
    | .data payload => share.hear payload
    | .control .sessionOpen =>
      match share.live?, admission with
      | none, .ok kind => share.begin port kind
      | _, _ => share
    | .control .sessionClose => share.remove
    | .control .sessionCloseAck => { share with waiter? := none }
    | .control (.other _) => share
    | .error code =>
      match share.live? with
      | none => share
      | some _ =>
        (share.tell (.error code)).publish (.sessionError share.id
          { code, level := .error, message := s!"peer reported {code.text}" })

def reply? (share : Share) (port : UInt16) (body : FrameBody) (admission : Admission) :
    Option Frame :=
  if share.closed then none
  else
    match body with
    | .control .sessionClose =>
      some { port, session := share.id, body := .control .sessionCloseAck }
    | .control .sessionOpen =>
      match share.live?, admission with
      | none, .error _ => some { port, session := share.id, body := .error .connRefused }
      | _, _ => none
    | .data payload =>
      share.live?.bind fun entry => (share.refusal? payload).map fun _ =>
        { port := entry.1, session := share.id, body := .control .sessionClose }
    | .control .sessionCloseAck | .control (.other _) | .error _ => none

def receiveAll (policy : UInt32 → UInt16 → Admission) (share : Share) (frames : List Frame) :
    Share :=
  frames.foldl
    (fun share frame => share.receive frame.port frame.body (policy frame.session frame.port)) share

def replies (policy : UInt32 → UInt16 → Admission) (share : Share) : List Frame → List Frame
  | [] => []
  | frame :: frames =>
    (share.reply? frame.port frame.body (policy frame.session frame.port)).toList ++
      (share.receive frame.port frame.body (policy frame.session frame.port)).replies policy frames

end Share

namespace Channel

def share (channel : Channel) (id : UInt32) : Share where
  id := id
  closed := channel.closed
  live? := (channel.sessions.find? id).map Session.figures
  endpoints := channel.endpoints.filter (·.session = id)
  changes := channel.changes.filter (·.session? = some id)
  waiter? := channel.pendingClose.lookup id

def Homed (channel : Channel) : Prop := (channel.ledger []).Homed

variable {channel : Channel} {id key : UInt32} {session : Session}

theorem Homed.receive (h : channel.Homed) (frame : Frame) (admission : Admission) :
    (channel.receive frame admission).Homed := by
  have hreceives : (channel.ledger []).Receives frame admission _ :=
    receives_receive frame admission
  exact hreceives.homed h

/-- The endpoints, parted at that of a live session. -/
theorem Homed.endpoints (h : channel.Homed) (hfind : channel.sessions.find? key = some session) :
    ∃ front endpoint rear, channel.endpoints = front ++ endpoint :: rear ∧
      front.length = session.endpoint ∧ endpoint.session = key ∧
      rear.filter (·.session = key) = [] ∧
      ∀ message, (channel.tell session.endpoint message).endpoints =
        front ++ endpoint.tell message :: rear := by
  obtain ⟨front, rear, howners, hlength, hrear⟩ := h key session hfind
  have hmap : channel.endpoints.map (·.session) = front ++ key :: rear := by
    rw [← howners]
    simp [Ledger.owners, ledger]
  obtain ⟨before, rest, hsplit, rfl, hrest⟩ := List.map_eq_append_iff.mp hmap
  obtain ⟨endpoint, after, rfl, howner, rfl⟩ := List.map_eq_cons_iff.mp hrest
  rw [List.length_map] at hlength
  refine ⟨before, endpoint, after, hsplit, hlength, howner, ?_, fun message => ?_⟩
  · rw [List.filter_eq_nil_iff]
    intro other hmem
    rw [decide_eq_true_iff]
    exact fun heq => hrear (heq ▸ List.mem_map_of_mem hmem)
  · simp [tell, Channel.signal, hsplit, ← hlength, List.modify_eq_take_cons_drop]

theorem Homed.refusal? (h : channel.Homed) (hfind : channel.sessions.find? key = some session)
    (payload : Bytes) :
    channel.endpoints[session.endpoint]?.bind (·.refusal? payload) =
      (channel.share key).refusal? payload := by
  obtain ⟨front, endpoint, rear, hsplit, hlength, rfl, hrear, -⟩ := h.endpoints hfind
  have hlast : (channel.share endpoint.session).endpoints =
      front.filter (·.session = endpoint.session) ++ [endpoint] := by
    simp [share, hsplit, hrear]
  rw [Share.refusal?, hlast, List.getLast?_concat, hsplit, ← hlength]
  simp

/-! ### The operations, seen from the session that they are about, and from another -/

@[simp]
theorem share_publish_self {change : Change} (hchange : change.session? = some id) :
    (channel.publish change).share id = (channel.share id).publish change := by
  simp [share, publish, Share.publish, hchange]

@[simp]
theorem share_publish_ne {change : Change} (hchange : change.session? ≠ some id) :
    (channel.publish change).share id = channel.share id := by
  simp [share, publish, hchange]

@[simp]
theorem share_report (code : ErrorCode) (level : Level) (message : String) :
    (channel.report code level message).share id = channel.share id :=
  share_publish_ne nofun

@[simp]
theorem share_enqueue (frame : Frame) : (channel.enqueue frame).share id = channel.share id := by
  unfold enqueue
  split_ifs <;> rfl

theorem share_tell_self (h : channel.Homed) (hfind : channel.sessions.find? key = some session)
    (message : Message) :
    (channel.tell session.endpoint message).share key = (channel.share key).tell message := by
  obtain ⟨front, endpoint, rear, hsplit, -, rfl, hrear, htold⟩ := h.endpoints hfind
  have hendpoints : ((channel.tell session.endpoint message).share endpoint.session).endpoints =
      ((channel.share endpoint.session).tell message).endpoints := by
    simp [share, Share.tell, htold, hsplit, hrear, Endpoint.tell]
  exact Share.ext rfl rfl rfl hendpoints rfl rfl

theorem share_tell_ne (h : channel.Homed) (hfind : channel.sessions.find? key = some session)
    (hne : id ≠ key) (message : Message) :
    (channel.tell session.endpoint message).share id = channel.share id := by
  obtain ⟨front, endpoint, rear, hsplit, -, rfl, -, htold⟩ := h.endpoints hfind
  have hendpoints : ((channel.tell session.endpoint message).share id).endpoints =
      (channel.share id).endpoints := by
    simp [share, htold, hsplit, Endpoint.tell, Ne.symm hne]
  exact Share.ext rfl rfl rfl hendpoints rfl rfl

theorem share_removeSession_self (h : channel.Homed) :
    (channel.removeSession key).share key = (channel.share key).remove := by
  unfold removeSession Share.remove
  rw [show (channel.share key).live? = (channel.sessions.find? key).map Session.figures from rfl]
  cases hfind : channel.sessions.find? key with
  | none => rfl
  | some session =>
      dsimp only [Option.map_some]
      rw [share_publish_self rfl, ← share_tell_self h hfind]
      simp [share]

theorem share_removeSession_ne (h : channel.Homed) (hne : id ≠ key) :
    (channel.removeSession key).share id = channel.share id := by
  unfold removeSession
  cases hfind : channel.sessions.find? key with
  | none => rfl
  | some session =>
      dsimp only
      rw [share_publish_ne (by simpa [Change.session?] using Ne.symm hne),
        ← share_tell_ne h hfind hne .closed]
      simp [share, hne, tell, Channel.signal]

/-! ### Frames of the peer -/

def handOver (channel : Channel) (id : UInt32) (session : Session) (payload : Bytes) : Channel :=
  { channel.tell session.endpoint (.data payload) with
    sessions := channel.sessions.insert id
      { session with bytesIn := session.bytesIn + payload.length }
    bytesIn := channel.bytesIn + payload.length }.publish (.sessionTransaction id payload.length 0)

theorem receiveData_of_find? (hfind : channel.sessions.find? key = some session) (port : UInt16)
    (payload : Bytes) :
    channel.receiveData port key payload =
      match channel.endpoints[session.endpoint]?.bind (·.refusal? payload) with
      | none => channel.handOver key session payload
      | some error =>
        (((channel.handOver key session payload).publish (.sessionError key
          { code := .connReset, level := .warning
            message := s!"local endpoint failed: {error.message}" })).removeSession key).enqueue
          { port := session.port, session := key, body := .control .sessionClose } := by
  rw [receiveData, hfind]
  rfl

section HandOver

variable (h : channel.Homed) (hfind : channel.sessions.find? key = some session) (payload : Bytes)
include h hfind

theorem Homed.handOver : (channel.handOver key session payload).Homed := by
  have hinserted := Ledger.Homed.insert h hfind
    { session with bytesIn := session.bytesIn + payload.length } rfl
  have howners : ((channel.handOver key session payload).ledger []).owners =
      (channel.ledger []).owners := by
    have htold := (channel.ledger []).owners_tell session.endpoint (.data payload)
    rw [← ledger_tell] at htold
    exact htold
  exact hinserted.of_same howners rfl

theorem share_handOver_self :
    (channel.handOver key session payload).share key =
      { (channel.share key).tell (.data payload) with
        live? := some (session.port, session.bytesIn + payload.length, session.bytesOut) }.publish
        (.sessionTransaction key payload.length 0) := by
  rw [handOver, share_publish_self rfl, ← share_tell_self h hfind]
  simp [share, Session.figures]

theorem share_handOver_ne (hne : id ≠ key) :
    (channel.handOver key session payload).share id = channel.share id := by
  rw [handOver, share_publish_ne (by simpa [Change.session?] using Ne.symm hne),
    ← share_tell_ne h hfind hne (.data payload)]
  simp [share, hne, tell, Channel.signal]

end HandOver

theorem share_receiveData_self (h : channel.Homed) (port : UInt16) (payload : Bytes) :
    (channel.receiveData port key payload).share key = (channel.share key).hear payload := by
  unfold Share.hear
  rw [show (channel.share key).live? = (channel.sessions.find? key).map Session.figures from rfl]
  cases hfind : channel.sessions.find? key with
  | none =>
      rw [receiveData, hfind]
      exact share_report _ _ _
  | some session =>
      have hhanded := share_handOver_self h hfind payload
      rw [receiveData_of_find? hfind, h.refusal? hfind]
      simp only [Option.map_some, Session.figures]
      cases (channel.share key).refusal? payload with
      | none => exact hhanded
      | some error =>
          dsimp only
          rw [share_enqueue, share_removeSession_self (by exact h.handOver hfind payload),
            share_publish_self rfl, hhanded]
          rfl

theorem share_receiveData_ne (h : channel.Homed) (hne : id ≠ key) (port : UInt16)
    (payload : Bytes) : (channel.receiveData port key payload).share id = channel.share id := by
  cases hfind : channel.sessions.find? key with
  | none =>
      rw [receiveData, hfind]
      exact share_report _ _ _
  | some session =>
      have hhanded := share_handOver_ne h hfind payload hne
      rw [receiveData_of_find? hfind]
      cases channel.endpoints[session.endpoint]?.bind (·.refusal? payload) with
      | none => exact hhanded
      | some error =>
          dsimp only
          rw [share_enqueue, share_removeSession_ne (by exact h.handOver hfind payload) hne,
            share_publish_ne (by simpa [Change.session?] using Ne.symm hne), hhanded]

theorem share_receiveOpen_self (port : UInt16) (admission : Admission) :
    (channel.receiveOpen port key admission).share key =
      match (channel.share key).live?, admission with
      | none, .ok kind => (channel.share key).begin port kind
      | _, _ => channel.share key := by
  unfold receiveOpen
  rw [show (channel.share key).live? = (channel.sessions.find? key).map Session.figures from rfl]
  cases channel.sessions.find? key with
  | some session =>
      dsimp only [Option.map_some]
      split_ifs
      · rfl
      · exact share_report _ _ _
  | none =>
      cases admission with
      | error error =>
          dsimp only [Option.map_none]
          rw [share_report, share_enqueue]
      | ok kind =>
          dsimp only [Option.map_none]
          rw [share_publish_self rfl, Share.begin]
          simp [share, addSession, Session.figures, Session.create, Endpoint.create]

theorem share_receiveOpen_ne (hne : id ≠ key) (port : UInt16) (admission : Admission) :
    (channel.receiveOpen port key admission).share id = channel.share id := by
  unfold receiveOpen
  cases channel.sessions.find? key with
  | some session =>
      dsimp only
      split_ifs
      · rfl
      · exact share_report _ _ _
  | none =>
      cases admission with
      | error error =>
          dsimp only
          rw [share_report, share_enqueue]
      | ok kind =>
          dsimp only
          rw [share_publish_ne (by simpa [Change.session?] using Ne.symm hne)]
          simp [share, addSession, Endpoint.create, hne, Ne.symm hne]

theorem share_receiveCloseAck_self :
    (channel.receiveCloseAck key).share key = { channel.share key with waiter? := none } := by
  unfold receiveCloseAck
  cases hlookup : channel.pendingClose.lookup key with
  | none => simp [share, hlookup]
  | some caller =>
      have hwaiter := (lookup_filter_ne key key channel.pendingClose).trans (if_pos rfl)
      exact Share.ext rfl rfl rfl rfl rfl hwaiter

theorem share_receiveCloseAck_ne (hne : id ≠ key) :
    (channel.receiveCloseAck key).share id = channel.share id := by
  unfold receiveCloseAck
  cases channel.pendingClose.lookup key with
  | none => rfl
  | some caller =>
      have hwaiter := (lookup_filter_ne key id channel.pendingClose).trans (if_neg hne)
      exact Share.ext rfl rfl rfl rfl rfl hwaiter

theorem share_receiveError_self (h : channel.Homed) (code : ErrorCode) :
    (channel.receiveError key code).share key =
      match (channel.share key).live? with
      | none => channel.share key
      | some _ =>
        ((channel.share key).tell (.error code)).publish (.sessionError key
          { code, level := .error, message := s!"peer reported {code.text}" }) := by
  unfold receiveError
  rw [show (channel.share key).live? = (channel.sessions.find? key).map Session.figures from rfl]
  cases hfind : channel.sessions.find? key with
  | none => exact share_report _ _ _
  | some session =>
      dsimp only [Option.map_some]
      rw [share_publish_self rfl, share_tell_self h hfind]

theorem share_receiveError_ne (h : channel.Homed) (hne : id ≠ key) (code : ErrorCode) :
    (channel.receiveError key code).share id = channel.share id := by
  unfold receiveError
  cases hfind : channel.sessions.find? key with
  | none => exact share_report _ _ _
  | some session =>
      dsimp only
      rw [share_publish_ne (by simpa [Change.session?] using Ne.symm hne),
        share_tell_ne h hfind hne]

/-- **A frame for the session** does to its share what can be told from the share alone. -/
theorem share_receive_self (h : channel.Homed) (frame : Frame) (admission : Admission) :
    (channel.receive frame admission).share frame.session =
      (channel.share frame.session).receive frame.port frame.body admission := by
  unfold receive Share.receive
  rw [show (channel.share frame.session).closed = channel.closed from rfl]
  split_ifs
  · rfl
  · cases frame.body with
    | data payload => exact share_receiveData_self h frame.port payload
    | error code => exact share_receiveError_self h code
    | control code =>
        cases code with
        | sessionOpen => exact share_receiveOpen_self frame.port admission
        | sessionClose =>
            simp only [receiveControl, receiveClose, share_enqueue]
            exact share_removeSession_self h
        | sessionCloseAck => exact share_receiveCloseAck_self
        | other number => exact share_report _ _ _

/-- **A frame for another session** leaves the share of a session alone. -/
theorem share_receive_ne (h : channel.Homed) {frame : Frame} (hne : id ≠ frame.session)
    (admission : Admission) : (channel.receive frame admission).share id = channel.share id := by
  unfold receive
  split_ifs
  · rfl
  · cases frame.body with
    | data payload => exact share_receiveData_ne h hne frame.port payload
    | error code => exact share_receiveError_ne h hne code
    | control code =>
        cases code with
        | sessionOpen => exact share_receiveOpen_ne hne frame.port admission
        | sessionClose =>
            simp only [receiveControl, receiveClose, share_enqueue]
            exact share_removeSession_ne h hne
        | sessionCloseAck => exact share_receiveCloseAck_ne hne
        | other number => exact share_report _ _ _

/-- The reply to a frame, too, can be told from the share of its session. -/
theorem reply?_eq (h : channel.Homed) (frame : Frame) (admission : Admission) :
    channel.reply? frame admission =
      (channel.share frame.session).reply? frame.port frame.body admission := by
  unfold reply? Share.reply?
  rw [show (channel.share frame.session).closed = channel.closed from rfl,
    show (channel.share frame.session).live? =
      (channel.sessions.find? frame.session).map Session.figures from rfl]
  split_ifs
  · rfl
  · cases frame.body with
    | error code => rfl
    | control code =>
        cases code with
        | sessionOpen =>
            cases channel.sessions.find? frame.session <;> cases admission <;> rfl
        | sessionClose | sessionCloseAck | other => rfl
    | data payload =>
        cases hfind : channel.sessions.find? frame.session with
        | none => rfl
        | some session =>
            simp only [Option.bind_some, Option.map_some, h.refusal? hfind]
            rfl

/-! ### Many frames -/

/-- Handles frames one after another. Whether the application takes a session depends on its id and
its port. -/
def receiveAll (policy : UInt32 → UInt16 → Admission) (channel : Channel) (frames : List Frame) :
    Channel :=
  frames.foldl (fun channel frame => channel.receive frame (policy frame.session frame.port))
    channel

def replies (policy : UInt32 → UInt16 → Admission) (channel : Channel) : List Frame → List Frame
  | [] => []
  | frame :: frames =>
    (channel.reply? frame (policy frame.session frame.port)).toList ++
      (channel.receive frame (policy frame.session frame.port)).replies policy frames

variable (policy : UInt32 → UInt16 → Admission)

theorem share_receiveAll (h : channel.Homed) (id : UInt32) (frames : List Frame) :
    (channel.receiveAll policy frames).share id =
      (channel.share id).receiveAll policy (frames.filter (·.session = id)) := by
  induction frames generalizing channel with
  | nil => rfl
  | cons frame frames ih =>
      have hrest := ih (h.receive frame (policy frame.session frame.port))
      rw [receiveAll, List.foldl_cons, ← receiveAll, hrest]
      by_cases hsession : frame.session = id
      · subst hsession
        rw [share_receive_self h, List.filter_cons_of_pos (by simp)]
        rfl
      · rw [share_receive_ne h (Ne.symm hsession),
          List.filter_cons_of_neg (by simpa using hsession)]

theorem filter_replies (h : channel.Homed) (id : UInt32) (frames : List Frame) :
    (channel.replies policy frames).filter (·.session = id) =
      (channel.share id).replies policy (frames.filter (·.session = id)) := by
  induction frames generalizing channel with
  | nil => rfl
  | cons frame frames ih =>
      have hrest := ih (h.receive frame (policy frame.session frame.port))
      have habout : ∀ reply ∈ (channel.reply? frame (policy frame.session frame.port)).toList,
          reply.session = frame.session := fun reply hmem =>
        session_of_reply? (Option.mem_toList.mp hmem)
      rw [replies, List.filter_append, hrest]
      by_cases hsession : frame.session = id
      · subst hsession
        have hown : (channel.reply? frame (policy frame.session frame.port)).toList.filter
            (·.session = frame.session) =
              (channel.reply? frame (policy frame.session frame.port)).toList :=
          List.filter_eq_self.mpr fun reply hmem => by simpa using habout reply hmem
        rw [hown, reply?_eq h, share_receive_self h, List.filter_cons_of_pos (by simp)]
        rfl
      · have hforeign : (channel.reply? frame (policy frame.session frame.port)).toList.filter
            (·.session = id) = [] :=
          List.filter_eq_nil_iff.mpr fun reply hmem => by
            simpa [habout reply hmem] using hsession
        rw [hforeign, share_receive_ne h (Ne.symm hsession),
          List.filter_cons_of_neg (by simpa using hsession)]
        rfl

theorem outflow_receiveAll (channel : Channel) (frames : List Frame) :
    (channel.receiveAll policy frames).outflow =
      (channel.replies policy frames).foldl Outflow.answer channel.outflow := by
  induction frames generalizing channel with
  | nil => rfl
  | cons frame frames ih =>
      rw [receiveAll, List.foldl_cons, ← receiveAll, ih, replies, List.foldl_append,
        outflow_receive]
      cases channel.reply? frame (policy frame.session frame.port) <;> rfl

end Channel

namespace Host

variable {host : Host}

theorem Reachable.homed_channel (h : host.Reachable) : host.channel.Homed :=
  h.housed.homed.of_same rfl rfl

/-- **Sessions are isolated from each other.** Take any channel that a run has led to, and two lists
of frames of the peer that agree in what they hold for one session id. Whatever they hold for other
ids, and in whatever order, in the end the id has the same entry in the table, the endpoints of all
its sessions were told the same, the same changes that name it were reported, the same caller waits
for the acknowledgement of its close, and the same replies that name it are in the queue or wait for
a place there. -/
theorem sessions_isolated (hreachable : host.Reachable) (policy : UInt32 → UInt16 → Admission)
    (id : UInt32) {first second : List Frame}
    (hsame : first.filter (·.session = id) = second.filter (·.session = id)) :
    let one := host.channel.receiveAll policy first
    let other := host.channel.receiveAll policy second
    (one.sessions.find? id).map Session.figures = (other.sessions.find? id).map Session.figures ∧
      one.endpoints.filter (·.session = id) = other.endpoints.filter (·.session = id) ∧
      one.changes.filter (·.session? = some id) = other.changes.filter (·.session? = some id) ∧
      one.pendingClose.lookup id = other.pendingClose.lookup id ∧
      (one.outflow.repliesSince host.channel.outflow).filter (·.session = id) =
        (other.outflow.repliesSince host.channel.outflow).filter (·.session = id) := by
  intro one other
  have hhomed := hreachable.homed_channel
  have hshare : one.share id = other.share id := by
    rw [Channel.share_receiveAll policy hhomed, Channel.share_receiveAll policy hhomed, hsame]
  have hreplies : (host.channel.replies policy first).filter (·.session = id) =
      (host.channel.replies policy second).filter (·.session = id) := by
    rw [Channel.filter_replies policy hhomed, Channel.filter_replies policy hhomed, hsame]
  refine ⟨congrArg Share.live? hshare, congrArg Share.endpoints hshare,
    congrArg Share.changes hshare, congrArg Share.waiter? hshare, ?_⟩
  rw [Channel.outflow_receiveAll, Channel.outflow_receiveAll]
  cases hdraining : host.channel.outflow.outbox.draining with
  | true =>
      rw [Outflow.repliesSince_foldl_answer hdraining, Outflow.repliesSince_foldl_answer hdraining,
        hreplies]
  | false =>
      rw [Outflow.repliesSince_foldl_answer_of_not_draining hdraining,
        Outflow.repliesSince_foldl_answer_of_not_draining hdraining]

/-- A session of the peer, a session of its own that is being closed, and a queue with one place,
which is taken. -/
def divided : Host :=
  [.hear { port := 80, session := 2, body := .control .sessionOpen } (.ok .queue),
    .act (.call (.openSession 81 .queue) false), .act (.turn 0), .take,
    .act (.call (.closeSession 1) false), .act (.turn 1), .act (.turn 1)].foldl Host.move
    (create default 1 { rules := [], accepting := true })

/-- Another session is opened, fails and is closed, a third is refused, and the close of the first
is acknowledged, while the peer sends on its session and closes it. -/
theorem sessions_isolated_crowd :
    let policy := fun (_ : UInt32) (port : UInt16) =>
      if port = 82 then .ok .full else .error (.refused port)
    let own : List Frame := [{ port := 80, session := 2, body := .data [7, 8] },
      { port := 80, session := 2, body := .control .sessionClose }]
    let crowd : List Frame := [{ port := 82, session := 4, body := .control .sessionOpen },
      { port := 80, session := 2, body := .data [7, 8] },
      { port := 82, session := 4, body := .data [9] },
      { port := 83, session := 6, body := .control .sessionOpen },
      { port := 81, session := 1, body := .control .sessionCloseAck },
      { port := 80, session := 2, body := .control .sessionClose },
      { port := 82, session := 4, body := .control .sessionClose }]
    let one := divided.channel.receiveAll policy own
    let other := divided.channel.receiveAll policy crowd
    one.endpoints.filter (·.session = 2) = other.endpoints.filter (·.session = 2) ∧
      one.changes.filter (·.session? = some 2) = other.changes.filter (·.session? = some 2) ∧
      (one.outflow.repliesSince divided.channel.outflow).filter (·.session = 2) =
        (other.outflow.repliesSince divided.channel.outflow).filter (·.session = 2) ∧
      (one.outflow.repliesSince divided.channel.outflow).length = 1 ∧
      (other.outflow.repliesSince divided.channel.outflow).length = 4 := by
  intro policy own crowd one other
  have hreachable : divided.Reachable := ⟨_, _, _, _, rfl⟩
  have hsame : own.filter (·.session = 2) = crowd.filter (·.session = 2) := by decide
  obtain ⟨-, hendpoints, hchanges, -, hreplies⟩ :=
    sessions_isolated hreachable policy 2 hsame
  exact ⟨hendpoints, hchanges, hreplies, by decide, by decide⟩

end Host

end SessionMux
