import Mathlib.Data.UInt
import SessionMux.Proofs.Channel.Ledger
import SessionMux.Proofs.Channel.Sessions

/-!
# What one section of work does to a ledger

Two relations say everything that can happen to a ledger between two points at which another task
may take its turn: `Ledger.Works` for a section of local work, be it of a call, of a reply that
found the queue full, or of the application, and `Ledger.Receives` for a frame of the peer. The
operations of a channel are shown to be covered by them once, here; what holds of every run is then
a case analysis on these two.
-/

namespace SessionMux

namespace Ledger

/-- One section of local work, with the payload that it sends, if it sends one. -/
inductive Works (ledger : Ledger) : Option (UInt32 × Bytes) → Ledger → Prop
  /-- The call waits, fails, or does something that is no concern of the ledger. -/
  | rests : Works ledger none ledger
  | sends {id : UInt32} {session : Session} (payload : Bytes) (hopen : ledger.closed = false)
      (hfind : ledger.sessions.find? id = some session) :
      Works ledger (some (id, payload)) (ledger.send id session payload)
  | opens {id : UInt32} (port : UInt16) (hopen : ledger.closed = false)
      (hfind : ledger.sessions.find? id = none) (hnext : ledger.nextSession ≤ id.toNat)
      (hparity : id.toNat % 2 = ledger.nextSession % 2) :
      Works ledger none (({ ledger with nextSession := id.toNat + 2 }.add id port).push
        { port, session := id, body := .control .sessionOpen })
  /-- There is no id left for a session. -/
  | exhausts {next : Nat} (hnext : ledger.nextSession ≤ next)
      (hparity : next % 2 = ledger.nextSession % 2) :
      Works ledger none { ledger with nextSession := next }
  | closes {id : UInt32} {session : Session} (hopen : ledger.closed = false)
      (hfind : ledger.sessions.find? id = some session) :
      Works ledger none ((ledger.remove id).push
        { port := session.port, session := id, body := .control .sessionClose })
  | complains {id : UInt32} {session : Session} (code : ErrorCode) (hopen : ledger.closed = false)
      (hfind : ledger.sessions.find? id = some session) :
      Works ledger none
        ((ledger.push { port := session.port, session := id, body := .error code }).publish
          (.sessionError id
            { code, level := .warning, message := s!"local endpoint reported {code.text}" }))
  /-- A reply that had to wait goes into the queue. -/
  | answers {front rear : List Frame} {frame : Frame}
      (hreplies : ledger.replies = front ++ frame :: rear) :
      Works ledger none ({ ledger with replies := front ++ rear }.push frame)
  | shuts (hopen : ledger.closed = false) : Works ledger none ledger.close
  | fails (code : ErrorCode) (message : String) (hopen : ledger.closed = false) :
      Works ledger none
        (ledger.publish (.channelError { code, level := .critical, message })).close

def Replies (ledger : Ledger) (frame : Frame) (next : Ledger) : Prop :=
  next = ledger.push frame ∨ (ledger.draining = true ∧ next = ledger.defer frame)

/-- What a frame from the peer does. `admission` answers a session that the frame opens. -/
inductive Receives (frame : Frame) (admission : Admission) (ledger : Ledger) : Ledger → Prop
  /-- A closed channel drops frames. -/
  | drops (hclosed : ledger.closed = true) : Receives frame admission ledger ledger
  | strays {payload : Bytes} (hopen : ledger.closed = false) (hbody : frame.body = .data payload)
      (hfind : ledger.sessions.find? frame.session = none) :
      Receives frame admission ledger (ledger.publish (.channelError
        { code := .notConnected, level := .warning
          message := s!"DATA for unknown session {frame.session} (port {frame.port}) dropped" }))
  | takes {payload : Bytes} {session : Session} (hopen : ledger.closed = false)
      (hbody : frame.body = .data payload)
      (hfind : ledger.sessions.find? frame.session = some session) :
      Receives frame admission ledger (ledger.receive frame.session session payload)
  /-- The endpoint does not take the payload, and the session ends. -/
  | rejects {payload : Bytes} {session : Session} (error : EndpointError) {next : Ledger}
      (hopen : ledger.closed = false) (hbody : frame.body = .data payload)
      (hfind : ledger.sessions.find? frame.session = some session)
      (hreply : Replies (((ledger.receive frame.session session payload).publish
          (.sessionError frame.session
            { code := .connReset, level := .warning
              message := s!"local endpoint failed: {error.message}" })).remove frame.session)
        { port := session.port, session := frame.session, body := .control .sessionClose } next) :
      Receives frame admission ledger next
  | repeats {session : Session} (hopen : ledger.closed = false)
      (hbody : frame.body = .control .sessionOpen)
      (hfind : ledger.sessions.find? frame.session = some session)
      (hport : session.port = frame.port) : Receives frame admission ledger ledger
  | conflicts {session : Session} (hopen : ledger.closed = false)
      (hbody : frame.body = .control .sessionOpen)
      (hfind : ledger.sessions.find? frame.session = some session)
      (hport : session.port ≠ frame.port) :
      Receives frame admission ledger (ledger.publish (.channelError
        { code := .isConnected, level := .warning
          message :=
            s!"open for session {frame.session} on port {frame.port} conflicts with port " ++
              s!"{session.port}" }))
  | admits {kind : EndpointKind} (hopen : ledger.closed = false)
      (hbody : frame.body = .control .sessionOpen)
      (hfind : ledger.sessions.find? frame.session = none) (hadmission : admission = .ok kind) :
      Receives frame admission ledger (ledger.add frame.session frame.port)
  | refuses {error : EndpointError} {next : Ledger} (hopen : ledger.closed = false)
      (hbody : frame.body = .control .sessionOpen)
      (hfind : ledger.sessions.find? frame.session = none) (hadmission : admission = .error error)
      (hreply : Replies ledger
        { port := frame.port, session := frame.session, body := .error .connRefused } next) :
      Receives frame admission ledger (next.publish (.channelError
        { code := .connRefused, level := .warning
          message := s!"refused session {frame.session} for port {frame.port}: {error.message}" }))
  | ends {next : Ledger} (hopen : ledger.closed = false)
      (hbody : frame.body = .control .sessionClose)
      (hreply : Replies (ledger.remove frame.session)
        { port := frame.port, session := frame.session, body := .control .sessionCloseAck } next) :
      Receives frame admission ledger next
  | acknowledges (hopen : ledger.closed = false)
      (hbody : frame.body = .control .sessionCloseAck) : Receives frame admission ledger ledger
  | misreads {number : UInt16} (hopen : ledger.closed = false)
      (hbody : frame.body = .control (.other number)) :
      Receives frame admission ledger (ledger.publish (.channelError
        { code := .protocol, level := .warning
          message := s!"unknown control code {number} for session {frame.session}" }))
  | warns {code : ErrorCode} {session : Session} (hopen : ledger.closed = false)
      (hbody : frame.body = .error code)
      (hfind : ledger.sessions.find? frame.session = some session) :
      Receives frame admission ledger ((ledger.tell session.endpoint (.error code)).publish
        (.sessionError frame.session
          { code, level := .error, message := s!"peer reported {code.text}" }))
  | notes {code : ErrorCode} (hopen : ledger.closed = false) (hbody : frame.body = .error code)
      (hfind : ledger.sessions.find? frame.session = none) :
      Receives frame admission ledger (ledger.publish (.channelError
        { code, level := .error
          message := s!"peer reported {code.text} for session {frame.session}" }))

end Ledger

namespace Channel

variable {channel : Channel} {replies : List Frame}

/-! ### Requests of the application -/

theorem works_send (caller : Caller) (id : UInt32) (payload : Bytes) :
    (channel.ledger replies).Works
      ((channel.send caller id payload).1.toOption.map fun () => (id, payload))
      ((channel.send caller id payload).2.ledger replies) := by
  unfold send
  split
  · rw [ledger_giveBack]
    exact .rests
  · rename_i hopen
    split
    · rw [ledger_giveBack]
      exact .rests
    · rename_i session hfind
      simp only [ledger_publish, ledger_fill]
      exact .sends payload (Bool.eq_false_of_not_eq_true hopen) hfind

theorem reserve_eq_refused {next : Channel} {caller : Caller}
    (hreserve : channel.reserve caller = (.refused, next)) : channel.outbox.draining = false := by
  simp only [reserve, Outbox.reserve] at hreserve
  cases hdraining : channel.outbox.draining with
  | false => rfl
  | true =>
      rw [hdraining, Bool.not_true, if_neg Bool.false_ne_true] at hreserve
      split_ifs at hreserve <;> cases hreserve

theorem unused_of_not_contains {sessions : Sessions} {next : Nat} (hbound : next < sessionBound)
    (hfree : ¬ sessions.contains (UInt32.ofNat next) = true) :
    sessions.find? (UInt32.ofNat next) = none ∧ next ≤ (UInt32.ofNat next).toNat ∧
      (UInt32.ofNat next).toNat % 2 = next % 2 := by
  have hid : (UInt32.ofNat next).toNat = next := UInt32.toNat_ofNat_of_lt' hbound
  simp only [Sessions.contains, Bool.not_eq_true, Option.isSome_eq_false_iff,
    Option.isNone_iff_eq_none] at hfree
  rw [hid]
  exact ⟨hfree, le_rfl, rfl⟩

/-- The search for an id finds one that is not live, of the same parity and not below the place at
which it begins. -/
theorem firstFree?_eq_some {sessions : Sessions} {fuel next : Nat} {id : UInt32}
    (hfound : firstFree? sessions fuel next = some id) :
    sessions.find? id = none ∧ next ≤ id.toNat ∧ id.toNat % 2 = next % 2 := by
  induction fuel generalizing next with
  | zero =>
      unfold firstFree? at hfound
      split_ifs at hfound with hbound hfree
      cases hfound
      exact unused_of_not_contains hbound hfree
  | succ fuel ih =>
      unfold firstFree? at hfound
      split_ifs at hfound with hbound hfree
      · obtain ⟨hunused, hnext, hparity⟩ := ih hfound
        exact ⟨hunused, by omega, by omega⟩
      · cases hfound
        exact unused_of_not_contains hbound hfree

theorem works_openSession (caller : Caller) (port : UInt16) (kind : EndpointKind) :
    (channel.ledger replies).Works none
      ((channel.openSession caller port kind).2.ledger replies) := by
  unfold openSession
  split
  · rw [ledger_giveBack]
    exact .rests
  · rename_i hopen
    simp only
    split
    · rename_i hfound
      rw [ledger_giveBack, hfound]
      have hparity : channel.nextAfter none % 2 = channel.nextSession % 2 := by
        simp only [nextAfter, sessionBound]
        omega
      exact (.exhausts (le_max_left _ _) hparity : (channel.ledger replies).Works none _)
    · rename_i id hfound
      obtain ⟨hfind, hnext, hparity⟩ := firstFree?_eq_some hfound
      have hledger : (channel.ledger replies).Works none _ :=
        .opens port (Bool.eq_false_of_not_eq_true hopen) hfind hnext hparity
      rw [hfound, ledger_publish, ledger_fill, Ledger.publish_push, ← ledger_publish,
        ledger_addSession]
      exact hledger

theorem works_closeSession (caller : Caller) (id : UInt32) (waits : Bool) :
    (channel.ledger replies).Works none
      ((channel.closeSession caller id waits).2.ledger replies) := by
  unfold closeSession
  split
  · rw [ledger_giveBack]
    exact .rests
  · rename_i hopen
    split
    · rw [ledger_giveBack]
      exact .rests
    · rename_i session hfind
      have hledger : (channel.ledger replies).Works none _ :=
        .closes (Bool.eq_false_of_not_eq_true hopen) hfind
      cases waits with
      | false =>
          simp only [ledger_fill, ledger_removeSession, Bool.false_eq_true, if_false]
          exact hledger
      | true =>
          simp only [ledger_fill, if_true]
          rw [← ledger_removeSession] at hledger
          refine Eq.subst (motive := (channel.ledger replies).Works none) ?_ hledger
          refine congrArg (Ledger.push · _) ?_
          simp [ledger, Signal.deferred?]

theorem works_sendError (caller : Caller) (id : UInt32) (code : ErrorCode) :
    (channel.ledger replies).Works none ((channel.sendError caller id code).2.ledger replies) := by
  unfold sendError
  split
  · rw [ledger_giveBack]
    exact .rests
  · rename_i hopen
    split
    · rw [ledger_giveBack]
      exact .rests
    · rename_i session hfind
      simp only [ledger_publish, ledger_fill]
      exact .complains code (Bool.eq_false_of_not_eq_true hopen) hfind

theorem works_close : (channel.ledger replies).Works none (channel.close.ledger replies) := by
  cases hopen : channel.closed with
  | false =>
      rw [ledger_close hopen]
      exact .shuts hopen
  | true =>
      rw [close, if_pos hopen]
      exact .rests

theorem works_fail (code : ErrorCode) (message : String) :
    (channel.ledger replies).Works none ((channel.fail code message).ledger replies) := by
  cases hopen : channel.closed with
  | false =>
      rw [ledger_fail hopen]
      exact .fails code message hopen
  | true =>
      rw [fail, if_pos hopen]
      exact .rests

/-! ### Frames of the peer -/

theorem replies_enqueue (frame : Frame) :
    (channel.ledger replies).Replies frame ((channel.enqueue frame).ledger replies) :=
  ledger_enqueue frame

/-- Receiving a payload, before it is known whether the endpoint takes it. -/
theorem ledger_receive (channel : Channel) (replies : List Frame) (id : UInt32)
    (session : Session) (payload : Bytes) :
    (({ channel.tell session.endpoint (.data payload) with
        sessions := channel.sessions.insert id
          { session with bytesIn := session.bytesIn + payload.length }
        bytesIn := channel.bytesIn + payload.length } : Channel).publish
      (.sessionTransaction id payload.length 0)).ledger replies =
      (channel.ledger replies).receive id session payload := by
  rw [ledger_publish, Ledger.receive, ← ledger_tell]
  rfl

theorem receives_receiveData {frame : Frame} {payload : Bytes} (admission : Admission)
    (hopen : channel.closed = false) (hbody : frame.body = .data payload) :
    (channel.ledger replies).Receives frame admission
      ((channel.receiveData frame.port frame.session payload).ledger replies) := by
  unfold receiveData
  cases hfind : channel.sessions.find? frame.session with
  | none => exact .strays hopen hbody hfind
  | some session =>
      have hreceived := ledger_receive channel replies frame.session session payload
      simp only
      split
      · have htakes : (channel.ledger replies).Receives frame admission _ :=
          .takes hopen hbody hfind
        rw [← hreceived] at htakes
        exact htakes
      · rename_i error _
        refine .rejects error hopen hbody hfind ?_
        rw [← hreceived, ← ledger_publish, ← ledger_removeSession]
        exact replies_enqueue _

theorem receives_receiveOpen {frame : Frame} (admission : Admission)
    (hopen : channel.closed = false) (hbody : frame.body = .control .sessionOpen) :
    (channel.ledger replies).Receives frame admission
      ((channel.receiveOpen frame.port frame.session admission).ledger replies) := by
  unfold receiveOpen
  cases hfind : channel.sessions.find? frame.session with
  | some session =>
      simp only
      split
      · rename_i hport
        exact .repeats hopen hbody hfind hport
      · rename_i hport
        exact .conflicts hopen hbody hfind hport
  | none =>
      cases hadmission : admission with
      | ok kind =>
          simp only [ledger_addSession]
          exact .admits hopen hbody hfind rfl
      | error error => exact .refuses hopen hbody hfind rfl (replies_enqueue _)

theorem receives_receiveControl {frame : Frame} {code : ControlCode} (admission : Admission)
    (hopen : channel.closed = false) (hbody : frame.body = .control code) :
    (channel.ledger replies).Receives frame admission
      ((channel.receiveControl frame.port frame.session code admission).ledger replies) := by
  cases code with
  | sessionOpen => exact receives_receiveOpen admission hopen hbody
  | sessionClose =>
      refine .ends hopen hbody ?_
      rw [← ledger_removeSession]
      exact replies_enqueue _
  | sessionCloseAck =>
      have hsame : (channel.receiveCloseAck frame.session).ledger replies =
          channel.ledger replies := by
        unfold receiveCloseAck
        split
        · rfl
        · rw [ledger_signal rfl]
          rfl
      rw [receiveControl, hsame]
      exact .acknowledges hopen hbody
  | other number => exact .misreads hopen hbody

theorem receives_receiveError {frame : Frame} {code : ErrorCode} (admission : Admission)
    (hopen : channel.closed = false) (hbody : frame.body = .error code) :
    (channel.ledger replies).Receives frame admission
      ((channel.receiveError frame.session code).ledger replies) := by
  unfold receiveError
  cases hfind : channel.sessions.find? frame.session with
  | some session =>
      simp only [ledger_publish, ledger_tell]
      exact .warns hopen hbody hfind
  | none => exact .notes hopen hbody hfind

/-- **Every frame is covered.** Whatever frame comes in, and whatever the application says to it,
the channel does one of the things that `Ledger.Receives` lists. -/
theorem receives_receive (frame : Frame) (admission : Admission) :
    (channel.ledger replies).Receives frame admission
      ((channel.receive frame admission).ledger replies) := by
  cases hclosed : channel.closed with
  | true =>
      rw [receive, if_pos hclosed]
      exact .drops hclosed
  | false =>
      rw [receive, if_neg (by simp [hclosed])]
      cases hbody : frame.body with
      | data payload => exact receives_receiveData admission hclosed hbody
      | control code => exact receives_receiveControl admission hclosed hbody
      | error code => exact receives_receiveError admission hclosed hbody

end Channel

end SessionMux
