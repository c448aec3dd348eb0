import SessionMux.Channel.Call
import SessionMux.Proofs.Channel.Section

/-!
# The register of a channel

The part of a channel that tells sessions and waiting callers apart: which side opened the session
of each endpoint, and who waits for the acknowledgement of which close. A caller who waits gets a
verdict from one of four operations: an acknowledgement of the peer, another close of a session with
the same id that is waited for, a wait that is given up, and the end of the channel. All other
operations leave the waits alone, and only two add an endpoint.
-/

namespace SessionMux

def Signal.verdict? : Signal → Option (Caller × Verdict)
  | acknowledged caller => some (caller, .acknowledged)
  | forsaken caller => some (caller, .forsaken)
  | _ => none

structure Register where
  closed : Bool
  nextSession : Nat
  /-- The session of each endpoint and whether the peer opened it, oldest endpoint first. -/
  origins : List (UInt32 × Bool)
  pendingClose : List (UInt32 × Caller)
  /-- The verdicts that callers have not learnt yet. -/
  verdicts : List (Caller × Verdict)

namespace Register

def add (register : Register) (id : UInt32) (inbound : Bool) : Register :=
  { register with origins := register.origins ++ [(id, inbound)] }

def forsake (register : Register) (waits : List (UInt32 × Caller)) : Register :=
  { register with
    verdicts := register.verdicts ++ waits.map fun (_, caller) => (caller, .forsaken) }

/-- A caller waits for a close from now on, and takes the place of anyone who waits for one of the
same session. -/
def await (register : Register) (caller : Caller) (id : UInt32) : Register :=
  { register.forsake (register.pendingClose.filter (·.1 = id)) with
    pendingClose := (id, caller) :: register.pendingClose.filter (·.1 ≠ id) }

def giveUp (register : Register) (caller : Caller) (id : UInt32) : Register :=
  { register.forsake (register.pendingClose.filter fun (other, waiter) =>
      other = id && waiter ≠ caller) with
    pendingClose := register.pendingClose.filter (·.1 ≠ id) }

def acknowledge (register : Register) (id : UInt32) : Register :=
  match register.pendingClose.lookup id with
  | none => register
  | some caller =>
    { register with
      pendingClose := register.pendingClose.filter (·.1 ≠ id)
      verdicts := register.verdicts ++ [(caller, .acknowledged)] }

def close (register : Register) : Register :=
  if register.closed then register
  else { register.forsake register.pendingClose with closed := true, pendingClose := [] }

/-- How the sessions of a channel grow in number. Whichever side opens one, it gets an endpoint;
only our side takes its id from the counter. -/
inductive Grows (register : Register) : Register → Prop
  | rests {next : Register} (horigins : next.origins = register.origins)
      (hsame : next.nextSession = register.nextSession) : Grows register next
  /-- No id is left for our side. -/
  | exhausts {next : Register} (horigins : next.origins = register.origins)
      (hnext : next.nextSession =
        max register.nextSession (Channel.sessionBound + register.nextSession % 2)) :
      Grows register next
  | opens {next : Register} {id : UInt32} (hnext : register.nextSession ≤ id.toNat)
      (hparity : id.toNat % 2 = register.nextSession % 2)
      (hafter : next.nextSession = id.toNat + 2)
      (horigins : next.origins = register.origins ++ [(id, false)]) : Grows register next
  | admits {next : Register} {id : UInt32} (hsame : next.nextSession = register.nextSession)
      (horigins : next.origins = register.origins ++ [(id, true)]) : Grows register next

theorem Grows.refl (register : Register) : register.Grows register :=
  .rests rfl rfl

structure SameWaits (register next : Register) : Prop where
  closed : next.closed = register.closed
  pendingClose : next.pendingClose = register.pendingClose
  verdicts : next.verdicts = register.verdicts

theorem SameWaits.refl (register : Register) : register.SameWaits register := ⟨rfl, rfl, rfl⟩

end Register

namespace Channel

def register (channel : Channel) : Register where
  closed := channel.closed
  nextSession := channel.nextSession
  origins := channel.endpoints.map fun endpoint => (endpoint.session, endpoint.inbound)
  pendingClose := channel.pendingClose
  verdicts := channel.signals.filterMap Signal.verdict?

variable {channel : Channel}

/-! ### Operations that leave the register alone -/

@[simp]
theorem register_publish (change : Change) : (channel.publish change).register = channel.register :=
  rfl

@[simp]
theorem register_report (code : ErrorCode) (level : Level) (message : String) :
    (channel.report code level message).register = channel.register := rfl

theorem register_signal {signal : Signal} (hsignal : signal.verdict? = none) :
    (channel.signal signal).register = channel.register := by
  simp [register, Channel.signal, hsignal]

@[simp]
theorem register_setOutbox (outbox : Outbox) :
    (channel.setOutbox outbox).register = channel.register := by
  simp [register, setOutbox, Signal.verdict?]

@[simp]
theorem register_giveBack (caller : Caller) :
    (channel.giveBack caller).register = channel.register := register_setOutbox _

@[simp]
theorem register_reserve (channel : Channel) (caller : Caller) :
    (channel.reserve caller).2.register = channel.register := rfl

/-- A change of an endpoint that keeps its session and who opened that. -/
theorem register_modify (channel : Channel) (place : Nat) {change : Endpoint → Endpoint}
    (hsession : ∀ endpoint, (change endpoint).session = endpoint.session)
    (hinbound : ∀ endpoint, (change endpoint).inbound = endpoint.inbound) :
    { channel with endpoints := channel.endpoints.modify place change }.register =
      channel.register := by
  have horigins : (channel.endpoints.modify place change).map
      (fun endpoint => (endpoint.session, endpoint.inbound)) =
      channel.endpoints.map fun endpoint => (endpoint.session, endpoint.inbound) := by
    apply List.ext_getElem?
    intro other
    rw [List.getElem?_map, List.getElem?_map, List.getElem?_modify]
    cases channel.endpoints[other]? with
    | none => rfl
    | some endpoint => split_ifs <;> simp [hsession, hinbound]
  simp only [register, horigins]

@[simp]
theorem register_tell (channel : Channel) (endpoint : Nat) (message : Message) :
    (channel.tell endpoint message).register = channel.register := by
  rw [tell, register_signal rfl]
  exact register_modify channel endpoint (fun _ => rfl) (fun _ => rfl)

@[simp]
theorem register_silence (channel : Channel) (endpoint : Nat) :
    (channel.silence endpoint).register = channel.register :=
  register_modify channel endpoint (fun _ => rfl) (fun _ => rfl)

@[simp]
theorem register_fill (caller : Caller) (frame : Frame) :
    (channel.fill caller frame).register = channel.register := by
  rw [fill, register_signal rfl]
  rfl

@[simp]
theorem register_enqueue (frame : Frame) :
    (channel.enqueue frame).register = channel.register := by
  unfold enqueue
  split_ifs
  · rfl
  · rw [register_signal rfl]
    rfl
  · exact register_signal rfl

@[simp]
theorem register_removeSession (id : UInt32) :
    (channel.removeSession id).register = channel.register := by
  unfold removeSession
  cases channel.sessions.find? id with
  | none => rfl
  | some session => exact register_tell channel session.endpoint .closed

@[simp]
theorem register_abandonOutbox : channel.abandonOutbox.register = channel.register := by
  simp [register, abandonOutbox, Signal.verdict?]

theorem register_takeFrame? {frame : Frame} {rest : Channel}
    (htake : channel.takeFrame? = some (frame, rest)) : rest.register = channel.register := by
  obtain ⟨⟨_, outbox⟩, -, heq⟩ := Option.map_eq_some_iff.mp htake
  obtain ⟨-, rfl⟩ := Prod.mk.inj heq
  exact register_setOutbox outbox

@[simp]
theorem register_send (caller : Caller) (id : UInt32) (payload : Bytes) :
    (channel.send caller id payload).2.register = channel.register := by
  unfold send
  split
  · exact register_giveBack caller
  · split
    · exact register_giveBack caller
    · simp only [register_publish, register_fill]
      rfl

@[simp]
theorem register_sendError (caller : Caller) (id : UInt32) (code : ErrorCode) :
    (channel.sendError caller id code).2.register = channel.register := by
  unfold sendError
  split
  · exact register_giveBack caller
  · split
    · exact register_giveBack caller
    · simp only [register_publish, register_fill]

/-! ### Operations of the register -/

theorem register_addSession (id : UInt32) (port : UInt16) (kind : EndpointKind) (inbound : Bool) :
    (channel.addSession id port kind inbound).register = channel.register.add id inbound := by
  simp [register, addSession, Register.add, Endpoint.create]

theorem grows_openSession (caller : Caller) (port : UInt16) (kind : EndpointKind) :
    channel.register.Grows (channel.openSession caller port kind).2.register ∧
      channel.register.SameWaits (channel.openSession caller port kind).2.register := by
  unfold openSession
  split
  · rw [register_giveBack]
    exact ⟨.refl _, .refl _⟩
  · dsimp only
    split
    · rename_i hfound
      rw [hfound, register_giveBack]
      exact ⟨.exhausts rfl rfl, ⟨rfl, rfl, rfl⟩⟩
    · rename_i id hfound
      obtain ⟨-, hnext, hparity⟩ := firstFree?_eq_some hfound
      rw [hfound, register_publish, register_fill, register_addSession]
      exact ⟨.opens hnext hparity rfl rfl, ⟨rfl, rfl, rfl⟩⟩

theorem register_closeSession (channel : Channel) (caller : Caller) (id : UInt32) (waits : Bool) :
    (channel.closeSession caller id waits).2.register =
      if waits && (channel.closeSession caller id waits).1.isOk then
        channel.register.await caller id
      else channel.register := by
  unfold closeSession
  split
  · simp [Except.isOk, Except.toBool]
  · split
    · simp [Except.isOk, Except.toBool]
    · cases waits with
      | false => simp
      | true =>
          have hremoved : (channel.removeSession id).register = channel.register :=
            register_removeSession id
          have hpending : (channel.removeSession id).pendingClose = channel.pendingClose :=
            congrArg Register.pendingClose hremoved
          simp only [register_fill, Bool.true_and, if_true, Except.isOk, Except.toBool]
          rw [← hremoved]
          simp [register, Register.await, Register.forsake, Function.comp_def, Signal.verdict?]

theorem open_of_closeSession {caller : Caller} {id : UInt32} {waits : Bool}
    (hclose : (channel.closeSession caller id waits).1 = .ok ()) : channel.closed = false := by
  rw [closeSession] at hclose
  split at hclose
  · cases hclose
  · rename_i hopen
    exact Bool.eq_false_of_not_eq_true hopen

theorem register_stopWaiting (caller : Caller) (id : UInt32) :
    (channel.stopWaiting caller id).register = channel.register.giveUp caller id := by
  simp [register, stopWaiting, Register.giveUp, Register.forsake, Function.comp_def,
    Signal.verdict?]

theorem register_foldl_removeSession (ids : List UInt32) (channel : Channel) :
    (ids.foldl removeSession channel).register = channel.register := by
  induction ids generalizing channel with
  | nil => rfl
  | cons id ids ih => rw [List.foldl_cons, ih, register_removeSession]

theorem register_close : channel.close.register = channel.register.close := by
  unfold close Register.close
  rw [show channel.register.closed = channel.closed from rfl]
  split
  · rfl
  · have hended := register_foldl_removeSession channel.sessions.ids
      { channel with closed := true }
    -- Ending the sessions leaves the register alone, so it does not matter here how it is done.
    generalize channel.sessions.ids.foldl removeSession { channel with closed := true } = ended
      at hended
    have hforsaken : register
        { ended with
          pendingClose := []
          signals := ended.signals ++ ended.pendingClose.map fun (_, caller) => .forsaken caller } =
        { ended.register.forsake ended.register.pendingClose with pendingClose := [] } := by
      simp [register, Register.forsake, Function.comp_def, Signal.verdict?]
    rw [register_signal rfl, register_publish]
    exact hforsaken.trans (by rw [hended]; rfl)

theorem register_fail (code : ErrorCode) (message : String) :
    (channel.fail code message).register = channel.register.close := by
  unfold fail
  split
  · rename_i hclosed
    rw [Register.close, if_pos (by exact hclosed)]
  · rw [register_close, register_report]

/-! ### Frames of the peer -/

theorem register_receiveData (port : UInt16) (id : UInt32) (payload : Bytes) :
    (channel.receiveData port id payload).register = channel.register := by
  unfold receiveData
  cases channel.sessions.find? id with
  | none => rfl
  | some session =>
      dsimp only
      split
      · exact register_tell channel session.endpoint (.data payload)
      · rw [register_enqueue, register_removeSession, register_publish, register_publish]
        exact register_tell channel session.endpoint (.data payload)

theorem register_receiveOpen (port : UInt16) (id : UInt32) (admission : Admission) :
    (channel.receiveOpen port id admission).register = channel.register ∨
      (channel.receiveOpen port id admission).register = channel.register.add id true := by
  unfold receiveOpen
  cases channel.sessions.find? id with
  | some session =>
      dsimp only
      split <;> exact .inl rfl
  | none =>
      cases admission with
      | ok kind =>
          right
          dsimp only
          rw [register_publish, register_addSession]
      | error error => exact .inl (register_enqueue _)

theorem register_receiveCloseAck (id : UInt32) :
    (channel.receiveCloseAck id).register = channel.register.acknowledge id := by
  unfold receiveCloseAck Register.acknowledge
  rw [show channel.register.pendingClose = channel.pendingClose from rfl]
  cases channel.pendingClose.lookup id with
  | none => rfl
  | some caller => simp [register, Channel.signal, Signal.verdict?]

theorem register_receiveError (id : UInt32) (code : ErrorCode) :
    (channel.receiveError id code).register = channel.register := by
  unfold receiveError
  cases channel.sessions.find? id with
  | none => rfl
  | some session => exact register_tell channel session.endpoint (.error code)

/-- A frame adds an endpoint, or brings an acknowledgement, or leaves the register alone. -/
theorem register_receive (channel : Channel) (frame : Frame) (admission : Admission) :
    (channel.receive frame admission).register = channel.register ∨
      (channel.receive frame admission).register = channel.register.add frame.session true ∨
      frame.body = .control .sessionCloseAck ∧
        (channel.receive frame admission).register =
          channel.register.acknowledge frame.session := by
  unfold receive
  split
  · exact .inl rfl
  · cases frame.body with
    | data payload => exact .inl (register_receiveData _ _ _)
    | error code => exact .inl (register_receiveError _ _)
    | control code =>
        cases code with
        | sessionOpen =>
            obtain hsame | hadded := register_receiveOpen frame.port frame.session admission
            · exact .inl hsame
            · exact .inr (.inl hadded)
        | sessionClose =>
            refine .inl ?_
            simp only [receiveControl, receiveClose, register_enqueue, register_removeSession]
        | sessionCloseAck => exact .inr (.inr ⟨rfl, register_receiveCloseAck _⟩)
        | other number => exact .inl rfl

end Channel

end SessionMux
