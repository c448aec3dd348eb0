import SessionMux.Proofs.Channel.Balance
import SessionMux.Proofs.Host.Handle

/-!
# The bytes of every run

What a run puts into the outbound queue, and what it brings to live sessions, is read off its moves
one by one. The counters of a channel stand for exactly these bytes, and for exactly those that the
trace reports (`Host.bytes_exact`), whatever has become of the sessions and the queue since.

A channel counts a payload as sent before it is known to be in the queue, so one more thing has to
be seen: nothing is sent once nobody takes frames out of the queue any more.
-/

namespace SessionMux

theorem Channel.reserve_of_not_draining {channel : Channel}
    (hdraining : channel.outbox.draining = false) (caller : Caller) :
    channel.reserve caller = (.refused, channel) := by
  rw [reserve, Outbox.reserve, hdraining, Bool.not_false, if_pos rfl]

/-- A call that sends has found a queue out of which frames are taken. -/
theorem Call.draining_of_sent (channel : Channel) (present : Bool) (clock : Nat) (caller : Caller)
    {id : UInt32} {payload : Bytes} {stage : CallStage}
    (hplain : (Job.call (.send id payload) stage).IsPlain)
    (hsent : sent (.send id payload)
      (step channel present clock caller (.send id payload) stage).1 ≠ none) :
    channel.outbox.draining = true := by
  by_contra hdraining
  rw [Bool.not_eq_true] at hdraining
  apply hsent
  have hstage : stage = .arriving ∨ stage = .asking := hplain
  obtain rfl | rfl := hstage
  · rw [step]
    cases present <;> rfl
  · rw [step, ask, Channel.reserve_of_not_draining hdraining]
    cases channel.oversize? payload <;> rfl

namespace Host

variable {host : Host}

theorem draining_of_sentBy (hplain : host.Plain) {action : Action}
    (hsent : host.sentBy action ≠ none) : host.channel.outbox.draining = true := by
  cases action with
  | call | abort | advance | silence | letGo | close | fail => exact absurd rfl hsent
  | turn caller =>
      rcases htask : host.tasks[caller]? with _ | ⟨_ | _, aborted⟩ | outcome
      case some.working.call request stage =>
          cases request with
          | openSession | closeSession | closeAndWait | sendError =>
              rw [sentBy, htask] at hsent
              exact absurd rfl hsent
          | send id payload =>
              cases aborted with
              | true =>
                  rw [sentBy, htask] at hsent
                  simp [turn_eq_of_aborted htask, outcome?_finish htask] at hsent
              | false =>
                  have hjob : (Job.call (.send id payload) stage).IsPlain :=
                    (hplain _ (List.mem_of_getElem? htask)).1
                  rw [sentBy_turn_call htask hplain] at hsent
                  exact Call.draining_of_sent _ _ _ _ hjob hsent
      all_goals
        rw [sentBy, htask] at hsent
        exact absurd rfl hsent

/-! ### What a run queues and takes -/

def queues (host : Host) : Move → List Frame
  | .take | .abandon => []
  | move => (host.move move).channel.outbox.frames.drop host.channel.outbox.frames.length

def queued (host : Host) : List Move → List Frame
  | [] => []
  | move :: moves => host.queues move ++ (host.move move).queued moves

/-- The payload that a move brings to a live session, whether or not its endpoint takes it. -/
def taken? (host : Host) : Move → Option Bytes
  | .hear frame _ => host.ledger.taken? frame
  | .act _ | .take | .abandon => none

def taken (host : Host) : List Move → List Bytes
  | [] => []
  | move :: moves => (host.taken? move).toList ++ (host.move move).taken moves

theorem queues_eq (move : Move) (htake : move ≠ .take) (habandon : move ≠ .abandon)
    {out : List Frame} (hframes : (host.move move).ledger.frames = host.ledger.frames ++ out) :
    host.queues move = out := by
  have hqueues : host.queues move =
      (host.move move).ledger.frames.drop host.ledger.frames.length := by
    cases move with
    | act | hear => rfl
    | take => exact absurd rfl htake
    | abandon => exact absurd rfl habandon
  rw [hqueues, hframes, List.drop_left]

structure Accounted (host : Host) (out taken : List Bytes) : Prop where
  balanced : host.ledger.Balanced
  dataless : host.ledger.Dataless
  sent : host.ledger.bytesOut = volume out
  received : host.ledger.bytesIn = volume taken

theorem accounted_create (config : ChannelConfig) (depth : Nat) (reception : Reception) :
    (create config depth reception).Accounted [] [] where
  balanced := ⟨rfl, rfl, fun _ _ hfind => by cases hfind⟩
  dataless := rfl
  sent := rfl
  received := rfl

variable {out taken : List Bytes}

theorem Accounted.act (h : host.Accounted out taken) (hplain : host.Plain) (action : Action) :
    (host.act action).Accounted (out ++ payloads (host.queues (.act action))) taken := by
  have hworks := (works_act hplain action).1
  have hbytes := hworks.bytes
  obtain ⟨⟨added, hframes, hadded⟩, hdataless⟩ :=
    hworks.queues (draining_of_sentBy hplain) h.dataless
  refine ⟨hworks.balanced h.balanced, hdataless, ?_, hbytes.1.trans h.received⟩
  have hqueues : host.queues (.act action) = added :=
    queues_eq (.act action) nofun nofun hframes
  rw [hqueues, hadded, volume_append, hbytes.2, h.sent]

theorem Accounted.hear (h : host.Accounted out taken) (htruthful : host.ledger.Truthful)
    (frame : Frame) (admission : Admission) :
    (host.hear frame admission).Accounted
      (out ++ payloads (host.queues (.hear frame admission)))
      (taken ++ (host.ledger.taken? frame).toList) := by
  have hreceives := receives_hear host frame admission
  have hbytes := hreceives.bytes htruthful
  obtain ⟨⟨added, hframes, hadded⟩, hdataless⟩ := hreceives.queues h.dataless
  refine ⟨hreceives.balanced h.balanced, hdataless, ?_, ?_⟩
  · have hqueues : host.queues (.hear frame admission) = added :=
      queues_eq (.hear frame admission) nofun nofun hframes
    rw [hqueues, hadded, List.append_nil, hbytes.2, h.sent]
  · rw [volume_append, hbytes.1, h.received]

/-- To take frames out of the queue, or to lose them, is no matter of the books. -/
theorem Accounted.of_frames (h : host.Accounted out taken) {next : Host}
    (hnext : ∃ frames draining, next.ledger = { host.ledger with frames, draining }) :
    next.Accounted out taken := by
  obtain ⟨frames, draining, hnext⟩ := hnext
  refine ⟨?_, ?_, ?_, ?_⟩ <;> rw [hnext]
  · exact h.balanced.of_same rfl rfl rfl rfl
  · exact h.dataless
  · exact h.sent
  · exact h.received

theorem Accounted.move (h : host.Accounted out taken) (htruthful : host.Truthful) (move : Move) :
    (host.move move).Accounted (out ++ payloads (host.queues move))
      (taken ++ (host.taken? move).toList) := by
  cases move with
  | act action =>
      rw [taken?, Option.toList_none, List.append_nil]
      exact h.act htruthful.plain action
  | hear frame admission => exact h.hear htruthful.truthful frame admission
  | take =>
      rw [queues, payloads_nil, List.append_nil, taken?, Option.toList_none, List.append_nil,
        Host.move, takeFrames]
      cases htake : host.channel.takeFrame? with
      | none => exact h
      | some found => exact h.of_frames ⟨_, _, (ledger_takeFrame htake).2⟩
  | abandon =>
      rw [queues, payloads_nil, List.append_nil, taken?, Option.toList_none, List.append_nil]
      refine h.of_frames ⟨[], false, ?_⟩
      rw [Host.move, abandonOutbox, ledger_settleChannel, Channel.ledger_abandonOutbox]
      rfl

theorem Accounted.run (h : host.Accounted out taken) (htruthful : host.Truthful)
    (moves : List Move) :
    (moves.foldl Host.move host).Accounted (out ++ payloads (host.queued moves))
      (taken ++ host.taken moves) := by
  induction moves generalizing host out taken with
  | nil =>
      rw [queued, payloads_nil, List.append_nil, Host.taken, List.append_nil]
      exact h
  | cons move moves ih =>
      have hrest := ih (h.move htruthful move) (htruthful.move move)
      rw [List.append_assoc, List.append_assoc, ← payloads_append] at hrest
      exact hrest

/-- **Bytes are accounted for exactly.** However long a host has been running, and whatever order
its tasks, its application, its writer and its peer have taken their turns in, the channel has
counted as sent the bytes of the payloads that went into its outbound queue, and as received those
that came in for a session that was live then. The trace reports the same bytes, and for each live
session the counters are what the trace reports of it since it last began. -/
theorem bytes_exact (config : ChannelConfig) (depth : Nat) (reception : Reception)
    (moves : List Move) :
    let initial := create config depth reception
    let channel := (moves.foldl Host.move initial).channel
    (channel.bytesOut = volume (payloads (initial.queued moves)) ∧
        channel.bytesOut = Trace.total Change.bytesOut channel.changes) ∧
      (channel.bytesIn = volume (initial.taken moves) ∧
        channel.bytesIn = Trace.total Change.bytesIn channel.changes) ∧
      ∀ id session, channel.sessions.find? id = some session →
        session.bytesIn = Trace.total Change.bytesIn (Trace.lifetime channel.changes id) ∧
          session.bytesOut = Trace.total Change.bytesOut (Trace.lifetime channel.changes id) := by
  intro initial channel
  have haccounted := (accounted_create config depth reception).run
    (truthful_create config depth reception) moves
  rw [List.nil_append, List.nil_append] at haccounted
  exact ⟨⟨haccounted.sent, haccounted.balanced.sent⟩,
    ⟨haccounted.received, haccounted.balanced.received⟩, haccounted.balanced.sessions⟩

/-- A session that is opened again starts from nothing, and a payload that its endpoint does not
take counts all the same. -/
example :
    let hears (body : FrameBody) : Move := .hear { port := 80, session := 2, body } (.ok .queue)
    let host := [hears (.control .sessionOpen), .act (.silence 2), hears (.data [1, 2, 3]),
        hears (.control .sessionOpen), hears (.data [4])].foldl
      Host.move (create default 4 { rules := [], accepting := true })
    host.channel.bytesIn = 4 ∧ (host.channel.sessions.find? 2).map (·.bytesIn) = some 1 := by
  decide

end Host

end SessionMux
