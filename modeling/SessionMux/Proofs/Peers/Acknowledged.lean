import SessionMux.Proofs.Peers.Exchange

/-!
# An acknowledged close is a real close

A caller closes a session and waits. It ends well only when an acknowledgement for this session has
come in, and that is a reply of the other end to the close itself (`Lane.Way.answered`). So the
other end has dealt with the close before, whatever else has crossed it on its way
(`Exchange.acknowledged_close`).
-/

namespace SessionMux

/-- A call that closes a session and waits: it may have learnt that the close was acknowledged, or
may have ended well, only for a good reason. -/
inductive HostTask.Warranted (key : UInt32) (timeout : Nat) (reason : Prop) : HostTask → Prop
  | early {stage : CallStage} {aborted : Bool} (hstage : stage = .arriving ∨ stage = .asking) :
      Warranted key timeout reason (.working (.call (.closeAndWait key timeout) stage) aborted)
  | awaits {deadline : Nat} {verdict : Option Verdict} {aborted : Bool}
      (hverdict : verdict = some .acknowledged → reason) :
      Warranted key timeout reason
        (.working (.call (.closeAndWait key timeout) (.awaiting key deadline verdict)) aborted)
  | ended {outcome : Outcome} (houtcome : outcome = .done → reason) :
      Warranted key timeout reason (.over outcome)

/-- A call that is to wait for an acknowledgement does not end well without one. -/
theorem Call.step_closeAndWait_ne_ok (channel : Channel) (present : Bool) (clock : Nat)
    (caller : Caller) (key : UInt32) (timeout : Nat) {stage : CallStage}
    (hstage : stage = .arriving ∨ stage = .asking) (result : Option UInt32) :
    (step channel present clock caller (.closeAndWait key timeout) stage).1 ≠
      .ends (.ok result) := by
  obtain rfl | rfl := hstage
  · cases present <;> simp [step]
  · rw [step]
    obtain ⟨error, hask⟩ | ⟨error, hask⟩ | hask | hask :=
      ask_cases channel clock caller (.closeAndWait key timeout)
    · simp [hask]
    · simp [hask]
    · simp [hask]
    · rw [hask, perform]
      split <;> simp

namespace Host

variable {host next : Host} {caller : Caller} {key : UInt32} {timeout : Nat} {before after : Prop}

/-- A call that asks to close a session has no good outcome in its next turn. -/
theorem Waits.warranted_turn (h : host.Waits) {stage : CallStage}
    (hstage : stage = .arriving ∨ stage = .asking)
    (htask : host.tasks[caller]? =
      some (.working (.call (.closeAndWait key timeout) stage) false)) :
    ∃ task, (host.turn false caller).1.tasks[caller]? = some task ∧
      task.Warranted key timeout after := by
  obtain ⟨hcaller, -⟩ := List.getElem?_eq_some_iff.mp htask
  have hheard := (settles_turn htask).heard caller _ (List.getElem?_set_self hcaller)
  have hregisters : Call.Registers host.register _ _ _ _ _ _ :=
    Call.registers_step host.channel host.present host.clock caller
      (.closeAndWait key timeout) stage
  have hfails :=
    Call.step_closeAndWait_ne_ok host.channel host.present host.clock caller key timeout hstage
  refine ⟨_, hheard, ?_⟩
  generalize (Call.step host.channel host.present host.clock caller
    (.closeAndWait key timeout) stage).1 = turn at hregisters hfails
  generalize (Call.step host.channel host.present host.clock caller
    (.closeAndWait key timeout) stage).2.register = register at hregisters
  cases hregisters with
  | arrives => exact .early (.inr rfl)
  | stays => obtain rfl | rfl := hstage <;> exact .early (by simp)
  | @ends result next hverdict hgrows hwaits =>
      cases result with
      | ok result => exact absurd rfl (hfails result)
      | error error => exact .ended (by simp [Outcome.ofCall])
  | begins hrequest hasking hopen =>
      cases hrequest
      subst hasking
      rw [h.keeps.lookup_await h.told htask key, HostTask.hear_none]
      exact .awaits (by simp)
  | givesUp hawaiting => obtain rfl | rfl := hstage <;> cases hawaiting

/-- **One move of an end.** A call has a good reason after a move if it had one before, or if the
move is an acknowledgement that comes in for its session. -/
theorem Waits.warranted_move (h : host.Waits) {task : HostTask}
    (htask : host.tasks[caller]? = some task) (hwarranted : task.Warranted key timeout before)
    (move : Move) (hbefore : before → after)
    (hhears : ∀ frame admission, move = .hear frame admission →
      frame.body = .control .sessionCloseAck → frame.session = key → after) :
    ∃ task, (host.move move).tasks[caller]? = some task ∧ task.Warranted key timeout after := by
  cases hwarranted with
  | @early stage aborted hstage =>
      by_cases hturn : move = .act (.turn caller)
      · subst hturn
        cases aborted with
        | false => exact h.warranted_turn hstage htask
        | true =>
            have hends : (host.move (.act (.turn caller))).outcome? caller = some .aborted := by
              rw [Host.move, act, turn_eq_of_aborted htask]
              exact outcome?_finish htask _ _
            exact ⟨_, task_of_outcome? hends, .ended fun hdone => by cases hdone⟩
      · obtain ⟨tasks, register, heffect, hsettles⟩ := effect_move h.truthful.plain h.told move
        obtain ⟨next, marked, hnext, hearly⟩ :=
          heffect.asks ⟨stage, aborted, htask, hstage⟩ hturn
        have hheard := hsettles.heard caller _ hnext
        obtain rfl | rfl := hearly
        · exact ⟨_, hheard, .early (.inl rfl)⟩
        · exact ⟨_, hheard, .early (.inr rfl)⟩
  | awaits hverdict =>
      obtain ⟨learnt, marked, hnext, -, hlearnt⟩ | ⟨outcome, hover, hreason⟩ :=
        h.awaiting_move htask move
      · refine ⟨_, hnext, .awaits fun hgood => ?_⟩
        obtain rfl | ⟨new, rfl, hcause⟩ := hlearnt
        · exact hbefore (hverdict hgood)
        · cases hgood
          obtain ⟨frame, admission, hmem, hbody, hsession⟩ := hcause
          exact hhears frame admission (List.mem_singleton.mp hmem).symm hbody hsession
      · refine ⟨_, hover, .ended fun hdone => ?_⟩
        obtain ⟨-, rfl⟩ | ⟨learnt, hlearnt, rfl⟩ | ⟨-, rfl⟩ := hreason
        · cases hdone
        · cases learnt with
          | acknowledged => exact hbefore (hverdict hlearnt)
          | forsaken => cases hdone
        · cases hdone
  | ended houtcome =>
      exact ⟨_, h.over_move htask move, .ended fun hdone => hbefore (houtcome hdone)⟩

end Host

namespace Exchange

variable {exchange : Exchange} {role : Role} {key : UInt32} {timeout : Nat} {caller : Caller}

/-- A caller closes a session and waits, and knows that the close was acknowledged only if the
acknowledgement has come in. -/
def Warrants (exchange : Exchange) (role : Role) (caller : Caller) (key : UInt32) (timeout : Nat) :
    Prop :=
  ∃ task, (exchange.peers.host role).tasks[caller]? = some task ∧
    task.Warranted key timeout (Acknowledging (exchange.met role key))

theorem Sound.warrants (h : exchange.Sound)
    (hwarrants : exchange.Warrants role caller key timeout) (move : Move) :
    (exchange.move move).Warrants role caller key timeout := by
  obtain ⟨task, htask, hwarranted⟩ := hwarrants
  have hwaits := (h.ends role).reachable.waits
  have hadvances := h.advances move role
  rw [Warrants, met]
  generalize (exchange.move move).peers.host role = next,
    (exchange.move move).handled role = handled at hadvances
  cases hadvances with
  | rests => exact ⟨task, htask, hwarranted⟩
  | acts | takes =>
      refine hwaits.warranted_move htask hwarranted _ id fun frame admission hmove => ?_
      cases hmove
  | hears frame admission hopen =>
      refine hwaits.warranted_move htask hwarranted _ (fun hbefore => ?_) ?_
      · rw [framesOf, List.filter_append]
        exact acknowledging_append.mpr (.inl hbefore)
      · rintro frame admission ⟨⟩ hbody rfl
        refine ⟨frame, ?_, hbody⟩
        simp [framesOf]

theorem Sound.warrants_run (h : exchange.Sound)
    (hwarrants : exchange.Warrants role caller key timeout) (moves : List Move) :
    (moves.foldl Exchange.move exchange).Warrants role caller key timeout := by
  induction moves generalizing exchange with
  | nil => exact hwarrants
  | cons first moves ih => exact ih (h.move first) (h.warrants hwarrants first)

theorem warrants_call (exchange : Exchange) (role : Role) (key : UInt32) (timeout : Nat)
    (byHandle : Bool) :
    (exchange.move (.act role (.call (.closeAndWait key timeout) byHandle))).Warrants role
      (exchange.peers.host role).tasks.length key timeout := by
  let stage : CallStage := if byHandle then .arriving else .asking
  refine ⟨.working (.call (.closeAndWait key timeout) stage) false, ?_, .early ?_⟩
  · rw [move, Peers.host_act]
    exact List.getElem?_concat_length
  · cases byHandle with
    | true => exact .inl rfl
    | false => exact .inr rfl

/-! ### What the acknowledgement tells -/

theorem Stands.over (h : exchange.Stands key) (hack : Acknowledging (exchange.met role key)) :
    Lane.Over (exchange.peers.lane role key) (exchange.peers.lane role.other key)
      (exchange.peers.queue role key) (exchange.peers.queue role.other key)
      (exchange.met role.other key) := by
  rcases role.eq_or_eq_other (.owner key) with rfl | rfl
  · exact h.over_owner hack
  · rw [Role.other_other]
    exact h.over_other hack

theorem mem_underway {frame : Frame} (hmem : frame ∈ exchange.underway role)
    (hsession : frame.session = key) :
    frame ∈ exchange.peers.queue role key ++ (exchange.peers.lane role key).replies := by
  have hfilter : exchange.peers.queue role key ++ (exchange.peers.lane role key).replies =
      framesOf key (exchange.underway role) := (List.filter_append ..).symm
  rw [hfilter]
  exact List.mem_filter.mpr ⟨hmem, decide_eq_true hsession⟩

/-- **An acknowledged close is a real close.** Whatever both ends do, whichever sessions they refuse
and however the arrival of their frames is delayed: when a call that closes a session and waits for
the acknowledgement has ended well, then the other end has dealt with the close, and no further one
is on its way there; neither end has the session any more, and no payload of it is on its way
back. -/
theorem acknowledged_close (config : Role → ChannelConfig) (depth : Role → Nat)
    (reception : Role → Reception) (before later : List Move) (role : Role) (key : UInt32)
    (timeout : Nat) (byHandle : Bool)
    (hdone : ((later.foldl move ((run config depth reception before).move
        (.act role (.call (.closeAndWait key timeout) byHandle)))).peers.host role).outcome?
      ((run config depth reception before).peers.host role).tasks.length = some .done) :
    let now := later.foldl move ((run config depth reception before).move
      (.act role (.call (.closeAndWait key timeout) byHandle)))
    (∃ frame ∈ now.handled role.other, frame.session = key ∧
        frame.body = .control .sessionClose) ∧
      (∀ frame ∈ now.underway role, frame.session = key → frame.body ≠ .control .sessionClose) ∧
      (∀ any, (now.peers.host any).channel.sessions.find? key = none) ∧
      ∀ frame ∈ now.underway role.other, frame.session = key → frame.payload? = none := by
  intro now
  have hstart : (run config depth reception before).Sound :=
    (sound_create config depth reception).run before
  have hcalled := hstart.move (.act role (.call (.closeAndWait key timeout) byHandle))
  obtain ⟨task, htask, hwarranted⟩ := hcalled.warrants_run
    (warrants_call (run config depth reception before) role key timeout byHandle) later
  have hack : Acknowledging (now.met role key) := by
    cases htask.symm.trans (Host.task_of_outcome? hdone)
    cases hwarranted with
    | ended houtcome => exact houtcome rfl
  obtain ⟨⟨frame, hmem, hbody⟩, hannounced, ⟨hnear, hfar⟩, hdrained⟩ :=
    ((hcalled.run later).stands key).over hack
  refine ⟨?_, fun frame hmem hsession hbody => ?_, fun any => ?_, fun frame hmem hsession => ?_⟩
  · obtain ⟨hhandled, hsession⟩ := List.mem_filter.mp hmem
    exact ⟨frame, hhandled, of_decide_eq_true hsession, hbody⟩
  · exact hannounced ⟨frame, mem_underway hmem hsession, hbody⟩
  · rcases any.eq_or_eq_other role with rfl | rfl
    · exact hnear
    · exact hfar
  · exact hdrained frame (mem_underway hmem hsession)

def connected : Exchange :=
  run (fun _ => default) (fun _ => 4) (fun _ => { rules := [], accepting := true })
    [.act .client (.call (.openSession 80 .queue) false), .act .client (.turn 0),
      .pass .client (.ok .queue)]

/-- Both ends close the session before they hear of the other one, and both calls end well. -/
theorem acknowledged_close_of_crossing :
    let caller := (connected.peers.host .client).tasks.length
    let now := [.act .client (.turn 1), .act .server (.call (.closeAndWait 1 50) false),
      .act .server (.turn 0), .pass .client (.ok .queue), .pass .server (.ok .queue),
      .pass .client (.ok .queue), .pass .server (.ok .queue), .act .client (.turn 1),
      .act .server (.turn 0)].foldl move
        (connected.move (.act .client (.call (.closeAndWait 1 50) false)))
    (now.peers.host .server).outcome? 0 = some .done ∧
      (now.peers.host .client).outcome? caller = some .done ∧
      (∃ frame ∈ now.handled .server, frame.session = 1 ∧ frame.body = .control .sessionClose) ∧
      ∀ any, (now.peers.host any).channel.sessions.find? 1 = none := by
  intro caller now
  have hdone : (now.peers.host .client).outcome? caller = some .done := by decide
  obtain ⟨hdealt, -, hgone, -⟩ := acknowledged_close _ _ _ _ _ .client 1 50 false hdone
  exact ⟨by decide, hdone, hdealt, hgone⟩

end Exchange

end SessionMux
