import SessionMux.Proofs.Channel.Failure
import SessionMux.Proofs.Host.Verdict

/-!
# Calls that fail leave no trace

A call that waits for a place in the outbound queue shares the channel with whatever else goes on
meanwhile, so what it does itself has to be told apart from what others do: it is what happens in
the turns of its own task and when it is aborted. `Host.Untouched` says of one such step that it
leaves no trace. A call that fails, or is aborted before its frame is in the queue, takes no other
steps (`Host.failed_leaves_no_trace`).
-/

namespace SessionMux.Host

variable {host next last : Host} {caller : Caller}

def KeepsPlace (host : Host) (caller : Caller) : Prop := caller ∈ host.channel.outbox.places

/-! ### Between two moves nothing is left to be heeded -/

theorem signals_turn (hquiet : host.channel.signals = []) (eager : Bool) (caller : Caller) :
    (host.turn eager caller).1.channel.signals = [] := by
  rw [turn]
  split
  · rw [finish, channel_settleChannel]
  · split
    · rw [channel_settleChannel]
    · rw [channel_settleChannel]
    · rw [finish, channel_settleChannel]
  · exact hquiet

theorem signals_act (hquiet : host.channel.signals = []) (action : Action) :
    (host.act action).channel.signals = [] := by
  cases action with
  | call | silence | letGo => exact hquiet
  | abort caller =>
      rw [act]
      split
      · obtain ⟨ready, hwake⟩ := wake_eq { host with tasks := host.tasks.modify caller _ } caller
        rw [abort, hwake]
        exact hquiet
      · exact hquiet
  | turn caller => exact signals_turn hquiet false caller
  | advance milliseconds =>
      obtain ⟨ready, hwake⟩ := wakeWhere_eq { host with clock := host.clock + milliseconds }
        fun _ job => job.isDue (host.clock + milliseconds)
      rw [act, advance, hwake]
      exact hquiet
  | close =>
      rw [act, Host.close, channel_settleChannel]
  | fail code message =>
      rw [act, Host.fail, channel_settleChannel]

theorem signals_move (hquiet : host.channel.signals = []) (move : Move) :
    (host.move move).channel.signals = [] := by
  cases move with
  | act action => exact signals_act hquiet action
  | hear frame admission => rw [Host.move, hear, channel_settleChannel]
  | take =>
      rw [Host.move, takeFrames]
      cases host.channel.takeFrame? with
      | none => exact hquiet
      | some taken => simp only [takeFrames, channel_settleChannel]
  | abandon => rw [Host.move, abandonOutbox, channel_settleChannel]

theorem Reachable.signals (h : host.Reachable) : host.channel.signals = [] := by
  obtain ⟨config, depth, reception, moves, rfl⟩ := h
  have hrun (start : Host) (hquiet : start.channel.signals = []) :
      (moves.foldl Host.move start).channel.signals = [] := by
    induction moves generalizing start with
    | nil => exact hquiet
    | cons move moves ih => exact ih (start.move move) (signals_move hquiet move)
  exact hrun _ rfl

/-! ### Passing places on -/

/-- To pass a place on wakes its new owner, and does nothing else. -/
theorem heed_granted (host : Host) (caller : Caller) :
    ∃ ready, host.heed (.granted caller) = { host with ready } := by
  have htasks : host.tasks.mapIdx (HostTask.learn (.granted caller)) = host.tasks := by
    apply List.ext_getElem?
    intro other
    rw [List.getElem?_mapIdx]
    cases host.tasks[other]? with
    | none => rfl
    | some task => simp [HostTask.learn_eq_hear, Signal.verdict?]
  obtain ⟨ready, hwake⟩ := host.wakeWhere_eq fun caller' job => job.heeds caller' (.granted caller)
  refine ⟨ready, ?_⟩
  simp only [heed, htasks]
  exact hwake

theorem foldl_heed_granted (callers : List Caller) (host : Host) :
    ∃ ready, (callers.map Signal.granted).foldl heed host = { host with ready } := by
  induction callers generalizing host with
  | nil => exact ⟨host.ready, rfl⟩
  | cons caller callers ih =>
      obtain ⟨ready, hheed⟩ := host.heed_granted caller
      obtain ⟨ready', hrest⟩ := ih (host.heed (.granted caller))
      refine ⟨ready', ?_⟩
      rw [List.map_cons, List.foldl_cons, hrest, hheed]

/-! ### One step -/

/-- A step of a call that leaves no trace: it changes the call's own task, its places in the queue,
and where the search for a session id goes on. Places it gives back are passed on to others. -/
structure Untouched (host : Host) (caller : Caller) (next : Host) : Prop where
  rest : next = { host with channel := next.channel, tasks := next.tasks, ready := next.ready }
  tasks : ∃ task, next.tasks = host.tasks.set caller task
  channel : next.channel =
    { host.channel with nextSession := next.channel.nextSession, outbox := next.channel.outbox }
  forward : host.channel.nextSession ≤ next.channel.nextSession
  outbox : host.channel.outbox.Spares caller next.channel.outbox

theorem Untouched.trans (hfirst : host.Untouched caller next)
    (hsecond : next.Untouched caller last) : host.Untouched caller last where
  rest := by
    rw [hsecond.rest, hfirst.rest]
  tasks := by
    obtain ⟨first, hfirst⟩ := hfirst.tasks
    obtain ⟨second, hsecond⟩ := hsecond.tasks
    exact ⟨second, by rw [hsecond, hfirst, List.set_set]⟩
  channel := by
    rw [hsecond.channel, hfirst.channel]
  forward := Nat.le_trans hfirst.forward hsecond.forward
  outbox := hfirst.outbox.trans hsecond.outbox

theorem untouched_settleChannel {channel : Channel} {tasks : List HostTask}
    (hquiet : host.channel.signals = []) (hspares : host.channel.Spares caller channel)
    (htasks : ∃ task, tasks = host.tasks.set caller task) (before : Channel) :
    host.Untouched caller (settleChannel { host with channel := before, tasks } channel) := by
  obtain ⟨callers, hsignals⟩ := hspares.signals
  rw [hquiet, List.nil_append] at hsignals
  obtain ⟨ready, hsettled⟩ := foldl_heed_granted callers
    { host with channel := { channel with signals := [] }, tasks }
  rw [← hsignals] at hsettled
  rw [settleChannel, hsettled]
  refine ⟨rfl, htasks, ?_, hspares.forward, hspares.outbox⟩
  rw [hspares.rest, ← hquiet]

theorem untouched_finish (host : Host) (hquiet : host.channel.signals = []) (caller : Caller)
    (request : Request) (stage : CallStage) (outcome : Outcome) :
    host.Untouched caller (host.finish caller (.call request stage) outcome) ∧
      ¬ (host.finish caller (.call request stage) outcome).KeepsPlace caller := by
  refine ⟨?_, ?_⟩
  · exact untouched_settleChannel hquiet (host.channel.spares_giveBack caller) ⟨_, rfl⟩ host.channel
  · rw [KeepsPlace, finish, channel_settleChannel]
    exact host.channel.outbox.not_mem_places_release caller

theorem Untouched.refl (host : Host) (caller : Caller) : host.Untouched caller host where
  rest := rfl
  tasks := by
    cases htask : host.tasks[caller]? with
    | none =>
        refine ⟨.over .done, ?_⟩
        rw [List.set_eq_of_length_le (List.getElem?_eq_none_iff.mp htask)]
    | some task => exact ⟨task, (set_self htask).symm⟩
  channel := rfl
  forward := Nat.le_refl _
  outbox := .refl _ _

theorem untouched_abort (host : Host) (caller : Caller) :
    host.Untouched caller (host.act (.abort caller)) := by
  rw [act]
  split
  · rename_i request stage aborted htask
    obtain ⟨ready, hwake⟩ := wake_eq
      { host with tasks := host.tasks.set caller (.working (.call request stage) true) } caller
    have habort : host.abort caller = { host with
        tasks := host.tasks.set caller (.working (.call request stage) true), ready } := by
      rw [abort, modify_eq_set _ htask]
      exact hwake
    rw [habort]
    exact ⟨rfl, ⟨_, rfl⟩, rfl, Nat.le_refl _, .refl _ _⟩
  · exact .refl host caller

/-! ### The steps of a call -/

def Asks (host : Host) (caller : Caller) (request : Request) : Prop :=
  ∃ stage aborted, host.tasks[caller]? = some (.working (.call request stage) aborted) ∧
    (stage = .arriving ∨ stage = .asking)

def IsQueued (host : Host) (caller : Caller) : Prop :=
  ∃ request id deadline verdict aborted,
    host.tasks[caller]? = some (.working (.call request (.awaiting id deadline verdict)) aborted)

def Move.IsStepOf (caller : Caller) (move : Move) : Prop :=
  move = .act (.turn caller) ∨ move = .act (.abort caller)

/-- What becomes of a call in a move before its frame is in the queue. -/
inductive Fares (host : Host) (caller : Caller) (request : Request) (move : Move) : Prop
  | asks (huntouched : move.IsStepOf caller → host.Untouched caller (host.move move))
      (hasks : (host.move move).Asks caller request)
  | fails {outcome : Outcome} (huntouched : host.Untouched caller (host.move move))
      (hplaces : ¬ (host.move move).KeepsPlace caller)
      (hover : (host.move move).tasks[caller]? = some (.over outcome))
  | succeeds {result : Option UInt32}
      (hover : (host.move move).tasks[caller]? = some (.over (.ofCall (.ok result))))
  | awaits (hqueued : (host.move move).IsQueued caller)

variable {request : Request}

theorem fares_turn (hquiet : host.channel.signals = []) {stage : CallStage}
    (htask : host.tasks[caller]? = some (.working (.call request stage) false))
    (hstage : stage = .arriving ∨ stage = .asking) :
    host.Fares caller request (.act (.turn caller)) := by
  obtain ⟨hcaller, -⟩ := List.getElem?_eq_some_iff.mp htask
  have hspares := Call.spares_step host.channel host.present host.clock caller request hstage
  have hheard := (settles_turn htask).heard caller _ (List.getElem?_set_self hcaller)
  -- A turn after which the call is not at its end.
  have hgoes (next : CallStage) (channel : Channel)
      (hstep : Call.step host.channel host.present host.clock caller request stage =
          (.waits next, channel) ∨
        Call.step host.channel host.present host.clock caller request stage =
          (.goes next, channel))
      (hchannel : next = .arriving ∨ next = .asking → host.channel.Spares caller channel)
      (hnext : ∃ learnt, (host.turn false caller).1.tasks[caller]? =
        some ((HostTask.working (.call request next) false).hear learnt)) :
      host.Fares caller request (.act (.turn caller)) := by
    have huntouched (hearly : next = .arriving ∨ next = .asking) :
        host.Untouched caller (host.turn false caller).1 := by
      rw [turn_eq_of_goes htask hstep]
      exact untouched_settleChannel hquiet (hchannel hearly) ⟨_, rfl⟩ channel
    obtain ⟨learnt, hnext⟩ := hnext
    cases next with
    | arriving => exact .asks (fun _ => huntouched (.inl rfl)) ⟨_, _, hnext, .inl rfl⟩
    | asking => exact .asks (fun _ => huntouched (.inr rfl)) ⟨_, _, hnext, .inr rfl⟩
    | awaiting id deadline verdict =>
        cases verdict with
        | none => exact .awaits ⟨request, id, deadline, learnt, false, hnext⟩
        | some verdict => exact .awaits ⟨request, id, deadline, some verdict, false, hnext⟩
  rcases hstep : Call.step host.channel host.present host.clock caller request stage with
    ⟨next | next | result, channel⟩ <;> rw [hstep] at hspares hheard
  · refine hgoes next channel (.inl hstep) (fun hearly => hspares ?_) ⟨_, hheard⟩
    obtain rfl | rfl := hearly <;> exact id
  · refine hgoes next channel (.inr hstep) (fun hearly => hspares ?_) ⟨_, hheard⟩
    obtain rfl | rfl := hearly <;> exact id
  · cases result with
    | ok result => exact .succeeds hheard
    | error error =>
        have hfirst : host.Untouched caller (settleChannel { host with channel } channel) :=
          untouched_settleChannel hquiet (hspares id) ⟨_, (set_self htask).symm⟩ channel
        obtain ⟨hlast, hplaces⟩ := untouched_finish (settleChannel { host with channel } channel)
          (by rw [channel_settleChannel]) caller request stage (.ofCall (.error error))
        have hturn := turn_eq_of_ends htask hstep
        refine .fails (?_ : host.Untouched caller (host.turn false caller).1) ?_ hheard
        · rw [hturn]
          exact hfirst.trans hlast
        · rw [Host.move, act, hturn]
          exact hplaces

theorem fares_turn_aborted (hquiet : host.channel.signals = []) {stage : CallStage}
    (htask : host.tasks[caller]? = some (.working (.call request stage) true)) :
    host.Fares caller request (.act (.turn caller)) := by
  have hturn := turn_eq_of_aborted htask
  obtain ⟨huntouched, hplaces⟩ := untouched_finish host hquiet caller request stage .aborted
  have hover := task_of_outcome? (outcome?_finish htask (.call request stage) .aborted)
  rw [← hturn] at huntouched hplaces hover
  exact .fails huntouched hplaces hover

/-- What others do is nothing to a call that waits for a place. -/
theorem Effect.asks {move : Move} {tasks : List HostTask} {register : Register}
    (heffect : host.Effect move tasks register) (hasks : host.Asks caller request)
    (hothers : move ≠ .act (.turn caller)) :
    ∃ stage aborted, tasks[caller]? = some (.working (.call request stage) aborted) ∧
      (stage = .arriving ∨ stage = .asking) := by
  obtain ⟨stage, aborted, htask, hstage⟩ := hasks
  obtain ⟨hcaller, -⟩ := List.getElem?_eq_some_iff.mp htask
  have hkept {other : Caller} {task : HostTask} (hmove : move = .act (.turn other)) :
      (host.tasks.set other task)[caller]? = host.tasks[caller]? := by
    refine List.getElem?_set_ne ?_
    rintro rfl
    exact hothers hmove
  cases heffect with
  | rests | acknowledges | closes => exact ⟨stage, aborted, htask, hstage⟩
  | @marks other request' stage' aborted' hother =>
      by_cases heq : other = caller
      · subst heq
        cases htask.symm.trans hother
        exact ⟨stage, true, List.getElem?_set_self hcaller, hstage⟩
      · refine ⟨stage, aborted, ?_, hstage⟩
        rw [List.getElem?_set_ne heq]
        exact htask
  | arrives | ends | begins | givesUp => exact ⟨stage, aborted, (hkept rfl).trans htask, hstage⟩

theorem Asks.fares (hasks : host.Asks caller request) (h : host.Waits)
    (hquiet : host.channel.signals = []) (move : Move) : host.Fares caller request move := by
  by_cases hturn : move = .act (.turn caller)
  · subst hturn
    obtain ⟨stage, aborted, htask, hstage⟩ := hasks
    cases aborted with
    | false => exact fares_turn hquiet htask hstage
    | true => exact fares_turn_aborted hquiet htask
  · obtain ⟨tasks, register, heffect, hsettles⟩ := effect_move h.truthful.plain h.told move
    obtain ⟨stage, aborted, htask, hstage⟩ := heffect.asks hasks hturn
    refine .asks ?_ ?_
    · rintro (hself | rfl)
      · exact absurd hself hturn
      · exact host.untouched_abort caller
    · refine ⟨stage, aborted, ?_, hstage⟩
      have hheard := hsettles.heard caller _ htask
      obtain rfl | rfl := hstage <;> exact hheard

/-! ### The whole call -/

def IsRefusal : Outcome → Prop
  | .failed (.payloadTooLarge ..) | .failed (.unknownSession _) | .failed .idsExhausted => True
  | _ => False

theorem Waits.over_run (h : host.Waits) {outcome : Outcome}
    (hover : host.tasks[caller]? = some (.over outcome)) (moves : List Move) :
    (moves.foldl Host.move host).tasks[caller]? = some (.over outcome) := by
  induction moves generalizing host with
  | nil => exact hover
  | cons move moves ih => exact ih (h.move move) (h.over_move hover move)

/-- A call that is over has ended before. -/
theorem Waits.not_over (h : host.Waits) {outcome : Outcome} {moves : List Move}
    (hpending : (moves.foldl Host.move host).outcome? caller = none) :
    host.tasks[caller]? ≠ some (.over outcome) := by
  intro hover
  rw [outcome?, h.over_run hover moves] at hpending
  cases hpending

theorem IsQueued.not_refused (hqueued : host.IsQueued caller) (h : host.Waits) (last : Move)
    (moves : List Move) {outcome : Outcome}
    (hpending : (moves.foldl Host.move host).outcome? caller = none)
    (hends : ((moves ++ [last]).foldl Host.move host).outcome? caller = some outcome) :
    ¬ IsRefusal outcome := by
  obtain ⟨request, id, deadline, verdict, aborted, htask⟩ := hqueued
  induction moves generalizing host verdict aborted with
  | nil =>
      obtain ⟨learnt, marked, hnext, -⟩ | ⟨ended, hover, hreason⟩ := h.awaiting_move htask last
      · rw [List.nil_append, List.foldl_cons, List.foldl_nil, outcome?, hnext] at hends
        cases hends
      · rw [List.nil_append, List.foldl_cons, List.foldl_nil, outcome?, hover] at hends
        cases hends
        intro hrefusal
        obtain ⟨-, rfl⟩ | ⟨learnt, -, rfl⟩ | ⟨-, rfl⟩ := hreason
        · exact hrefusal
        · cases learnt <;> exact hrefusal
        · exact hrefusal
  | cons move moves ih =>
      obtain ⟨learnt, marked, hnext, -⟩ | ⟨ended, hover, -⟩ := h.awaiting_move htask move
      · exact ih (h.move move) hpending hends learnt marked hnext
      · exact absurd hover ((h.move move).not_over hpending)

def EndsEarly (host : Host) (caller : Caller) (moves : List Move) (outcome : Outcome) : Prop :=
  IsRefusal outcome ∨ (outcome = .failed .closed ∨ outcome = .aborted) ∧
    ∀ front, front <+: moves → ¬ (front.foldl Host.move host).IsQueued caller

theorem not_endsEarly_of_ok (host : Host) (caller : Caller) (moves : List Move)
    (result : Option UInt32) : ¬ host.EndsEarly caller moves (.ofCall (.ok result)) := by
  rintro (hrefusal | ⟨hearly, -⟩)
  · cases result <;> exact hrefusal
  · cases result <;> simp [Outcome.ofCall] at hearly

theorem EndsEarly.tail {move : Move} {moves : List Move} {outcome : Outcome}
    (hearly : host.EndsEarly caller (move :: moves) outcome) :
    (host.move move).EndsEarly caller moves outcome := by
  obtain hrefusal | ⟨houtcome, hunqueued⟩ := hearly
  · exact .inl hrefusal
  · refine .inr ⟨houtcome, fun front hfront => ?_⟩
    exact hunqueued (move :: front) (List.cons_prefix_cons.mpr ⟨rfl, hfront⟩)

/-- A call that ends without having its frame in the queue never had it there. -/
theorem EndsEarly.not_isQueued {move last : Move} {moves : List Move} {outcome : Outcome}
    (hearly : host.EndsEarly caller (move :: moves) outcome) (h : (host.move move).Waits)
    (hpending : (moves.foldl Host.move (host.move move)).outcome? caller = none)
    (hends : ((moves ++ [last]).foldl Host.move (host.move move)).outcome? caller = some outcome) :
    ¬ (host.move move).IsQueued caller := by
  intro hqueued
  obtain hrefusal | ⟨-, hunqueued⟩ := hearly
  · exact hqueued.not_refused h last moves hpending hends hrefusal
  · exact hunqueued [move] (List.cons_prefix_cons.mpr ⟨rfl, List.nil_prefix⟩) hqueued

theorem Asks.untouched (hasks : host.Asks caller request) (h : host.Waits)
    (hquiet : host.channel.signals = []) (last : Move) (moves : List Move) {outcome : Outcome}
    (hpending : (moves.foldl Host.move host).outcome? caller = none)
    (hends : ((moves ++ [last]).foldl Host.move host).outcome? caller = some outcome)
    (hearly : host.EndsEarly caller moves outcome) :
    (∀ front move rear, moves ++ [last] = front ++ move :: rear → move.IsStepOf caller →
        (front.foldl Host.move host).Untouched caller
          ((front.foldl Host.move host).move move)) ∧
      ¬ ((moves ++ [last]).foldl Host.move host).KeepsPlace caller := by
  induction moves generalizing host with
  | nil =>
      rw [List.nil_append, List.foldl_cons, List.foldl_nil] at hends ⊢
      have hover := task_of_outcome? hends
      have honly {front rear : List Move} {move : Move} (hsplit : [last] = front ++ move :: rear) :
          front = [] ∧ move = last := by
        cases front with
        | nil => exact ⟨rfl, (List.cons.inj hsplit).1.symm⟩
        | cons first front => simp at hsplit
      cases hasks.fares h hquiet last with
      | asks huntouched hnext =>
          obtain ⟨stage, aborted, htask, -⟩ := hnext
          cases htask.symm.trans hover
      | fails huntouched hplaces _ =>
          refine ⟨fun front move rear hsplit hstep => ?_, hplaces⟩
          obtain ⟨rfl, rfl⟩ := honly hsplit
          exact huntouched
      | succeeds hsucceeds =>
          cases hsucceeds.symm.trans hover
          exact absurd hearly (host.not_endsEarly_of_ok caller [] _)
      | awaits hqueued =>
          obtain ⟨request, id, deadline, verdict, aborted, htask⟩ := hqueued
          cases htask.symm.trans hover
  | cons move moves ih =>
      have hnext := h.move move
      cases hasks.fares h hquiet move with
      | asks huntouched hasks' =>
          obtain ⟨hsteps, hplaces⟩ :=
            ih hasks' hnext (signals_move hquiet move) hpending hends hearly.tail
          refine ⟨fun front step rear hsplit hstep => ?_, hplaces⟩
          cases front with
          | nil =>
              obtain ⟨rfl, -⟩ := List.cons.inj hsplit
              exact huntouched hstep
          | cons first front =>
              obtain ⟨rfl, hrest⟩ := List.cons.inj hsplit
              exact hsteps front step rear hrest hstep
      | fails _ _ hover => exact absurd hover (hnext.not_over hpending)
      | succeeds hover => exact absurd hover (hnext.not_over hpending)
      | awaits hqueued => exact absurd hqueued (hearly.not_isQueued hnext hpending hends)

/-- **Calls that fail leave no trace.** Take any call, in any state that a run has led to, and
whatever goes on while it waits for a place in the outbound queue. If it ends because its payload is
too long, its session is unknown or there is no id left, or because the channel is closed or the
call is aborted before its frame is in the queue, then none of its own steps has left a trace, and
it keeps no place in the queue: the table, the counters, the waits for acknowledgements, the frames
in the queue and on their way there, the endpoints and the trace are what they were before the
step. -/
theorem failed_leaves_no_trace (hreachable : host.Reachable) (request : Request) (byHandle : Bool)
    (moves : List Move) (last : Move) {outcome : Outcome}
    (hpending : (moves.foldl Host.move (host.move (.act (.call request byHandle)))).outcome?
      host.tasks.length = none)
    (hends : ((moves ++ [last]).foldl Host.move
      (host.move (.act (.call request byHandle)))).outcome? host.tasks.length = some outcome)
    (hearly : (host.move (.act (.call request byHandle))).EndsEarly host.tasks.length moves
      outcome) :
    let caller := host.tasks.length
    let started := host.move (.act (.call request byHandle))
    started.channel = host.channel ∧
      (∀ front move rear, moves ++ [last] = front ++ move :: rear → move.IsStepOf caller →
        (front.foldl Host.move started).Untouched caller
          ((front.foldl Host.move started).move move)) ∧
      ¬ ((moves ++ [last]).foldl Host.move started).KeepsPlace caller := by
  intro caller started
  have hasks : started.Asks caller request := by
    refine ⟨if byHandle then .arriving else .asking, false, ?_, ?_⟩
    · exact List.getElem?_concat_length
    · cases byHandle with
      | true => exact .inl rfl
      | false => exact .inr rfl
  have hquiet : started.channel.signals = [] := hreachable.signals
  exact ⟨rfl, hasks.untouched (hreachable.waits.move _) hquiet last moves hpending hends hearly⟩

def crowded : Host :=
  [.hear { port := 80, session := 2, body := .control .sessionOpen } (.ok .queue),
    .act (.call (.openSession 81 .queue) false), .act (.turn 0)].foldl Host.move
    (create default 1 { rules := [], accepting := true })

/-- A payload has to wait until its session has ended. Then the place becomes free, and the send
fails and gives the place back. -/
theorem failed_leaves_no_trace_of_waiting_send :
    let caller := crowded.tasks.length
    let started := crowded.move (.act (.call (.send 2 []) false))
    let moves := [.act (.turn caller),
      .hear { port := 80, session := 2, body := .control .sessionClose } (.ok .queue), .take]
    let last := .act (.turn caller)
    let now := moves.foldl Host.move started
    let ended := (moves ++ [last]).foldl Host.move started
    now.channel.outbox.granted = [caller] ∧
      ended.outcome? caller = some (.failed (.unknownSession 2)) ∧
      now.Untouched caller (now.move last) ∧ ¬ ended.KeepsPlace caller := by
  intro caller started moves last now ended
  have hreachable : crowded.Reachable := ⟨_, _, _, _, rfl⟩
  have hgranted : now.channel.outbox.granted = [caller] := by decide
  have hpending : now.outcome? caller = none := by decide
  have hends : ended.outcome? caller = some (.failed (.unknownSession 2)) := by decide
  have htrace := failed_leaves_no_trace hreachable (.send 2 []) false moves last hpending hends
    (.inl trivial)
  exact ⟨hgranted, hends, htrace.2.1 moves last [] rfl (.inl rfl), htrace.2.2⟩

end SessionMux.Host
