import SessionMux.Proofs.Channel.Register
import SessionMux.Proofs.Host.Trace

/-!
# What tasks learn

Settling a channel hands out the verdicts that an operation has left in it: a task that waits for
an acknowledgement learns the first one that is for it, and no other task learns anything. So a
turn of a call, from its operation on the channel to the last signal, comes down to the task that it
leaves behind and to the register of the channel (`Host.Settles`).
-/

namespace SessionMux

def Job.hear (verdict : Option Verdict) : Job → Job
  | .call request (.awaiting id deadline none) => .call request (.awaiting id deadline verdict)
  | job => job

namespace HostTask

def hear (verdict : Option Verdict) : HostTask → HostTask
  | .working job aborted => .working (job.hear verdict) aborted
  | .over outcome => .over outcome

def awaited? : HostTask → Option UInt32
  | .working (.call _ (.awaiting id _ _)) _ => some id
  | _ => none

def IsOpen : HostTask → Prop
  | .working (.call _ (.awaiting _ _ none)) _ => True
  | _ => False

theorem isOpen_or (task : HostTask) :
    (∃ request id deadline aborted,
      task = .working (.call request (.awaiting id deadline none)) aborted) ∨
    (¬ task.IsOpen ∧ (∀ verdict, task.hear verdict = task) ∧
      ∀ signal caller, task.learn signal caller = task) := by
  rcases task with ⟨job, aborted⟩ | outcome
  · cases job with
    | call request stage =>
        cases stage with
        | arriving | asking =>
            exact .inr ⟨id, fun _ => rfl, fun signal _ => by cases signal <;> rfl⟩
        | awaiting session deadline verdict =>
            cases verdict with
            | none => exact .inl ⟨request, session, deadline, aborted, rfl⟩
            | some verdict =>
                exact .inr ⟨id, fun _ => rfl, fun signal _ => by cases signal <;> rfl⟩
    | reply | awaitClose | readStream | writeStream | readDatagrams | writeDatagrams | forward =>
        exact .inr ⟨id, fun _ => rfl, fun signal _ => by cases signal <;> rfl⟩
  · exact .inr ⟨id, fun _ => rfl, fun _ _ => rfl⟩

@[simp]
theorem hear_none (task : HostTask) : task.hear none = task := by
  obtain ⟨request, id, deadline, aborted, rfl⟩ | ⟨-, hhear, -⟩ := task.isOpen_or
  · rfl
  · exact hhear none

/-- The first verdict counts. -/
theorem hear_hear (verdict later : Option Verdict) (task : HostTask) :
    (task.hear verdict).hear later = task.hear (verdict.or later) := by
  cases verdict with
  | none => rw [hear_none, Option.none_or]
  | some verdict =>
      obtain ⟨request, id, deadline, aborted, rfl⟩ | ⟨-, hhear, -⟩ := task.isOpen_or
      · rfl
      · rw [hhear, hhear, hhear]

@[simp]
theorem awaited?_hear (verdict : Option Verdict) (task : HostTask) :
    (task.hear verdict).awaited? = task.awaited? := by
  obtain ⟨request, id, deadline, aborted, rfl⟩ | ⟨-, hhear, -⟩ := task.isOpen_or
  · rfl
  · rw [hhear]

/-- What a task learns from a signal is the verdict in it, if that is for this task. -/
theorem learn_eq_hear (signal : Signal) (caller : Caller) (task : HostTask) :
    task.learn signal caller = task.hear (signal.verdict?.toList.lookup caller) := by
  obtain ⟨request, id, deadline, aborted, rfl⟩ | ⟨-, hhear, hlearn⟩ := task.isOpen_or
  · cases signal with
    | acknowledged other | forsaken other =>
        by_cases heq : other = caller
        · simp [learn, Job.learn, hear, Job.hear, Signal.verdict?, heq]
        · have hother : (caller == other) = false := beq_false_of_ne (Ne.symm heq)
          simp [learn, Job.learn, hear, Job.hear, Signal.verdict?, List.lookup_cons, heq, hother]
    | granted | refused | queued | told | deferred | shutdown => rfl
  · rw [hlearn, hhear]

end HostTask

/-! ### Calls -/

def Verdict.result : Verdict → CallResult
  | acknowledged => .ok none
  | forsaken => .error .closed

inductive Call.Registers (register : Register) (clock : Nat) (caller : Caller) (request : Request)
    (stage : CallStage) : Turn CallStage CallResult → Register → Prop
  | arrives (hstage : stage = .arriving) :
      Registers register clock caller request stage (.goes .asking) register
  | stays : Registers register clock caller request stage (.waits stage) register
  /-- A call that waits ends with the verdict that it has learnt. -/
  | ends {result : CallResult} {next : Register}
      (hverdict : ∀ id deadline verdict, stage = .awaiting id deadline verdict →
        ∃ learnt, verdict = some learnt ∧ result = learnt.result)
      (hgrows : register.Grows next) (hwaits : register.SameWaits next) :
      Registers register clock caller request stage (.ends result) next
  | begins {id : UInt32} {timeout : Nat} (hrequest : request = .closeAndWait id timeout)
      (hstage : stage = .asking) (hopen : register.closed = false) :
      Registers register clock caller request stage (.goes (.awaiting id (clock + timeout) none))
        (register.await caller id)
  | givesUp {id : UInt32} {deadline : Nat} (hstage : stage = .awaiting id deadline none)
      (hdue : deadline ≤ clock) :
      Registers register clock caller request stage (.ends (.error (.closeTimeout id)))
        (register.giveUp caller id)

namespace Call

variable {channel : Channel} {clock : Nat} {caller : Caller}

/-- A call that does not wait for an acknowledgement can end with any result. -/
theorem Registers.concludes {register next : Register} {request : Request} {stage : CallStage}
    {result : CallResult} (hstage : stage = .arriving ∨ stage = .asking)
    (hgrows : register.Grows next) (hwaits : register.SameWaits next) :
    Registers register clock caller request stage (.ends result) next := by
  refine .ends (fun id deadline verdict hawaiting => ?_) hgrows hwaits
  obtain rfl | rfl := hstage <;> cases hawaiting

theorem registers_perform (request : Request) :
    Registers channel.register clock caller request .asking (perform channel clock caller request).1
      (perform channel clock caller request).2.register := by
  cases request with
  | send id payload =>
      rw [perform, Channel.register_send]
      exact .concludes (.inr rfl) (.refl _) (.refl _)
  | sendError id code =>
      rw [perform, Channel.register_sendError]
      exact .concludes (.inr rfl) (.refl _) (.refl _)
  | openSession port kind =>
      obtain ⟨hgrows, hwaits⟩ := channel.grows_openSession caller port kind
      exact .concludes (.inr rfl) hgrows hwaits
  | closeSession id =>
      rw [perform, Channel.register_closeSession]
      exact .concludes (.inr rfl) (.refl _) (.refl _)
  | closeAndWait id timeout =>
      have hclose := Channel.register_closeSession channel caller id true
      rcases hresult : channel.closeSession caller id true with ⟨error | ⟨⟩, next⟩ <;>
        rw [hresult] at hclose <;> simp only [perform, hresult] <;> rw [hclose]
      · exact .concludes (.inr rfl) (.refl _) (.refl _)
      · exact .begins rfl rfl (Channel.open_of_closeSession (congrArg Prod.fst hresult))

theorem registers_ask (request : Request) :
    Registers channel.register clock caller request .asking (ask channel clock caller request).1
      (ask channel clock caller request).2.register := by
  rcases ask_cases channel clock caller request with ⟨error, hask⟩ | ⟨error, hask⟩ | hask | hask <;>
    rw [hask]
  · exact .concludes (.inr rfl) (.refl _) (.refl _)
  · exact .concludes (.inr rfl) (.refl _) (.refl _)
  · exact .stays
  · rw [← channel.register_reserve caller]
    exact registers_perform request

theorem registers_step (channel : Channel) (present : Bool) (clock : Nat) (caller : Caller)
    (request : Request) (stage : CallStage) :
    Registers channel.register clock caller request stage
      (step channel present clock caller request stage).1
      (step channel present clock caller request stage).2.register := by
  cases stage with
  | arriving =>
      cases present with
      | true => exact .arrives rfl
      | false => exact .concludes (.inl rfl) (.refl _) (.refl _)
  | asking => exact registers_ask request
  | awaiting id deadline verdict =>
      have hlearnt (learnt : Verdict) : Registers channel.register clock caller request
          (.awaiting id deadline (some learnt)) (.ends learnt.result) channel.register := by
        refine .ends (fun id deadline verdict hstage => ?_) (.refl _) (.refl _)
        cases hstage
        exact ⟨learnt, rfl, rfl⟩
      rcases verdict with _ | _ | _
      · rw [step, await]
        split
        · rename_i hdue
          rw [Channel.register_stopWaiting]
          exact .givesUp rfl hdue
        · exact .stays
      · exact hlearnt .acknowledged
      · exact hlearnt .forsaken

end Call

/-! ### Settling -/

namespace Host

variable {host : Host}

/-- Only replies come into being while a signal is heeded. -/
theorem reply_of_heed {caller : Caller} {task : HostTask} {signal : Signal}
    (hnone : host.tasks[caller]? = none) (htask : (host.heed signal).tasks[caller]? = some task) :
    ∃ frame, task = .working (.reply frame) false := by
  have hbound : (host.tasks.mapIdx (HostTask.learn signal)).length ≤ caller := by
    simpa using hnone
  rw [(host.heed_eq signal).2, List.getElem?_append_right hbound] at htask
  obtain ⟨frame, -, rfl⟩ := List.mem_map.mp (List.mem_of_getElem? htask)
  exact ⟨frame, rfl⟩

/-- What becomes of a host whose tasks are `tasks` and whose register is `register` when the
verdicts have been learnt. -/
structure Settles (tasks : List HostTask) (register : Register) (next : Host) : Prop where
  written : next.channel.register = { register with verdicts := [] }
  heard : ∀ (caller : Caller) (task : HostTask), tasks[caller]? = some task →
    next.tasks[caller]? = some (task.hear (register.verdicts.lookup caller))
  /-- A task that has come into being does not wait yet. -/
  fresh : ∀ (caller : Caller) (task : HostTask), tasks[caller]? = none →
    next.tasks[caller]? = some task → task.awaited? = none

theorem tasks_foldl_heed (signals : List Signal) (host : Host) :
    (∀ (caller : Caller) (task : HostTask), host.tasks[caller]? = some task →
      (signals.foldl heed host).tasks[caller]? =
        some (task.hear ((signals.filterMap Signal.verdict?).lookup caller))) ∧
    ∀ (caller : Caller) (task : HostTask), host.tasks[caller]? = none →
      (signals.foldl heed host).tasks[caller]? = some task →
        ∃ frame, task = .working (.reply frame) false := by
  induction signals generalizing host with
  | nil =>
      refine ⟨fun caller task htask => ?_, fun caller task hnone htask => ?_⟩
      · simpa using htask
      · rw [List.foldl_nil, hnone] at htask
        cases htask
  | cons signal signals ih =>
      obtain ⟨hheard, hfresh⟩ := ih (host.heed signal)
      have hverdicts : (signal :: signals).filterMap Signal.verdict? =
          signal.verdict?.toList ++ signals.filterMap Signal.verdict? := by
        cases hverdict : signal.verdict? <;> simp [hverdict]
      refine ⟨fun caller task htask => ?_, fun caller task hnone htask => ?_⟩
      · rw [List.foldl_cons, hheard caller _ (task_heed htask signal), HostTask.learn_eq_hear,
          HostTask.hear_hear, hverdicts, List.lookup_append]
      · -- The reply comes into being with this signal or with a later one; it learns nothing.
        cases hnext : (host.heed signal).tasks[caller]? with
        | none => exact hfresh caller task hnext htask
        | some next =>
            obtain ⟨frame, rfl⟩ := reply_of_heed hnone hnext
            rw [List.foldl_cons, hheard caller _ hnext] at htask
            exact ⟨frame, (Option.some.inj htask).symm⟩

theorem channel_settleChannel (host : Host) (channel : Channel) :
    (host.settleChannel channel).channel = { channel with signals := [] } :=
  (foldl_heed { host with channel := { channel with signals := [] } } channel.signals).1

theorem settles_settleChannel {tasks : List HostTask} (htasks : host.tasks = tasks)
    (channel : Channel) : Settles tasks channel.register (host.settleChannel channel) := by
  subst htasks
  obtain ⟨hheard, hfresh⟩ := tasks_foldl_heed channel.signals
    { host with channel := { channel with signals := [] } }
  refine ⟨?_, hheard, fun caller task hnone htask => ?_⟩
  · rw [channel_settleChannel]
    rfl
  · obtain ⟨frame, rfl⟩ := hfresh caller task hnone htask
    rfl

theorem register_leave (channel : Channel) (caller : Caller) (job : Job) :
    (leave channel caller job).register = channel.register := by
  cases job with
  | writeStream | writeDatagrams => exact Channel.register_abandonOutbox
  | forward client forward =>
      rw [leave]
      split
      · rw [Channel.register_giveBack, Channel.register_silence]
      · exact Channel.register_giveBack caller
  | call | reply | awaitClose | readStream | readDatagrams => exact Channel.register_giveBack caller

/-- A task that ends tells the others nothing. -/
theorem Settles.finish {tasks : List HostTask} {register : Register}
    (h : Settles tasks register host) {caller : Caller} (hcaller : caller < tasks.length)
    (job : Job) (outcome : Outcome) :
    Settles (tasks.set caller (.over outcome)) register (host.finish caller job outcome) := by
  have hfinish : Settles (host.tasks.set caller (.over outcome))
      (leave host.channel caller job).register (host.finish caller job outcome) := by
    refine settles_settleChannel ?_ _
    rfl
  have hleave : (leave host.channel caller job).register =
      { register with verdicts := [] } := by rw [register_leave, h.written]
  have hlate : ∀ (other : Caller) (task : HostTask),
      (host.tasks.set caller (.over outcome))[other]? = some task →
        (host.finish caller job outcome).tasks[other]? = some task := by
    intro other task htask
    have hheard := hfinish.heard other task htask
    rw [hleave] at hheard
    simpa using hheard
  refine ⟨by rw [hfinish.written, hleave], fun other task htask => ?_,
    fun other task hnone htask => ?_⟩
  · refine hlate other _ ?_
    by_cases heq : caller = other
    · subst heq
      have hbefore := h.heard caller _ (List.getElem?_eq_getElem hcaller)
      obtain ⟨hbound, -⟩ := List.getElem?_eq_some_iff.mp hbefore
      rw [List.getElem?_set_self hcaller] at htask
      cases htask
      exact List.getElem?_set_self hbound
    · rw [List.getElem?_set_ne heq] at htask ⊢
      exact h.heard other task htask
  · have hbound : tasks.length ≤ other := by simpa using hnone
    have hne : caller ≠ other := Nat.ne_of_lt (Nat.lt_of_lt_of_le hcaller hbound)
    cases hmiddle : host.tasks[other]? with
    | none =>
        refine hfinish.fresh other task ?_ htask
        rw [List.getElem?_set_ne hne, hmiddle]
    | some middle =>
        have hsame := hlate other middle (by rw [List.getElem?_set_ne hne, hmiddle])
        obtain rfl := Option.some.inj (hsame.symm.trans htask)
        exact h.fresh other middle (List.getElem?_eq_none hbound) hmiddle

def afterTurn (request : Request) : Turn CallStage CallResult → HostTask
  | .waits next | .goes next => .working (.call request next) false
  | .ends result => .over (.ofCall result)

/-- The turn of a call, as its operation on the channel. -/
theorem settles_turn {caller : Caller} {request : Request} {stage : CallStage}
    (htask : host.tasks[caller]? = some (.working (.call request stage) false)) :
    Settles
      (host.tasks.set caller (afterTurn request
        (Call.step host.channel host.present host.clock caller request stage).1))
      (Call.step host.channel host.present host.clock caller request stage).2.register
      (host.turn false caller).1 := by
  obtain ⟨hcaller, -⟩ := List.getElem?_eq_some_iff.mp htask
  have hgoes (channel : Channel) (next : CallStage) : Settles
      (host.tasks.set caller (.working (.call request next) false)) channel.register
      (settleChannel { host with
        channel,
        tasks := host.tasks.set caller (.working (.call request next) false) } channel) := by
    refine settles_settleChannel ?_ channel
    rfl
  rcases hstep : Call.step host.channel host.present host.clock caller request stage with
    ⟨next | next | result, channel⟩
  · rw [turn_eq_of_goes htask (.inl hstep)]
    exact hgoes channel next
  · rw [turn_eq_of_goes htask (.inr hstep)]
    exact hgoes channel next
  · have hsettles : Settles host.tasks channel.register
        (settleChannel { host with channel } channel) := settles_settleChannel rfl channel
    rw [turn_eq_of_ends htask hstep]
    exact hsettles.finish hcaller _ _

end Host

end SessionMux
