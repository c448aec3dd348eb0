import SessionMux.Proofs.Host.Rest
import SessionMux.Proofs.Host.Tasks

/-!
# Nobody sleeps through a signal

A host is wakeful if every task that is not about to take a turn may rest (`Host.Wakeful`). Signals
keep it so: whoever cannot rest any more because of what an operation did is woken when the signals
of the operation are heeded, and whoever comes into being meanwhile is ready.
-/

namespace SessionMux

/-! ### What wakes a task -/

namespace Host

variable {host : Host} {caller : Caller} {job : Job} {aborted : Bool}

theorem subset_wake (host : Host) (caller : Caller) : host.ready ⊆ (host.wake caller).ready := by
  unfold wake
  split
  · split
    · exact List.Subset.refl _
    · exact List.subset_append_left _ _
  · exact List.Subset.refl _

theorem mem_ready_wake (htask : host.tasks[caller]? = some (.working job aborted)) :
    caller ∈ (host.wake caller).ready := by
  rw [wake, htask]
  by_cases hready : host.ready.contains caller = true
  · simp only [hready, if_true]
    exact List.contains_iff_mem.mp hready
  · simp only [hready, if_false, Bool.false_eq_true]
    exact List.mem_append_right _ (List.mem_singleton_self _)

theorem subset_foldl_wake (callers : List Caller) (host : Host) :
    host.ready ⊆ (callers.foldl wake host).ready := by
  induction callers generalizing host with
  | nil => exact List.Subset.refl _
  | cons caller callers ih => exact List.Subset.trans (subset_wake host caller) (ih _)

theorem mem_ready_foldl_wake {callers : List Caller}
    (htask : host.tasks[caller]? = some (.working job aborted)) (hmem : caller ∈ callers) :
    caller ∈ (callers.foldl wake host).ready := by
  induction callers generalizing host with
  | nil => cases hmem
  | cons first callers ih =>
      obtain rfl | hmem := List.mem_cons.mp hmem
      · exact subset_foldl_wake callers _ (mem_ready_wake htask)
      · obtain ⟨ready, hwake⟩ := host.wake_eq first
        rw [List.foldl_cons]
        refine ih ?_ hmem
        rw [hwake]
        exact htask

theorem subset_wakeWhere (host : Host) (chosen : Caller → Job → Bool) :
    host.ready ⊆ (host.wakeWhere chosen).ready := subset_foldl_wake _ host

theorem mem_ready_wakeWhere {chosen : Caller → Job → Bool}
    (htask : host.tasks[caller]? = some (.working job aborted))
    (hchosen : chosen caller job = true) : caller ∈ (host.wakeWhere chosen).ready := by
  obtain ⟨hcaller, -⟩ := List.getElem?_eq_some_iff.mp htask
  refine mem_ready_foldl_wake htask (List.mem_filter.mpr ⟨List.mem_range.mpr hcaller, ?_⟩)
  simp only [htask, hchosen]

end Host

theorem Job.heeds_learn (caller : Caller) (job : Job) (learnt signal : Signal) :
    (job.learn caller learnt).heeds caller signal = job.heeds caller signal := by
  unfold Job.learn
  split
  · split <;> rfl
  · split <;> rfl
  · rfl

namespace Host

variable {host : Host} {caller : Caller} {job : Job} {aborted : Bool}

/-- Whoever a signal wakes, after all have learnt from it, is about to take a turn. -/
theorem subset_ready_heed (host : Host) (signal : Signal) :
    (wakeWhere { host with tasks := host.tasks.mapIdx (HostTask.learn signal) }
      fun caller job => job.heeds caller signal).ready ⊆ (host.heed signal).ready := by
  unfold heed
  cases signal with
  | deferred frame => exact List.subset_append_left _ _
  | granted | refused | queued | told | acknowledged | forsaken | shutdown =>
      exact List.Subset.refl _

theorem subset_heed (host : Host) (signal : Signal) :
    host.ready ⊆ (host.heed signal).ready := by
  refine List.Subset.trans ?_ (host.subset_ready_heed signal)
  exact subset_wakeWhere { host with tasks := host.tasks.mapIdx (HostTask.learn signal) } _

theorem mem_ready_heed {signal : Signal}
    (htask : host.tasks[caller]? = some (.working job aborted))
    (hheeds : job.heeds caller signal = true) : caller ∈ (host.heed signal).ready := by
  have hlearnt : (host.tasks.mapIdx (HostTask.learn signal))[caller]? =
      some (.working (job.learn caller signal) aborted) := by
    rw [List.getElem?_mapIdx, htask]
    rfl
  exact host.subset_ready_heed signal
    (mem_ready_wakeWhere hlearnt ((job.heeds_learn caller signal signal).trans hheeds))

/-- A reply that comes into being while a signal is heeded is about to take a turn. -/
theorem new_mem_ready_heed {signal : Signal} {task : HostTask}
    (hnone : host.tasks[caller]? = none)
    (htask : (host.heed signal).tasks[caller]? = some task) :
    caller ∈ (host.heed signal).ready := by
  obtain ⟨ready, hwake⟩ := wakeWhere_eq
    { host with tasks := host.tasks.mapIdx (HostTask.learn signal) }
    fun caller job => job.heeds caller signal
  have hlearnt : (host.tasks.mapIdx (HostTask.learn signal))[caller]? = none := by
    rw [List.getElem?_mapIdx, hnone]
    rfl
  unfold heed at htask ⊢
  simp only [hwake] at htask ⊢
  cases signal with
  | deferred frame =>
      simp only [spawn] at htask ⊢
      have hbound := List.getElem?_eq_none_iff.mp hlearnt
      obtain ⟨hcaller, -⟩ := List.getElem?_eq_some_iff.mp htask
      rw [List.length_append, List.length_singleton] at hcaller
      refine List.mem_append_right _ (List.mem_singleton.mpr ?_)
      exact Nat.le_antisymm (Nat.le_of_lt_succ hcaller) hbound
  | granted | refused | queued | told | acknowledged | forsaken | shutdown =>
      rw [hlearnt] at htask
      cases htask

/-- What heeding signals does to who is about to take a turn. -/
theorem ready_foldl_heed (signals : List Signal) (host : Host) :
    host.ready ⊆ (signals.foldl heed host).ready ∧
    (∀ (caller : Caller) (job : Job) (aborted : Bool),
      host.tasks[caller]? = some (.working job aborted) →
        (∃ signal ∈ signals, job.heeds caller signal = true) →
          caller ∈ (signals.foldl heed host).ready) ∧
    ∀ (caller : Caller) (task : HostTask), host.tasks[caller]? = none →
      (signals.foldl heed host).tasks[caller]? = some task →
        caller ∈ (signals.foldl heed host).ready := by
  induction signals generalizing host with
  | nil =>
      refine ⟨List.Subset.refl _, fun caller job aborted _ hsignal => ?_,
        fun caller task hnone htask => ?_⟩
      · obtain ⟨signal, hmem, -⟩ := hsignal
        cases hmem
      · rw [List.foldl_nil, hnone] at htask
        cases htask
  | cons signal signals ih =>
      obtain ⟨hsubset, hheeding, hnew⟩ := ih (host.heed signal)
      refine ⟨List.Subset.trans (host.subset_heed signal) hsubset,
        fun caller job aborted htask hsignal => ?_, fun caller task hnone htask => ?_⟩
      · obtain ⟨other, hmem, hheeds⟩ := hsignal
        obtain rfl | hmem := List.mem_cons.mp hmem
        · exact hsubset (mem_ready_heed htask hheeds)
        · exact hheeding caller _ aborted (task_heed htask signal)
            ⟨other, hmem, (job.heeds_learn caller signal other).trans hheeds⟩
      · cases hnext : (host.heed signal).tasks[caller]? with
        | none => exact hnew caller task hnext htask
        | some next => exact hsubset (new_mem_ready_heed hnone hnext)

theorem wire_heed (host : Host) (signal : Signal) : (host.heed signal).wire = host.wire := by
  obtain ⟨ready, hwake⟩ := wakeWhere_eq
    { host with tasks := host.tasks.mapIdx (HostTask.learn signal) }
    fun caller job => job.heeds caller signal
  unfold heed
  simp only [hwake]
  cases signal <;> rfl

theorem wire_settleChannel (host : Host) (channel : Channel) :
    (host.settleChannel channel).wire = host.wire := by
  have hfold (signals : List Signal) (host : Host) :
      (signals.foldl heed host).wire = host.wire := by
    induction signals generalizing host with
    | nil => rfl
    | cons signal signals ih => exact (ih _).trans (host.wire_heed signal)
  exact hfold channel.signals _

end Host

/-! ### Who rests -/

def HostTask.Rests (channel : Channel) (stall : Connection.Stall) (caller : Caller) :
    HostTask → Prop
  | .working job aborted => aborted = false ∧ job.Rests channel stall caller
  | .over _ => True

theorem HostTask.rests_hear (channel : Channel) (stall : Connection.Stall) (caller : Caller)
    (verdict : Option Verdict) (task : HostTask) :
    (task.hear verdict).Rests channel stall caller ↔ task.Rests channel stall caller := by
  obtain ⟨request, id, deadline, aborted, rfl⟩ | ⟨-, hhear, -⟩ := task.isOpen_or
  · rfl
  · rw [hhear]

namespace Host

def OthersRest (host : Host) (channel : Channel) (caller : Caller) : Prop :=
  ∀ (other : Caller) (task : HostTask), other ≠ caller → host.tasks[other]? = some task →
    other ∉ host.ready → task.Rests channel host.wire.stall other

/-- Everyone who is not about to take a turn rests. -/
structure Wakeful (host : Host) : Prop where
  sound : host.channel.outbox.Sound
  rests : ∀ (caller : Caller) (task : HostTask), host.tasks[caller]? = some task →
    caller ∉ host.ready → task.Rests host.channel host.wire.stall caller

variable {host : Host} {channel next : Channel} {caller : Caller}

theorem Wakeful.othersRest (h : host.Wakeful) (caller : Caller) :
    host.OthersRest host.channel caller :=
  fun other task _ htask hready => h.rests other task htask hready

theorem OthersRest.wakeful (h : host.OthersRest host.channel caller)
    (hsound : host.channel.outbox.Sound)
    (hself : ∀ task, host.tasks[caller]? = some task → caller ∉ host.ready →
      task.Rests host.channel host.wire.stall caller) : host.Wakeful := by
  refine ⟨hsound, fun other task htask hready => ?_⟩
  by_cases heq : other = caller
  · subst heq
    exact hself task htask hready
  · exact h other task heq htask hready

theorem sound_settleChannel (hsound : channel.outbox.Sound) :
    (host.settleChannel channel).channel.outbox.Sound := by
  rw [channel_settleChannel]
  exact hsound

/-- What a task that is there before signals are heeded becomes. -/
theorem hear_of_settleChannel {task : HostTask} (htask : host.tasks[caller]? = some task)
    (channel : Channel) :
    ∃ verdict, (host.settleChannel channel).tasks[caller]? = some (task.hear verdict) := by
  have hcleared : ({ host with channel := { channel with signals := [] } } : Host).tasks[caller]? =
      some task := htask
  exact ⟨_, (tasks_foldl_heed channel.signals _).1 caller task hcleared⟩

/-- Heeding the signals of an operation wakes all who cannot rest any more because of it. -/
theorem OthersRest.settleChannel (h : host.OthersRest channel caller)
    (halerts : channel.Alerts caller next) (hsound : channel.outbox.Sound) :
    (host.settleChannel next).OthersRest (host.settleChannel next).channel caller := by
  obtain ⟨hsubset, hheeding, hnew⟩ := ready_foldl_heed next.signals
    { host with channel := { next with signals := [] } }
  intro other task hne htask hready
  rw [channel_settleChannel, wire_settleChannel]
  cases hbefore : host.tasks[other]? with
  | none => exact absurd (hnew other task hbefore htask) hready
  | some before =>
      obtain ⟨verdict, hheard⟩ := hear_of_settleChannel hbefore next
      obtain rfl := Option.some.inj (htask.symm.trans hheard)
      rw [HostTask.rests_hear]
      have hrests := h other before hne hbefore fun hmem => hready (hsubset hmem)
      obtain ⟨job, aborted⟩ | outcome := before
      · obtain ⟨hgoing, hjob⟩ := hrests
        obtain hstill | hsignal := hjob.alerts halerts hsound hne
        · exact ⟨hgoing, hstill⟩
        · exact absurd (hheeding other job aborted hbefore hsignal) hready
      · trivial

theorem rests_settleChannel {task found : HostTask} (htask : host.tasks[caller]? = some task)
    (hrests : task.Rests next host.wire.stall caller)
    (hfound : (host.settleChannel next).tasks[caller]? = some found) :
    found.Rests (host.settleChannel next).channel (host.settleChannel next).wire.stall caller := by
  obtain ⟨verdict, hheard⟩ := hear_of_settleChannel htask next
  obtain rfl := Option.some.inj (hfound.symm.trans hheard)
  rw [HostTask.rests_hear, channel_settleChannel, wire_settleChannel]
  exact hrests

/-- An operation that no task takes part in. -/
theorem Wakeful.settleChannel (h : host.Wakeful)
    (halerts : ∀ caller, host.channel.Alerts caller next) :
    (host.settleChannel next).Wakeful := by
  have hsound : (host.settleChannel next).channel.outbox.Sound :=
    sound_settleChannel ((halerts 0).sound h.sound)
  refine ⟨hsound, fun caller task htask hready => ?_⟩
  have hothers := (h.othersRest (caller + 1)).settleChannel (halerts (caller + 1)) h.sound
  exact hothers caller task (Nat.ne_of_lt (Nat.lt_succ_self caller)) htask hready

theorem alerts_leave (channel : Channel) (caller : Caller) (job : Job) :
    channel.Alerts caller (leave channel caller job) := by
  cases job with
  | writeStream | writeDatagrams => exact Channel.alerts_abandonOutbox
  | forward client state =>
      rw [leave]
      split
      · have hsilenced (endpoint : Nat) : channel.Alerts caller (channel.silence endpoint) :=
          .of_same rfl rfl (List.Subset.refl _)
        exact (hsilenced _).trans (Channel.alerts_giveBack _ _)
      · exact Channel.alerts_giveBack _ _
  | call | reply | awaitClose | readStream | readDatagrams => exact Channel.alerts_giveBack _ _

theorem OthersRest.set (h : host.OthersRest channel caller) (task : HostTask) :
    OthersRest { host with tasks := host.tasks.set caller task } channel caller := by
  intro other found hne hfound hready
  rw [List.getElem?_set_ne hne.symm] at hfound
  exact h other found hne hfound hready

theorem OthersRest.finish {before : HostTask} (h : host.OthersRest host.channel caller)
    (hsound : host.channel.outbox.Sound) (hbefore : host.tasks[caller]? = some before) (job : Job)
    (outcome : Outcome) : (host.finish caller job outcome).Wakeful := by
  have halerts := alerts_leave host.channel caller job
  obtain ⟨hcaller, -⟩ := List.getElem?_eq_some_iff.mp hbefore
  have hover :
      ({ host with tasks := host.tasks.set caller (.over outcome) } : Host).tasks[caller]? =
        some (.over outcome) := List.getElem?_set_self hcaller
  refine ((h.set (.over outcome)).settleChannel halerts hsound).wakeful
    (sound_settleChannel (halerts.sound hsound)) fun task htask _ => ?_
  exact rests_settleChannel hover trivial htask

/-! ### Turns -/

/-- What has become of a host after a turn of a task, and whether the task can go on at once. -/
inductive Turned (host : Host) (caller : Caller) (job : Job) : Host → Bool → Prop
  | aborted : Turned host caller job (host.finish caller job .aborted) false
  | waits {later : Job} {next : Host} (hsection : host.Section caller job (.waits later) next) :
      Turned host caller job
        (settleChannel { next with tasks := next.tasks.set caller (.working later false) }
          next.channel) false
  | goes {later : Job} {next : Host} (hsection : host.Section caller job (.goes later) next) :
      Turned host caller job
        (settleChannel { next with tasks := next.tasks.set caller (.working later false) }
          next.channel) true
  | ends {outcome : Outcome} {next : Host}
      (hsection : host.Section caller job (.ends outcome) next) :
      Turned host caller job ((next.settleChannel next.channel).finish caller job outcome) false

theorem turned_turn {job : Job} {aborted : Bool} (eager : Bool)
    (htask : host.tasks[caller]? = some (.working job aborted)) :
    host.Turned caller job (host.turn eager caller).1 (host.turn eager caller).2 := by
  cases aborted with
  | true =>
      rw [turn, htask]
      exact .aborted
  | false =>
      have hsection := host.section_stepJob eager caller job
      rw [turn, htask]
      rcases hstep : host.stepJob eager caller job with ⟨later | later | outcome, next⟩ <;>
        rw [hstep] at hsection <;> simp only [hstep]
      · exact .waits hsection
      · exact .goes hsection
      · exact .ends hsection

/-- The others rest on after a section of a task's work, when its signals have been heeded. -/
theorem OthersRest.section {job : Job} {turn : Turn Job Outcome} {after : Host}
    (h : host.OthersRest host.channel caller) (hsection : host.Section caller job turn after)
    (hsound : host.channel.outbox.Sound) {tasks : List HostTask}
    (htasks : ∀ other, other ≠ caller → tasks[other]? = host.tasks[other]?) :
    (Host.settleChannel { after with tasks } after.channel).OthersRest
      (Host.settleChannel { after with tasks } after.channel).channel caller := by
  have hbefore : OthersRest { after with tasks } host.channel caller := by
    intro other task hne htask hready
    have hrests := h other task hne ((htasks other hne).symm.trans htask)
    rw [← hsection.ready, ← hsection.stall] at hrests
    exact hrests hready
  exact hbefore.settleChannel hsection.mindful.alerts hsound

/-- Whoever is woken need not rest. -/
theorem OthersRest.wake (h : host.OthersRest host.channel caller)
    (hsound : host.channel.outbox.Sound) : (host.wake caller).Wakeful := by
  have hwoken (job : Job) (aborted : Bool)
      (htask : host.tasks[caller]? = some (.working job aborted)) := mem_ready_wake htask
  have hsubset := host.subset_wake caller
  obtain ⟨ready, hwake⟩ := host.wake_eq caller
  rw [hwake] at hwoken hsubset ⊢
  have hothers : OthersRest { host with ready } host.channel caller :=
    fun other task hne hother hready => h other task hne hother fun hmem => hready (hsubset hmem)
  refine hothers.wakeful hsound fun task htask hready => ?_
  obtain ⟨job, aborted⟩ | outcome := task
  · exact absurd (hwoken job aborted htask) hready
  · trivial

/-- A turn leaves everyone resting who is not about to take one. A task that can go on at once is to
take another turn. -/
theorem OthersRest.turned {job : Job} {before : HostTask} {after : Host} {goes : Bool}
    (h : host.OthersRest host.channel caller) (hsound : host.channel.outbox.Sound)
    (hbefore : host.tasks[caller]? = some before) (hturned : host.Turned caller job after goes) :
    (if goes then after.wake caller else after).Wakeful := by
  obtain ⟨hcaller, -⟩ := List.getElem?_eq_some_iff.mp hbefore
  have hset {next : Host} (htasks : next.tasks = host.tasks) (task : HostTask) :
      ({ next with tasks := next.tasks.set caller task } : Host).tasks[caller]? = some task ∧
        ∀ other, other ≠ caller → (next.tasks.set caller task)[other]? = host.tasks[other]? := by
    simp only [htasks]
    exact ⟨List.getElem?_set_self hcaller, fun other hne => List.getElem?_set_ne hne.symm⟩
  cases hturned with
  | aborted => exact h.finish hsound hbefore job .aborted
  | @waits later next hsection =>
      obtain ⟨hself, hothers⟩ := hset hsection.tasks (.working later false)
      have hrest := h.section hsection hsound hothers
      refine hrest.wakeful (sound_settleChannel (hsection.mindful.alerts.sound hsound))
        fun task htask _ => rests_settleChannel hself ⟨rfl, ?_⟩ htask
      obtain ⟨-, hrests⟩ := hsection.mindful
      rw [hsection.stall]
      exact hrests
  | @goes later next hsection =>
      obtain ⟨-, hothers⟩ := hset hsection.tasks (.working later false)
      have hrest := h.section hsection hsound hothers
      exact hrest.wake (sound_settleChannel (hsection.mindful.alerts.sound hsound))
  | @ends outcome next hsection =>
      have hrest := h.section hsection hsound fun other _ => congrArg (·[other]?) hsection.tasks
      have hstill : next.tasks[caller]? = some before := hsection.tasks ▸ hbefore
      obtain ⟨verdict, htask⟩ := hear_of_settleChannel hstill next.channel
      exact hrest.finish (sound_settleChannel (hsection.mindful.alerts.sound hsound)) htask job
        outcome

end Host

end SessionMux
