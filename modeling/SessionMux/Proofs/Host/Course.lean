import SessionMux.Proofs.Host.Deeds

/-!
# What a step leaves behind

A step of a host gives at most one task its turn. What comes of that turn is said by one section of
the task's work (`Host.Took`); every other task goes on as it was, but for a verdict that it learns
(`Host.Heeds`). So whoever follows one task through a run, or one connection, looks into the turns
of a few tasks only (`Host.Stepped`).
-/

namespace SessionMux

def HostTask.ofTurn : Turn Job Outcome → HostTask
  | .waits next | .goes next => .working next false
  | .ends outcome => .over outcome

def HostTask.mark : HostTask → HostTask
  | .working job _ => .working job true
  | .over outcome => .over outcome

theorem HostTask.working_of_hear {task : HostTask} {verdict : Option Verdict} {job : Job}
    {aborted : Bool} (hworking : task.hear verdict = .working job aborted) :
    ∃ before, task = .working before aborted ∧ job = before.hear verdict := by
  rcases task with ⟨before, marked⟩ | outcome
  · cases hworking
    exact ⟨before, rfl, rfl⟩
  · cases hworking

theorem HostTask.working_of_mark {task : HostTask} {job : Job} {aborted : Bool}
    (hworking : task.mark = .working job aborted) : ∃ marked, task = .working job marked := by
  rcases task with ⟨before, marked⟩ | outcome
  · cases hworking
    exact ⟨marked, rfl⟩
  · cases hworking

theorem HostTask.over_of_hear {task : HostTask} {verdict : Option Verdict} {outcome : Outcome}
    (hover : task.hear verdict = .over outcome) : task = .over outcome := by
  cases task with
  | working => cases hover
  | «over» => exact hover

theorem HostTask.over_of_mark {task : HostTask} {outcome : Outcome}
    (hover : task.mark = .over outcome) : task = .over outcome := by
  cases task with
  | working => cases hover
  | «over» => exact hover

namespace Host

variable {host next last : Host} {caller : Caller} {job : Job} {aborted : Bool}

/-! ### Heeding signals -/

/-- What becomes of a host while signals are heeded: tasks learn verdicts and are woken, and replies
that have to wait get tasks of their own. -/
structure Heeds (host next : Host) : Prop where
  wire : next.wire = host.wire
  clients : next.clients = host.clients
  tasks : ∀ (caller : Caller) (task : HostTask), host.tasks[caller]? = some task →
    ∃ verdict, next.tasks[caller]? = some (task.hear verdict)
  fresh : ∀ (caller : Caller) (task : HostTask), host.tasks[caller]? = none →
    next.tasks[caller]? = some task → ∃ frame, task = .working (.reply frame) false
  ready : host.ready ⊆ next.ready

theorem Heeds.of_ready {ready : List Caller} (hready : host.ready ⊆ ready) :
    host.Heeds { host with ready } where
  wire := rfl
  clients := rfl
  tasks := fun _ task htask => ⟨none, by rw [HostTask.hear_none]; exact htask⟩
  fresh := fun _ _ hnone htask => by cases hnone.symm.trans htask
  ready := hready

theorem Heeds.refl (host : Host) : host.Heeds host := .of_ready (List.Subset.refl _)

theorem Heeds.trans (hfirst : host.Heeds next) (hsecond : next.Heeds last) : host.Heeds last where
  wire := hsecond.wire.trans hfirst.wire
  clients := hsecond.clients.trans hfirst.clients
  tasks := fun caller task htask => by
    obtain ⟨verdict, hheard⟩ := hfirst.tasks caller task htask
    obtain ⟨later, hlater⟩ := hsecond.tasks caller _ hheard
    rw [HostTask.hear_hear] at hlater
    exact ⟨_, hlater⟩
  fresh := fun caller task hnone htask => by
    cases hmiddle : next.tasks[caller]? with
    | none => exact hsecond.fresh caller task hmiddle htask
    | some middle =>
        obtain ⟨frame, rfl⟩ := hfirst.fresh caller middle hnone hmiddle
        obtain ⟨verdict, hheard⟩ := hsecond.tasks caller _ hmiddle
        exact ⟨frame, Option.some.inj (htask.symm.trans hheard)⟩
  ready := List.Subset.trans hfirst.ready hsecond.ready

/-- What a task is made into before signals are heeded, it is made into afterwards as well. -/
theorem Heeds.set (h : host.Heeds next) (hcaller : caller < host.tasks.length) (task : HostTask) :
    Heeds { host with tasks := host.tasks.set caller task }
      { next with tasks := next.tasks.set caller task } := by
  obtain ⟨verdict, hheard⟩ := h.tasks caller _ (List.getElem?_eq_getElem hcaller)
  obtain ⟨hbound, -⟩ := List.getElem?_eq_some_iff.mp hheard
  refine ⟨h.wire, h.clients, fun other found hfound => ?_, fun other found hnone hfound => ?_,
    h.ready⟩
  · by_cases heq : caller = other
    · subst heq
      rw [List.getElem?_set_self hcaller] at hfound
      cases hfound
      exact ⟨none, by rw [HostTask.hear_none]; exact List.getElem?_set_self hbound⟩
    · rw [List.getElem?_set_ne heq] at hfound ⊢
      exact h.tasks other found hfound
  · have hne : caller ≠ other := by
      rintro rfl
      rw [List.getElem?_set_self hcaller] at hnone
      cases hnone
    rw [List.getElem?_set_ne hne] at hnone hfound
    exact h.fresh other found hnone hfound

theorem heed_unfolds (host : Host) (signal : Signal) :
    ∃ tasks ready, host.heed signal = { host with tasks, ready } := by
  obtain ⟨ready, hwake⟩ := wakeWhere_eq
    { host with tasks := host.tasks.mapIdx (HostTask.learn signal) }
    fun caller job => job.heeds caller signal
  unfold heed
  simp only [hwake]
  cases signal <;> exact ⟨_, _, rfl⟩

theorem settleChannel_unfolds (host : Host) (channel : Channel) : ∃ tasks ready,
    host.settleChannel channel =
      { host with channel := { channel with signals := [] }, tasks, ready } := by
  have hfold (signals : List Signal) (host : Host) :
      ∃ tasks ready, signals.foldl heed host = { host with tasks, ready } := by
    induction signals generalizing host with
    | nil => exact ⟨_, _, rfl⟩
    | cons signal signals ih =>
        obtain ⟨tasks, ready, hheed⟩ := host.heed_unfolds signal
        obtain ⟨tasks', ready', hrest⟩ := ih (host.heed signal)
        exact ⟨tasks', ready', by rw [List.foldl_cons, hrest, hheed]⟩
  exact hfold channel.signals _

theorem heeds_settleChannel (host : Host) (channel : Channel) :
    host.Heeds (host.settleChannel channel) where
  wire := host.wire_settleChannel channel
  clients := by
    obtain ⟨tasks, ready, hsettled⟩ := host.settleChannel_unfolds channel
    rw [hsettled]
  tasks := fun _ _ htask => hear_of_settleChannel htask channel
  fresh :=
    (tasks_foldl_heed channel.signals { host with channel := { channel with signals := [] } }).2
  ready :=
    (ready_foldl_heed channel.signals { host with channel := { channel with signals := [] } }).1

theorem heeds_wake (host : Host) (caller : Caller) : host.Heeds (host.wake caller) := by
  have hsubset := host.subset_wake caller
  obtain ⟨ready, hwake⟩ := host.wake_eq caller
  rw [hwake] at hsubset ⊢
  exact .of_ready hsubset

theorem heeds_wakeWhere (host : Host) (chosen : Caller → Job → Bool) :
    host.Heeds (host.wakeWhere chosen) := by
  have hsubset := host.subset_wakeWhere chosen
  obtain ⟨ready, hwake⟩ := host.wakeWhere_eq chosen
  rw [hwake] at hsubset ⊢
  exact .of_ready hsubset

/-! ### Turns -/

/-- The section of work that a task does in its turn. One that was told to end does none. -/
def workOf (host : Host) (eager : Bool) (caller : Caller) (job : Job) (aborted : Bool) :
    Turn Job Outcome × Host :=
  if aborted then (.ends .aborted, host) else host.stepJob eager caller job

def leftBy (caller : Caller) (job : Job) (turn : Turn Job Outcome) (channel : Channel) : Channel :=
  match turn with
  | .ends _ => leave channel caller job
  | .waits _ | .goes _ => channel

/-- What the turn of a task leaves behind, where `turn` and `after` come of its section of work. -/
structure Took (host : Host) (caller : Caller) (job : Job) (turn : Turn Job Outcome)
    (after next : Host) : Prop where
  channel : next.channel = { leftBy caller job turn after.channel with signals := [] }
  wire : next.wire = after.wire
  clients : next.clients = after.clients
  task : ∃ verdict, next.tasks[caller]? = some ((HostTask.ofTurn turn).hear verdict)
  others : ∀ (other : Caller) (task : HostTask), other ≠ caller → host.tasks[other]? = some task →
    ∃ verdict, next.tasks[other]? = some (task.hear verdict)
  fresh : ∀ (other : Caller) (task : HostTask), host.tasks[other]? = none →
    next.tasks[other]? = some task → ∃ frame, task = .working (.reply frame) false
  ready : ∀ other ∈ host.ready, other ≠ caller → other ∈ next.ready

/-- A task that is over after its turn has ended in it. -/
theorem Took.ends {turn : Turn Job Outcome} {after : Host} {outcome : Outcome}
    (htook : host.Took caller job turn after next)
    (hover : next.tasks[caller]? = some (.over outcome)) : turn = .ends outcome := by
  obtain ⟨verdict, hself⟩ := htook.task
  have hends := HostTask.over_of_hear (Option.some.inj (hself.symm.trans hover))
  cases turn <;> cases hends
  rfl

theorem Heeds.took {turn : Turn Job Outcome} {after : Host} (hcaller : caller < host.tasks.length)
    (htasks : after.tasks = host.tasks) (hready : ∀ other ∈ host.ready, other ≠ caller →
      other ∈ after.ready)
    (hheeds : Heeds { after with tasks := after.tasks.set caller (.ofTurn turn) } next)
    (hchannel : next.channel = { leftBy caller job turn after.channel with signals := [] }) :
    host.Took caller job turn after next where
  channel := hchannel
  wire := hheeds.wire
  clients := hheeds.clients
  task := by
    refine hheeds.tasks caller _ ?_
    rw [htasks]
    exact List.getElem?_set_self hcaller
  others := fun other task hne htask => by
    refine hheeds.tasks other task ?_
    rw [htasks]
    exact (List.getElem?_set_ne hne.symm).trans htask
  fresh := fun other task hnone htask => by
    have hne : caller ≠ other := by
      rintro rfl
      exact absurd (List.getElem?_eq_none_iff.mp hnone) (Nat.not_le.mpr hcaller)
    refine hheeds.fresh other task ?_ htask
    rw [htasks]
    exact (List.getElem?_set_ne hne).trans hnone
  ready := fun other hmem hne => hheeds.ready (hready other hmem hne)

theorem leave_quiet (channel : Channel) (caller : Caller) (job : Job) :
    { leave { channel with signals := [] } caller job with signals := [] } =
      ({ leave channel caller job with signals := [] } : Channel) := by
  cases job with
  | forward client forward =>
      simp only [leave]
      split <;> rfl
  | call | reply | awaitClose | readStream | writeStream | readDatagrams | writeDatagrams => rfl

/-- Who is about to take a turn does not matter to a section of work. -/
theorem workOf_dequeue (host : Host) (eager : Bool) (caller : Caller) (job : Job) (aborted : Bool) :
    (host.dequeue caller).workOf eager caller job aborted =
      ((host.workOf eager caller job aborted).1,
        (host.workOf eager caller job aborted).2.dequeue caller) := by
  cases aborted with
  | true => rfl
  | false =>
      cases job with
      | forward client forward =>
          simp only [workOf, stepJob, dequeue]
          cases host.clients[client]? <;> rfl
      | call | reply | awaitClose | readStream | writeStream | readDatagrams | writeDatagrams => rfl

theorem tasks_workOf (host : Host) (eager : Bool) (caller : Caller) (job : Job) (aborted : Bool) :
    (host.workOf eager caller job aborted).2.tasks = host.tasks ∧
      (host.workOf eager caller job aborted).2.ready = host.ready := by
  cases aborted with
  | true => exact ⟨rfl, rfl⟩
  | false =>
      have hsection := host.section_stepJob eager caller job
      exact ⟨hsection.tasks, hsection.ready⟩

/-- A task that was not told to end may go on at once only if its section of work says so. -/
theorem took_turn (eager : Bool) (htask : host.tasks[caller]? = some (.working job aborted)) :
    host.Took caller job (host.workOf eager caller job aborted).1
        (host.workOf eager caller job aborted).2 (host.turn eager caller).1 ∧
      ((host.turn eager caller).2 = true ↔
        ∃ later, (host.workOf eager caller job aborted).1 = .goes later) := by
  obtain ⟨hcaller, -⟩ := List.getElem?_eq_some_iff.mp htask
  cases aborted with
  | true =>
      rw [turn, htask]
      refine ⟨Heeds.took hcaller rfl (fun _ hmem _ => hmem) (heeds_settleChannel _ _) ?_,
        by simp [workOf]⟩
      exact channel_settleChannel _ _
  | false =>
      obtain ⟨htasks, hready⟩ := host.tasks_workOf eager caller job false
      rw [turn, htask]
      simp only [workOf, Bool.false_eq_true, if_false] at htasks hready ⊢
      have hstill (other : Caller) (hmem : other ∈ host.ready) (_ : other ≠ caller) :
          other ∈ (host.stepJob eager caller job).2.ready := hready ▸ hmem
      rcases hstep : host.stepJob eager caller job with ⟨later | later | outcome, after⟩ <;>
        rw [hstep] at htasks hstill
      · refine ⟨Heeds.took hcaller htasks hstill (heeds_settleChannel _ _) ?_, by simp⟩
        exact channel_settleChannel _ _
      · refine ⟨Heeds.took hcaller htasks hstill (heeds_settleChannel _ _) ?_, by simp⟩
        exact channel_settleChannel _ _
      · have hbound : caller < after.tasks.length := htasks ▸ hcaller
        have hsettled := (after.heeds_settleChannel after.channel).set hbound (.over outcome)
        refine ⟨Heeds.took hcaller htasks hstill
          (hsettled.trans (heeds_settleChannel _ _)) ?_, by simp⟩
        simp only [finish, channel_settleChannel, leftBy]
        exact leave_quiet _ _ _

/-- **The turn of a task.** -/
theorem took_takeTurn (eager : Bool) (htask : host.tasks[caller]? = some (.working job aborted)) :
    host.Took caller job (host.workOf eager caller job aborted).1
        (host.workOf eager caller job aborted).2 (host.takeTurn eager caller) ∧
      ∀ later, (host.workOf eager caller job aborted).1 = .goes later →
        caller ∈ (host.takeTurn eager caller).ready := by
  have hbefore : (host.dequeue caller).tasks[caller]? = some (.working job aborted) := htask
  obtain ⟨htook, hgoes⟩ := took_turn eager hbefore
  rw [workOf_dequeue] at htook hgoes
  have hbegun : host.Took caller job (host.workOf eager caller job aborted).1
      (host.workOf eager caller job aborted).2 ((host.dequeue caller).turn eager caller).1 :=
    { htook with
      ready := fun other hmem hne =>
        htook.ready other (List.mem_filter.mpr ⟨hmem, decide_eq_true hne⟩) hne }
  unfold takeTurn
  rcases hresult : (host.dequeue caller).turn eager caller with ⟨after, _ | _⟩ <;>
    rw [hresult] at hbegun hgoes
  · refine ⟨hbegun, fun later hlater => ?_⟩
    cases hgoes.mpr ⟨later, hlater⟩
  · obtain ⟨later, hlater⟩ := hgoes.mp rfl
    have hwoken := after.heeds_wake caller
    obtain ⟨verdict, hself⟩ := hbegun.task
    rw [hlater] at hself
    refine ⟨?_, fun _ _ => mem_ready_wake hself⟩
    obtain ⟨ready, hwake⟩ := after.wake_eq caller
    simp only [if_true]
    rw [hwake] at hwoken ⊢
    exact { hbegun with ready := fun other hmem hne => hwoken.ready (hbegun.ready other hmem hne) }

theorem takeTurn_of_idle (eager : Bool)
    (hidle : ∀ job aborted, host.tasks[caller]? ≠ some (.working job aborted)) :
    host.takeTurn eager caller = host.dequeue caller := by
  unfold takeTurn
  rcases htask : (host.dequeue caller).tasks[caller]? with _ | ⟨job, aborted⟩ | outcome
  · simp [turn, htask]
  · exact absurd htask (hidle job aborted)
  · simp [turn, htask]

theorem channel_wakeWhere (host : Host) (chosen : Caller → Job → Bool) :
    (host.wakeWhere chosen).channel = host.channel := by
  obtain ⟨ready, hwake⟩ := host.wakeWhere_eq chosen
  rw [hwake]

/-- Nothing is left for tasks to learn between two steps. -/
theorem signals_step (hquiet : host.channel.signals = []) (step : Step) :
    (host.step step).channel.signals = [] := by
  cases step with
  | call | forward | awaitClose | silence | stopAccepting | letGo => exact hquiet
  | abort caller =>
      obtain ⟨woken, hwake⟩ := wake_eq { host with tasks := host.tasks.modify caller .mark } caller
      exact (congrArg (·.channel.signals) hwake).trans hquiet
  | turn eager caller =>
      by_cases hworking : ∃ job aborted, host.tasks[caller]? = some (.working job aborted)
      · obtain ⟨job, aborted, htask⟩ := hworking
        exact congrArg Channel.signals (took_takeTurn eager htask).1.channel
      · push Not at hworking
        rw [Host.step, takeTurn_of_idle eager hworking]
        exact hquiet
  | line line change =>
      cases line <;> exact (congrArg Channel.signals (channel_wakeWhere _ _)).trans hquiet
  | advance milliseconds => exact (congrArg Channel.signals (channel_wakeWhere _ _)).trans hquiet
  | close => rw [Host.step, Host.close, channel_settleChannel]
  | fail code message => rw [Host.step, Host.fail, channel_settleChannel]

theorem signals_run (hquiet : host.channel.signals = []) (steps : List Step) :
    (steps.foldl step host).channel.signals = [] :=
  List.foldlRecOn (motive := fun host => host.channel.signals = []) steps step hquiet
    fun _ hbefore move _ => signals_step hbefore move

/-! ### Steps that give nobody a turn -/

def starts? (host : Host) : Step → Option Job
  | .call request byHandle => some (.call request (if byHandle then .arriving else .asking))
  | .forward port => some (.forward host.clients.length (.create port))
  | .awaitClose => some .awaitClose
  | _ => none

/-- How the physical connection fares in a step, apart from what tasks do with it. -/
def Step.changeWire : Step → Connection → Connection
  | .line .wire change, wire => change wire
  | _, wire => wire

def Step.changeClients : Step → List Connection → List Connection
  | .forward _, clients => clients ++ [.fresh]
  | .line (.client number) change, clients => clients.modify number change
  | _, clients => clients

structure Asked (host : Host) (step : Step) (next : Host) : Prop where
  ledger : host.ledger.Works none next.ledger
  wire : next.wire = step.changeWire host.wire
  clients : next.clients = step.changeClients host.clients
  tasks : ∀ (caller : Caller) (task : HostTask), host.tasks[caller]? = some task →
    (∃ verdict, next.tasks[caller]? = some (task.hear verdict)) ∨
      step = .abort caller ∧ next.tasks[caller]? = some task.mark
  fresh : ∀ (caller : Caller) (task : HostTask), host.tasks[caller]? = none →
    next.tasks[caller]? = some task →
      (caller = host.tasks.length ∧ ∃ job, host.starts? step = some job ∧
        task = .working job false) ∨
      ∃ frame, task = .working (.reply frame) false
  ready : host.ready ⊆ next.ready

theorem Heeds.asked {step : Step} {begun : Host} (hheeds : begun.Heeds next)
    (htasks : begun.tasks = host.tasks) (hready : begun.ready = host.ready)
    (hwire : begun.wire = step.changeWire host.wire)
    (hclients : begun.clients = step.changeClients host.clients)
    (hledger : host.ledger.Works none next.ledger) : host.Asked step next where
  ledger := hledger
  wire := hheeds.wire.trans hwire
  clients := hheeds.clients.trans hclients
  tasks := fun caller task htask => .inl (hheeds.tasks caller task (htasks ▸ htask))
  fresh := fun caller task hnone htask => .inr (hheeds.fresh caller task (htasks ▸ hnone) htask)
  ready := hready ▸ hheeds.ready

theorem ledger_spawn (host : Host) (job : Job) (hreply : ∀ frame, job ≠ .reply frame) :
    (host.spawn job).ledger = host.ledger := by
  have hnone : (HostTask.working job false).reply? = none := by
    cases job with
    | reply frame => exact absurd rfl (hreply frame)
    | call | awaitClose | readStream | writeStream | readDatagrams | writeDatagrams | forward => rfl
  have hreplies : (host.spawn job).replies = host.replies := by
    simp [spawn, replies, hnone]
  rw [ledger, hreplies]
  rfl

theorem asked_spawn {step : Step} {begun : Host} {job : Job} (htasks : begun.tasks = host.tasks)
    (hready : begun.ready = host.ready) (hwire : begun.wire = step.changeWire host.wire)
    (hclients : begun.clients = step.changeClients host.clients)
    (hchannel : begun.channel = host.channel) (hstarts : host.starts? step = some job)
    (hreply : ∀ frame, job ≠ .reply frame) : host.Asked step (begun.spawn job) where
  ledger := by
    have hsame : begun.ledger = host.ledger := by rw [ledger, replies, htasks, hchannel]; rfl
    rw [ledger_spawn _ _ hreply, hsame]
    exact .rests
  wire := hwire
  clients := hclients
  tasks := fun caller task htask => by
    obtain ⟨hcaller, -⟩ := List.getElem?_eq_some_iff.mp htask
    refine .inl ⟨none, ?_⟩
    rw [HostTask.hear_none, spawn, htasks, List.getElem?_append_left hcaller, htask]
  fresh := fun caller task hnone htask => by
    have hbound := List.getElem?_eq_none_iff.mp hnone
    rw [spawn, htasks, List.getElem?_append_right hbound] at htask
    obtain ⟨hplace, hsame⟩ := List.getElem?_eq_some_iff.mp htask
    have hlast : caller ≤ host.tasks.length := Nat.le_of_sub_eq_zero (Nat.lt_one_iff.mp hplace)
    refine .inl ⟨Nat.le_antisymm hlast hbound, job, hstarts, ?_⟩
    rw [← hsame, List.getElem_singleton]
  ready := by
    rw [spawn, hready]
    exact List.subset_append_left _ _

theorem asked_abort (host : Host) (caller : Caller) :
    host.Asked (.abort caller) (host.abort caller) := by
  have hrests (hsame : host.tasks.modify caller HostTask.mark = host.tasks) :
      host.Asked (.abort caller)
        (wake { host with tasks := host.tasks.modify caller .mark } caller) := by
    rw [hsame]
    have hwoken := host.heeds_wake caller
    obtain ⟨ready, hwake⟩ := host.wake_eq caller
    rw [hwake] at hwoken ⊢
    exact hwoken.asked rfl rfl rfl rfl .rests
  have hmark : host.abort caller =
      wake { host with tasks := host.tasks.modify caller .mark } caller := rfl
  cases htask : host.tasks[caller]? with
  | none =>
      rw [hmark]
      refine hrests ?_
      exact List.modify_eq_self (List.getElem?_eq_none_iff.mp htask)
  | some task =>
      obtain ⟨hcaller, -⟩ := List.getElem?_eq_some_iff.mp htask
      have hset : host.tasks.modify caller HostTask.mark = host.tasks.set caller task.mark :=
        modify_eq_set _ htask
      have hreply : task.mark.reply? = task.reply? := by
        rcases task with ⟨job, aborted⟩ | outcome
        · cases job <;> rfl
        · rfl
      have hwoken := heeds_wake { host with tasks := host.tasks.set caller task.mark } caller
      obtain ⟨ready, hwake⟩ := wake_eq { host with tasks := host.tasks.set caller task.mark } caller
      rw [hmark, hset]
      rw [hwake] at hwoken ⊢
      refine ⟨?_, rfl, rfl, fun other found hfound => ?_, fun other found hnone hfound => ?_,
        hwoken.ready⟩
      · have hledger : ledger { host with tasks := host.tasks.set caller task.mark, ready } =
            host.ledger := congrArg host.channel.ledger (replies_set htask hreply)
        rw [hledger]
        exact .rests
      · by_cases heq : caller = other
        · subst heq
          cases htask.symm.trans hfound
          exact .inr ⟨rfl, List.getElem?_set_self hcaller⟩
        · refine .inl ⟨none, ?_⟩
          rw [HostTask.hear_none]
          exact (List.getElem?_set_ne heq).trans hfound
      · have hne : caller ≠ other := by
          rintro rfl
          cases htask.symm.trans hnone
        cases (List.getElem?_set_ne hne).symm.trans hfound |>.symm.trans hnone

inductive Stepped (host : Host) : Step → Host → Prop
  | turns {eager : Bool} {caller : Caller} {job : Job} {aborted : Bool} {next : Host}
      (htask : host.tasks[caller]? = some (.working job aborted))
      (htook : host.Took caller job (host.workOf eager caller job aborted).1
        (host.workOf eager caller job aborted).2 next)
      (hyields : Yields job host.ledger next.ledger)
      (hagain : ∀ later, (host.workOf eager caller job aborted).1 = .goes later →
        caller ∈ next.ready) : Stepped host (.turn eager caller) next
  /-- There is no such task, or it is over. -/
  | idles {eager : Bool} {caller : Caller}
      (hidle : ∀ job aborted, host.tasks[caller]? ≠ some (.working job aborted)) :
      Stepped host (.turn eager caller) (host.dequeue caller)
  | asked {step : Step} {next : Host} (hstep : ∀ eager caller, step ≠ .turn eager caller)
      (hasked : host.Asked step next) : Stepped host step next

theorem yields_takeTurn (htask : host.tasks[caller]? = some (.working job aborted)) (eager : Bool) :
    Yields job host.ledger (host.takeTurn eager caller).ledger := by
  have hbefore : (host.dequeue caller).tasks[caller]? = some (.working job aborted) := htask
  have hyields : Yields job host.ledger ((host.dequeue caller).turn eager caller).1.ledger :=
    yields_turn hbefore eager
  unfold takeTurn
  rcases hresult : (host.dequeue caller).turn eager caller with ⟨after, _ | _⟩ <;>
    rw [hresult] at hyields
  · exact hyields
  · obtain ⟨ready, hwake⟩ := after.wake_eq caller
    simp only [if_true]
    rw [hwake]
    exact hyields

/-- **Every step is covered.** -/
theorem stepped_step (host : Host) (step : Step) : host.Stepped step (host.step step) := by
  cases step with
  | call request byHandle =>
      exact .asked nofun (asked_spawn rfl rfl rfl rfl rfl rfl nofun)
  | forward port =>
      have hasked : host.Asked (.forward port) (spawn
          { host with clients := host.clients ++ [.fresh] }
          (.forward host.clients.length (.create port))) :=
        asked_spawn rfl rfl rfl rfl rfl rfl nofun
      exact .asked nofun hasked
  | awaitClose => exact .asked nofun (asked_spawn rfl rfl rfl rfl rfl rfl nofun)
  | abort caller => exact .asked nofun (host.asked_abort caller)
  | turn eager caller =>
      by_cases hworking : ∃ job aborted, host.tasks[caller]? = some (.working job aborted)
      · obtain ⟨job, aborted, htask⟩ := hworking
        obtain ⟨htook, hagain⟩ := took_takeTurn eager htask
        exact .turns htask htook (yields_takeTurn htask eager) hagain
      · push Not at hworking
        rw [step, takeTurn_of_idle eager hworking]
        exact .idles hworking
  | line line change =>
      refine .asked nofun ?_
      cases line with
      | wire =>
          refine (heeds_wakeWhere { host with wire := change host.wire } _).asked rfl rfl rfl rfl ?_
          rw [ledger_wakeWhere]
          exact .rests
      | client number =>
          refine (heeds_wakeWhere
            { host with clients := host.clients.modify number change } _).asked rfl rfl rfl rfl ?_
          rw [ledger_wakeWhere]
          exact .rests
  | advance milliseconds =>
      refine .asked nofun ?_
      refine (heeds_wakeWhere { host with clock := host.clock + milliseconds } _).asked
        rfl rfl rfl rfl ?_
      rw [ledger_wakeWhere]
      exact .rests
  | silence session =>
      refine .asked nofun ((Heeds.refl _).asked rfl rfl rfl rfl ?_)
      rw [step, ledger_silence]
      exact .rests
  | stopAccepting | letGo => exact .asked nofun ((Heeds.refl _).asked rfl rfl rfl rfl .rests)
  | close =>
      refine .asked nofun ((host.heeds_settleChannel _).asked rfl rfl rfl rfl ?_)
      rw [ledger_settleChannel]
      exact Channel.works_close
  | fail code message =>
      refine .asked nofun ((host.heeds_settleChannel _).asked rfl rfl rfl rfl ?_)
      rw [ledger_settleChannel]
      exact Channel.works_fail code message

/-! ### Following a task -/

/-- A task that is at work after a turn was at work before, or it is the one that took the turn, or
a reply. -/
theorem Took.origin {other : Caller} {before : Job} {turn : Turn Job Outcome} {after : Host}
    (htook : host.Took caller before turn after next)
    (htask : next.tasks[other]? = some (.working job aborted)) :
    (∃ earlier verdict, other ≠ caller ∧ host.tasks[other]? = some (.working earlier aborted) ∧
        job = earlier.hear verdict) ∨
      (∃ later verdict, other = caller ∧ turn.next? = some later ∧ job = later.hear verdict) ∨
      host.tasks[other]? = none ∧ ∃ frame, job = .reply frame := by
  by_cases heq : other = caller
  · subst heq
    obtain ⟨verdict, hself⟩ := htook.task
    obtain ⟨later, hlater, hheard⟩ :=
      HostTask.working_of_hear (Option.some.inj (hself.symm.trans htask))
    refine .inr (.inl ⟨later, verdict, rfl, ?_, hheard⟩)
    cases turn <;> cases hlater <;> rfl
  · cases hbefore : host.tasks[other]? with
    | none =>
        obtain ⟨frame, hframe⟩ := htook.fresh other _ hbefore htask
        cases hframe
        exact .inr (.inr ⟨rfl, frame, rfl⟩)
    | some task =>
        obtain ⟨verdict, hafter⟩ := htook.others other task heq hbefore
        obtain ⟨earlier, rfl, hheard⟩ :=
          HostTask.working_of_hear (Option.some.inj (hafter.symm.trans htask))
        exact .inl ⟨earlier, verdict, heq, rfl, hheard⟩

theorem charge_workOf {eager marked : Bool} {before later : Job}
    (hnext : (host.workOf eager caller before marked).1.next? = some later) :
    later.charge = before.charge := by
  cases marked with
  | true => cases hnext
  | false => exact host.charge_stepJob eager caller before later hnext

theorem Took.charge {eager marked : Bool} {other : Caller} {before : Job}
    (htook : host.Took other before (host.workOf eager other before marked).1
      (host.workOf eager other before marked).2 next)
    (htaken : host.tasks[other]? = some (.working before marked))
    (htask : next.tasks[caller]? = some (.working job aborted)) :
    (∃ earlier marked, host.tasks[caller]? = some (.working earlier marked) ∧
        job.charge = earlier.charge) ∨
      host.tasks[caller]? = none ∧ ∃ frame, job = .reply frame := by
  obtain ⟨earlier, verdict, -, hbefore, rfl⟩ | ⟨later, verdict, rfl, hnext, rfl⟩ | hreply :=
    htook.origin htask
  · exact .inl ⟨earlier, aborted, hbefore, Job.charge_hear verdict earlier⟩
  · refine .inl ⟨before, marked, htaken, ?_⟩
    rw [Job.charge_hear]
    exact charge_workOf hnext
  · exact .inr hreply

/-- A task that is at work although nobody took a turn was at work before, or it has just been
started. -/
theorem origin_of_tasks {starts : Option Job}
    (htasks : ∀ (caller : Caller) (task : HostTask), host.tasks[caller]? = some task →
      (∃ verdict, next.tasks[caller]? = some (task.hear verdict)) ∨
        next.tasks[caller]? = some task.mark)
    (hfresh : ∀ (caller : Caller) (task : HostTask), host.tasks[caller]? = none →
      next.tasks[caller]? = some task →
        (caller = host.tasks.length ∧ ∃ job, starts = some job ∧ task = .working job false) ∨
        ∃ frame, task = .working (.reply frame) false)
    (htask : next.tasks[caller]? = some (.working job aborted)) :
    (∃ before marked verdict, host.tasks[caller]? = some (.working before marked) ∧
        job = before.hear verdict) ∨
      host.tasks[caller]? = none ∧
        (caller = host.tasks.length ∧ starts = some job ∨ ∃ frame, job = .reply frame) := by
  cases hbefore : host.tasks[caller]? with
  | none =>
      refine .inr ⟨rfl, ?_⟩
      obtain ⟨hlast, started, hstarts, heq⟩ | ⟨frame, heq⟩ := hfresh caller _ hbefore htask
      · cases heq
        exact .inl ⟨hlast, hstarts⟩
      · cases heq
        exact .inr ⟨frame, rfl⟩
  | some task =>
      left
      obtain ⟨verdict, hafter⟩ | hafter := htasks caller task hbefore
      · obtain ⟨before, rfl, hheard⟩ :=
          HostTask.working_of_hear (Option.some.inj (hafter.symm.trans htask))
        exact ⟨before, aborted, verdict, rfl, hheard⟩
      · obtain ⟨marked, rfl⟩ :=
          HostTask.working_of_mark (Option.some.inj (hafter.symm.trans htask))
        have hheard := HostTask.hear_none (.working job marked)
        exact ⟨job, marked, none, rfl, (HostTask.working.inj hheard).1.symm⟩

/-- A task has come from one with the same charge, or its job is one that the step starts, or a
reply. -/
theorem Stepped.origin {step : Step} (hstepped : host.Stepped step next)
    (htask : next.tasks[caller]? = some (.working job aborted)) :
    (∃ before marked, host.tasks[caller]? = some (.working before marked) ∧
        job.charge = before.charge) ∨
      host.tasks[caller]? = none ∧
        (caller = host.tasks.length ∧ host.starts? step = some job ∨
          ∃ frame, job = .reply frame) := by
  cases hstepped with
  | turns htaken htook hyields hagain =>
      exact (htook.charge htaken htask).imp_right (And.imp_right .inr)
  | idles hidle => exact .inl ⟨job, aborted, htask, rfl⟩
  | asked hstep hasked =>
      refine (origin_of_tasks (fun caller task hbefore => ?_) hasked.fresh htask).imp_left ?_
      · exact (hasked.tasks caller task hbefore).imp_right And.right
      · rintro ⟨before, marked, verdict, hbefore, rfl⟩
        exact ⟨before, marked, hbefore, Job.charge_hear verdict before⟩

/-- A task that takes no turn goes on with what it does, but for a verdict that it learns, and for
being told to end. -/
theorem Stepped.stays {step : Step} (hstepped : host.Stepped step next)
    (htask : host.tasks[caller]? = some (.working job aborted))
    (hstep : ∀ eager, step ≠ .turn eager caller) :
    ∃ verdict marked, next.tasks[caller]? = some (.working (job.hear verdict) marked) ∧
      (marked = aborted ∨ step = .abort caller) := by
  cases hstepped with
  | @turns eager other before marked _ htaken htook hyields hagain =>
      have hne : caller ≠ other := by
        rintro rfl
        exact hstep eager rfl
      obtain ⟨verdict, hafter⟩ := htook.others caller _ hne htask
      exact ⟨verdict, aborted, hafter, .inl rfl⟩
  | idles hidle =>
      refine ⟨none, aborted, ?_, .inl rfl⟩
      rw [← HostTask.hear_none (.working job aborted)] at htask
      exact htask
  | asked hother hasked =>
      obtain ⟨verdict, hafter⟩ | ⟨habort, hafter⟩ := hasked.tasks caller _ htask
      · exact ⟨verdict, aborted, hafter, .inl rfl⟩
      · refine ⟨none, true, ?_, .inr habort⟩
        rw [hafter, ← HostTask.hear_none (HostTask.mark _)]
        rfl

theorem Stepped.ended {step : Step} {outcome : Outcome} (hstepped : host.Stepped step next)
    (htask : host.tasks[caller]? = some (.over outcome)) :
    next.tasks[caller]? = some (.over outcome) := by
  cases hstepped with
  | @turns eager other before marked _ htaken htook hyields hagain =>
      have hne : caller ≠ other := by
        rintro rfl
        cases htask.symm.trans htaken
      exact (htook.others caller _ hne htask).elim fun _ => id
  | idles hidle => exact htask
  | asked hother hasked => exact (hasked.tasks caller _ htask).elim (·.elim fun _ => id) And.right

/-- Nobody but the task itself puts off its turn. -/
theorem Stepped.ready {step : Step} (hstepped : host.Stepped step next)
    (hready : caller ∈ host.ready) (hstep : ∀ eager, step ≠ .turn eager caller) :
    caller ∈ next.ready := by
  cases hstepped with
  | @turns eager other before marked _ htaken htook hyields hagain =>
      refine htook.ready caller hready ?_
      rintro rfl
      exact hstep eager rfl
  | @idles eager other hidle =>
      refine List.mem_filter.mpr ⟨hready, decide_eq_true ?_⟩
      rintro rfl
      exact hstep eager rfl
  | asked hother hasked => exact hasked.ready hready

/-! ### The crew -/

/-- Only the first task writes to the connection, and only the second one reads from it. -/
structure Crew (writer reader : Charge) (host : Host) : Prop where
  writes : ∀ (caller : Caller) (job : Job) (aborted : Bool),
    host.tasks[caller]? = some (.working job aborted) → job.isWriter = true →
      caller = 0 ∧ job.charge = writer
  reads : ∀ (caller : Caller) (job : Job) (aborted : Bool),
    host.tasks[caller]? = some (.working job aborted) → job.isReader = true →
      caller = 1 ∧ job.charge = reader

theorem kind_of_charge {later : Job} (hcharge : later.charge = job.charge) :
    later.isWriter = job.isWriter ∧ later.isReader = job.isReader := by
  cases later <;> cases job <;> cases hcharge <;> exact ⟨rfl, rfl⟩

/-- No step starts a task that uses the connection. -/
theorem kind_of_starts? {step : Step} (hstarts : host.starts? step = some job) :
    job.isWriter = false ∧ job.isReader = false := by
  cases step <;> cases hstarts <;> exact ⟨rfl, rfl⟩

theorem Crew.stepped {writer reader : Charge} (h : host.Crew writer reader) {step : Step}
    (hstepped : host.Stepped step next) : next.Crew writer reader := by
  have hfresh {caller : Caller} {job : Job}
      (hnew : caller = host.tasks.length ∧ host.starts? step = some job ∨
        ∃ frame, job = .reply frame) :
      job.isWriter = false ∧ job.isReader = false := by
    obtain ⟨-, hstarts⟩ | ⟨frame, rfl⟩ := hnew
    · exact kind_of_starts? hstarts
    · exact ⟨rfl, rfl⟩
  constructor
  · intro caller job aborted htask hwriter
    obtain ⟨before, marked, hbefore, hcharge⟩ | ⟨-, hnew⟩ := hstepped.origin htask
    · rw [(kind_of_charge hcharge).1] at hwriter
      rw [hcharge]
      exact h.writes caller before marked hbefore hwriter
    · cases (hfresh hnew).1.symm.trans hwriter
  · intro caller job aborted htask hreader
    obtain ⟨before, marked, hbefore, hcharge⟩ | ⟨-, hnew⟩ := hstepped.origin htask
    · rw [(kind_of_charge hcharge).2] at hreader
      rw [hcharge]
      exact h.reads caller before marked hbefore hreader
    · cases (hfresh hnew).2.symm.trans hreader

theorem Crew.run {writer reader : Charge} (h : host.Crew writer reader) (steps : List Step) :
    (steps.foldl step host).Crew writer reader := by
  induction steps generalizing host with
  | nil => exact h
  | cons step steps ih => exact ih (h.stepped (host.stepped_step step))

theorem crew_create (config : ChannelConfig) (depth : Nat) (reception : Reception)
    (writer reader : Job) (hwriter : writer.isWriter = true ∧ writer.isReader = false)
    (hreader : reader.isReader = true ∧ reader.isWriter = false) :
    (((create config depth reception).spawn writer).spawn reader).Crew writer.charge
      reader.charge := by
  constructor
  · intro caller job aborted htask hkind
    rcases caller with _ | _ | caller
    · cases htask
      exact ⟨rfl, rfl⟩
    · cases htask
      cases hkind.symm.trans hreader.2
    · cases htask
  · intro caller job aborted htask hkind
    rcases caller with _ | _ | caller
    · cases htask
      cases hkind.symm.trans hwriter.2
    · cases htask
      exact ⟨rfl, rfl⟩
    · cases htask

end Host

end SessionMux
