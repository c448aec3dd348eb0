import SessionMux.Host.News
import SessionMux.Proofs.Host.Wake

/-!
# What a closed channel lets go of

A host that serves a physical connection (`Host.Serving`): the application starts and aborts
whatever it likes, connections fare as they like, and tasks take their turns in any order, woken or
not. In every state that is reached so, everyone who is not about to take a turn rests. When the
channel is closed and no task can take a step, this leaves little that anyone can wait for: the
reader is over, and so is the writer, unless it is in the middle of a write that has to wait.
-/

namespace SessionMux.Host

/-! ### Runs -/

def dequeue (host : Host) (caller : Caller) : Host :=
  { host with ready := host.ready.filter (· ≠ caller) }

/-- A task takes a turn, and is to take another one if it can go on at once. -/
def takeTurn (host : Host) (eager : Bool) (caller : Caller) : Host :=
  let (after, goes) := (host.dequeue caller).turn eager caller
  if goes then after.wake caller else after

inductive Step
  | call (request : Request) (byHandle : Bool)
  | forward (port : UInt16)
  | awaitClose
  | abort (caller : Caller)
  | turn (eager : Bool) (caller : Caller)
  /-- Something comes in, or writes fare differently from now on. -/
  | line (line : Line) (change : Connection → Connection)
  | advance (milliseconds : Nat)
  | silence (session : UInt32)
  | stopAccepting
  | letGo
  | close
  | fail (code : ErrorCode) (message : String)

def step (host : Host) : Step → Host
  | .call request byHandle => host.startCall request byHandle
  | .forward port => host.startForward port
  | .awaitClose => host.startAwaitClose
  | .abort caller => host.abort caller
  | .turn eager caller => host.takeTurn eager caller
  | .line line change => host.onLine line change
  | .advance milliseconds => host.advance milliseconds
  | .silence session => host.silence session
  | .stopAccepting => host.stopAccepting
  | .letGo => host.letGo
  | .close => host.close.2
  | .fail code message => host.fail code message

def Serving (host : Host) : Prop :=
  ∃ (config : ChannelConfig) (reception : Reception) (steps : List Step),
    host = steps.foldl step (overStream config reception) ∨
      host = steps.foldl step (overDatagrams config reception)

/-! ### Everyone rests who is not about to take a turn -/

variable {host next last : Host} {caller : Caller} {job : Job}

theorem wakeful_create (config : ChannelConfig) (depth : Nat) (reception : Reception) :
    (create config depth reception).Wakeful :=
  ⟨Outbox.sound_create depth, fun _ _ htask => by cases htask⟩

theorem Wakeful.spawn (h : host.Wakeful) (job : Job) : (host.spawn job).Wakeful := by
  refine ⟨h.sound, fun caller task htask hready => ?_⟩
  have hold : caller ∉ host.ready := fun hmem => hready (List.mem_append_left _ hmem)
  rw [Host.spawn, List.getElem?_append] at htask
  split at htask
  · exact h.rests caller task htask hold
  · rename_i hbound
    obtain ⟨hcaller, -⟩ := List.getElem?_eq_some_iff.mp htask
    have hlast : caller = host.tasks.length :=
      Nat.le_antisymm (Nat.le_of_sub_eq_zero (Nat.lt_one_iff.mp hcaller)) (Nat.not_lt.mp hbound)
    exact absurd (List.mem_append_right _ (List.mem_singleton.mpr hlast)) hready

/-- To be about to take a turn is no reason not to rest. -/
theorem Wakeful.ready (h : host.Wakeful) {ready : List Caller} (hsubset : host.ready ⊆ ready) :
    Wakeful { host with ready } :=
  ⟨h.sound, fun caller task htask hready =>
    h.rests caller task htask fun hmem => hready (hsubset hmem)⟩

theorem Wakeful.wakeWhere (h : host.Wakeful) (chosen : Caller → Job → Bool) :
    (host.wakeWhere chosen).Wakeful := by
  have hsubset := host.subset_wakeWhere chosen
  obtain ⟨ready, hwake⟩ := host.wakeWhere_eq chosen
  rw [hwake] at hsubset ⊢
  exact h.ready hsubset

theorem Wakeful.abort (h : host.Wakeful) (caller : Caller) : (host.abort caller).Wakeful := by
  unfold Host.abort
  extract_lets mark
  have hothers : OthersRest { host with tasks := host.tasks.modify caller mark } host.channel
      caller := by
    intro other task hne htask hready
    have hsame : (host.tasks.modify caller mark)[other]? = host.tasks[other]? :=
      List.getElem?_modify_ne _ _ hne.symm
    exact h.rests other task (hsame.symm.trans htask) hready
  exact hothers.wake h.sound

theorem Wakeful.takeTurn (h : host.Wakeful) (eager : Bool) (caller : Caller) :
    (host.takeTurn eager caller).Wakeful := by
  have hothers : (host.dequeue caller).OthersRest host.channel caller := by
    intro other task hne htask hready
    refine h.rests other task htask fun hmem => hready ?_
    exact List.mem_filter.mpr ⟨hmem, decide_eq_true hne⟩
  unfold Host.takeTurn
  rcases htask : (host.dequeue caller).tasks[caller]? with _ | ⟨job, aborted⟩ | outcome
  · simp only [turn, htask]
    refine hothers.wakeful h.sound fun task hsome _ => ?_
    cases htask.symm.trans hsome
  · exact hothers.turned h.sound htask (turned_turn eager htask)
  · simp only [turn, htask]
    refine hothers.wakeful h.sound fun task hsome _ => ?_
    cases htask.symm.trans hsome
    trivial

/-- A connection that fares differently wakes all who depend on it. -/
theorem Wakeful.onLine (h : host.Wakeful) (line : Line) (change : Connection → Connection) :
    (host.onLine line change).Wakeful := by
  cases line with
  | client number =>
      have hclients : Wakeful { host with clients := host.clients.modify number change } :=
        ⟨h.sound, h.rests⟩
      exact hclients.wakeWhere _
  | wire =>
      have hwoken {caller : Caller} {job : Job} {aborted : Bool}
          (htask : host.tasks[caller]? = some (.working job aborted))
          (huses : Line.wire.isUsedBy job = true) : caller ∈ (host.onLine .wire change).ready :=
        mem_ready_wakeWhere htask huses
      have hsubset : host.ready ⊆ (host.onLine .wire change).ready :=
        subset_wakeWhere { host with wire := change host.wire } _
      obtain ⟨ready, hwake⟩ : ∃ ready, host.onLine .wire change =
          { host with wire := change host.wire, ready } :=
        wakeWhere_eq { host with wire := change host.wire } _
      rw [hwake] at hwoken hsubset ⊢
      refine ⟨h.sound, fun caller task htask hready => ?_⟩
      obtain ⟨job, aborted⟩ | outcome := task
      · obtain ⟨hgoing, hrests⟩ := h.rests caller _ htask fun hmem => hready (hsubset hmem)
        cases hwriter : job.isWriter with
        | false => exact ⟨hgoing, hrests.of_not_writer hwriter⟩
        | true =>
            have huses : Line.wire.isUsedBy job = true := by
              rw [Line.isUsedBy, hwriter, Bool.or_true]
            exact absurd (hwoken htask huses) hready
      · trivial

theorem Wakeful.step (h : host.Wakeful) (step : Step) : (host.step step).Wakeful := by
  cases step with
  | call request byHandle => exact h.spawn _
  | forward port =>
      have hclients : Wakeful { host with clients := host.clients ++ [Connection.fresh] } :=
        ⟨h.sound, h.rests⟩
      exact hclients.spawn _
  | awaitClose => exact h.spawn _
  | abort caller => exact h.abort caller
  | turn eager caller => exact h.takeTurn eager caller
  | line line change => exact h.onLine line change
  | advance milliseconds =>
      have hlater : Wakeful { host with clock := host.clock + milliseconds } := ⟨h.sound, h.rests⟩
      exact hlater.wakeWhere _
  | silence session => exact ⟨h.sound, h.rests⟩
  | stopAccepting => exact ⟨h.sound, h.rests⟩
  | letGo => exact ⟨h.sound, h.rests⟩
  | close => exact h.settleChannel fun _ => Channel.alerts_close
  | fail code message => exact h.settleChannel fun _ => Channel.alerts_fail code message

/-! ### The writer and the reader -/

/-- What becomes of the tasks of a host: they keep their kinds of job, and those that are over stay
so. Where a writer has ended, nobody takes frames out of the outbound queue. A channel that is
closed stays so. -/
structure Follows (host next : Host) : Prop where
  closed : host.channel.closed = true → next.channel.closed = true
  draining : host.channel.outbox.draining = false → next.channel.outbox.draining = false
  working : ∀ (caller : Caller) (job : Job) (aborted : Bool),
    host.tasks[caller]? = some (.working job aborted) →
      (∃ later marked, next.tasks[caller]? = some (.working later marked) ∧
        later.isWriter = job.isWriter ∧ later.isReader = job.isReader) ∨
      (∃ outcome, next.tasks[caller]? = some (.over outcome)) ∧
        (job.isWriter = true → next.channel.outbox.draining = false)
  ended : ∀ (caller : Caller) (outcome : Outcome), host.tasks[caller]? = some (.over outcome) →
    next.tasks[caller]? = some (.over outcome)

theorem Follows.of_tasks (hclosed : host.channel.closed = true → next.channel.closed = true)
    (hdraining : host.channel.outbox.draining = false → next.channel.outbox.draining = false)
    (htasks : ∀ (caller : Caller) (task : HostTask), host.tasks[caller]? = some task →
      next.tasks[caller]? = some task) : host.Follows next where
  closed := hclosed
  draining := hdraining
  working := fun caller job aborted htask =>
    .inl ⟨job, aborted, htasks caller _ htask, rfl, rfl⟩
  ended := fun caller _ htask => htasks caller _ htask

theorem Follows.refl (host : Host) : host.Follows host := .of_tasks id id fun _ _ => id

theorem Follows.trans (hfirst : host.Follows next) (hsecond : next.Follows last) :
    host.Follows last where
  closed := fun h => hsecond.closed (hfirst.closed h)
  draining := fun h => hsecond.draining (hfirst.draining h)
  working := fun caller job aborted htask => by
    obtain ⟨middle, marked, hmiddle, hwriter, hreader⟩ | ⟨⟨outcome, hover⟩, hdrained⟩ :=
      hfirst.working caller job aborted htask
    · obtain ⟨later, marked, hlater, hkind⟩ | ⟨hover, hdrained⟩ :=
        hsecond.working caller middle marked hmiddle
      · exact .inl ⟨later, marked, hlater, hkind.1.trans hwriter, hkind.2.trans hreader⟩
      · exact .inr ⟨hover, fun h => hdrained (hwriter.trans h)⟩
    · exact .inr ⟨⟨outcome, hsecond.ended caller outcome hover⟩,
        fun h => hsecond.draining (hdrained h)⟩
  ended := fun caller outcome htask =>
    hsecond.ended caller outcome (hfirst.ended caller outcome htask)

theorem kind_hear (verdict : Option Verdict) (job : Job) :
    (job.hear verdict).isWriter = job.isWriter ∧ (job.hear verdict).isReader = job.isReader := by
  unfold Job.hear
  split <;> exact ⟨rfl, rfl⟩

theorem follows_settleChannel {channel : Channel}
    (halerts : host.channel.Alerts caller channel) :
    host.Follows (host.settleChannel channel) where
  closed := fun h => by
    rw [channel_settleChannel]
    exact halerts.stays h
  draining := fun h => by
    rw [channel_settleChannel]
    exact halerts.draining h
  working := fun caller job aborted htask => by
    obtain ⟨verdict, hheard⟩ := hear_of_settleChannel htask channel
    exact .inl ⟨_, aborted, hheard, kind_hear verdict job⟩
  ended := fun _ _ htask => by
    obtain ⟨verdict, hheard⟩ := hear_of_settleChannel htask channel
    exact hheard

/-- A task goes on with a job of its kind. -/
theorem follows_set {before : Job} {aborted marked : Bool}
    (htask : host.tasks[caller]? = some (.working before aborted))
    (hkind : job.isWriter = before.isWriter ∧ job.isReader = before.isReader) :
    host.Follows { host with tasks := host.tasks.set caller (.working job marked) } := by
  obtain ⟨hcaller, -⟩ := List.getElem?_eq_some_iff.mp htask
  refine ⟨id, id, fun other found mark hother => .inl ?_, fun other outcome hother => ?_⟩
  · by_cases heq : caller = other
    · subst heq
      cases htask.symm.trans hother
      exact ⟨job, marked, List.getElem?_set_self hcaller, hkind⟩
    · exact ⟨found, mark, (List.getElem?_set_ne heq).trans hother, rfl, rfl⟩
  · refine (List.getElem?_set_ne ?_).trans hother
    rintro rfl
    cases htask.symm.trans hother

theorem follows_finish {before : Job} {aborted : Bool} {outcome : Outcome}
    (htask : host.tasks[caller]? = some (.working before aborted))
    (hkind : before.isWriter = job.isWriter) :
    host.Follows (host.finish caller job outcome) := by
  obtain ⟨hcaller, -⟩ := List.getElem?_eq_some_iff.mp htask
  have hself : (host.tasks.set caller (.over outcome))[caller]? = some (.over outcome) :=
    List.getElem?_set_self hcaller
  have hleave : Follows { host with tasks := host.tasks.set caller (.over outcome) }
      (host.finish caller job outcome) :=
    follows_settleChannel (alerts_leave host.channel caller job)
  have hdrained (hwriter : before.isWriter = true) :
      (host.finish caller job outcome).channel.outbox.draining = false := by
    rw [hkind] at hwriter
    rw [finish, channel_settleChannel]
    cases job with
    | writeStream | writeDatagrams => rfl
    | call | reply | awaitClose | readStream | readDatagrams | forward => cases hwriter
  refine ⟨hleave.closed, hleave.draining, fun other found mark hother => ?_,
    fun other result hother => ?_⟩
  · by_cases heq : caller = other
    · subst heq
      cases htask.symm.trans hother
      exact .inr ⟨⟨outcome, hleave.ended caller outcome hself⟩, hdrained⟩
    · exact hleave.working other found mark ((List.getElem?_set_ne heq).trans hother)
  · refine hleave.ended other result ((List.getElem?_set_ne ?_).trans hother)
    rintro rfl
    cases htask.symm.trans hother

theorem follows_section {turn : Turn Job Outcome} (hsection : host.Section caller job turn next) :
    host.Follows next :=
  have halerts := hsection.mindful.alerts
  .of_tasks halerts.stays halerts.draining fun _ _ htask => hsection.tasks ▸ htask

theorem follows_turned {aborted : Bool} {goes : Bool}
    (htask : host.tasks[caller]? = some (.working job aborted))
    (hturned : host.Turned caller job next goes) : host.Follows next := by
  have hsettles {after : Host} : after.Follows (after.settleChannel after.channel) :=
    follows_settleChannel (.refl _ caller)
  have hgoesOn {later : Job} {turn : Turn Job Outcome} {after : Host}
      (hsection : host.Section caller job turn after) (hnext : turn.next? = some later) :
      host.Follows (settleChannel
        { after with tasks := after.tasks.set caller (.working later false) } after.channel) := by
    have hstill : after.tasks[caller]? = some (.working job aborted) := hsection.tasks ▸ htask
    exact (follows_section hsection).trans
      ((follows_set hstill (hsection.keeps later hnext)).trans hsettles)
  cases hturned with
  | aborted => exact follows_finish htask rfl
  | waits hsection => exact hgoesOn hsection rfl
  | goes hsection => exact hgoesOn hsection rfl
  | @ends outcome after hsection =>
      have hstill : after.tasks[caller]? = some (.working job aborted) := hsection.tasks ▸ htask
      obtain ⟨verdict, hheard⟩ := hear_of_settleChannel hstill after.channel
      exact (follows_section hsection).trans
        (hsettles.trans (follows_finish hheard (kind_hear verdict job).1))

theorem follows_spawn (host : Host) (job : Job) : host.Follows (host.spawn job) :=
  .of_tasks id id fun _ _ htask => by
    obtain ⟨hcaller, -⟩ := List.getElem?_eq_some_iff.mp htask
    exact (List.getElem?_append_left hcaller).trans htask

theorem follows_wake (host : Host) (caller : Caller) : host.Follows (host.wake caller) := by
  obtain ⟨ready, hwake⟩ := host.wake_eq caller
  rw [hwake]
  exact .of_tasks id id fun _ _ => id

theorem follows_wakeWhere (host : Host) (chosen : Caller → Job → Bool) :
    host.Follows (host.wakeWhere chosen) := by
  obtain ⟨ready, hwake⟩ := host.wakeWhere_eq chosen
  rw [hwake]
  exact .of_tasks id id fun _ _ => id

theorem follows_takeTurn (host : Host) (eager : Bool) (caller : Caller) :
    host.Follows (host.takeTurn eager caller) := by
  have hbegun : host.Follows (host.dequeue caller) := .of_tasks id id fun _ _ => id
  refine hbegun.trans ?_
  unfold takeTurn
  rcases htask : (host.dequeue caller).tasks[caller]? with _ | ⟨job, aborted⟩ | outcome
  · simp only [turn, htask]
    exact .refl _
  · have hturned := follows_turned htask (turned_turn eager htask)
    rcases hresult : (host.dequeue caller).turn eager caller with ⟨after, _ | _⟩ <;>
      rw [hresult] at hturned
    · exact hturned
    · exact hturned.trans (follows_wake after caller)
  · simp only [turn, htask]
    exact .refl _

theorem follows_abort (host : Host) (caller : Caller) : host.Follows (host.abort caller) := by
  unfold abort
  extract_lets mark
  have hmarked : host.Follows { host with tasks := host.tasks.modify caller mark } := by
    have hmodify (other : Caller) : (host.tasks.modify caller mark)[other]? =
        host.tasks[other]?.map fun task => if caller = other then mark task else task :=
      List.getElem?_modify _ _ _ _
    refine ⟨id, id, fun other job aborted hother => .inl ?_, fun other outcome hother => ?_⟩
    · by_cases heq : caller = other
      · refine ⟨job, true, ?_, rfl, rfl⟩
        simp only [hmodify, hother, Option.map_some, if_pos heq, mark]
      · refine ⟨job, aborted, ?_, rfl, rfl⟩
        simp only [hmodify, hother, Option.map_some, if_neg heq]
    · simp only [hmodify, hother, Option.map_some, mark, ite_self]
  exact hmarked.trans (follows_wake _ caller)

theorem follows_close (host : Host) : host.Follows host.close.2 := by
  have halerts : host.channel.Alerts 0 host.channel.close := Channel.alerts_close
  exact follows_settleChannel halerts

theorem closed_close (host : Host) : host.close.2.channel.closed = true := by
  have hclosed : host.channel.close.register.closed = true := by
    rw [Channel.register_close, Register.close]
    split
    · assumption
    · rfl
  rw [close, channel_settleChannel]
  exact hclosed

theorem follows_step (host : Host) (step : Step) : host.Follows (host.step step) := by
  cases step with
  | call request byHandle => exact follows_spawn _ _
  | forward port =>
      have hclients : host.Follows { host with clients := host.clients ++ [Connection.fresh] } :=
        .of_tasks id id fun _ _ => id
      exact hclients.trans (follows_spawn _ _)
  | awaitClose => exact follows_spawn _ _
  | abort caller => exact follows_abort _ _
  | turn eager caller => exact follows_takeTurn _ _ _
  | line line change =>
      cases line with
      | wire =>
          have hwire : host.Follows { host with wire := change host.wire } :=
            .of_tasks id id fun _ _ => id
          exact hwire.trans (follows_wakeWhere _ _)
      | client number =>
          have hclients : host.Follows { host with clients := host.clients.modify number change } :=
            .of_tasks id id fun _ _ => id
          exact hclients.trans (follows_wakeWhere _ _)
  | advance milliseconds =>
      have hlater : host.Follows { host with clock := host.clock + milliseconds } :=
        .of_tasks id id fun _ _ => id
      exact hlater.trans (follows_wakeWhere _ _)
  | silence session => exact .of_tasks id id fun _ _ => id
  | stopAccepting => exact .of_tasks id id fun _ _ => id
  | letGo => exact .of_tasks id id fun _ _ => id
  | close => exact follows_close host
  | fail code message =>
      have halerts : host.channel.Alerts 0 (host.channel.fail code message) :=
        Channel.alerts_fail code message
      exact follows_settleChannel halerts

structure Crewed (host : Host) : Prop where
  writer : (∃ job aborted, host.tasks[0]? = some (.working job aborted) ∧ job.isWriter = true) ∨
    (∃ outcome, host.tasks[0]? = some (.over outcome)) ∧ host.channel.outbox.draining = false
  reader : (∃ job aborted, host.tasks[1]? = some (.working job aborted) ∧ job.isReader = true) ∨
    ∃ outcome, host.tasks[1]? = some (.over outcome)

theorem Crewed.follows (h : host.Crewed) (hfollows : host.Follows next) : next.Crewed where
  writer := by
    obtain ⟨job, aborted, htask, hwriter⟩ | ⟨⟨outcome, hover⟩, hdrained⟩ := h.writer
    · obtain ⟨later, marked, hlater, hkind⟩ | ⟨hover, hdrained⟩ :=
        hfollows.working 0 job aborted htask
      · exact .inl ⟨later, marked, hlater, hkind.1.trans hwriter⟩
      · exact .inr ⟨hover, hdrained hwriter⟩
    · exact .inr ⟨⟨outcome, hfollows.ended 0 outcome hover⟩, hfollows.draining hdrained⟩
  reader := by
    obtain ⟨job, aborted, htask, hreader⟩ | ⟨outcome, hover⟩ := h.reader
    · obtain ⟨later, marked, hlater, hkind⟩ | ⟨hover, -⟩ := hfollows.working 1 job aborted htask
      · exact .inl ⟨later, marked, hlater, hkind.2.trans hreader⟩
      · exact .inr hover
    · exact .inr ⟨outcome, hfollows.ended 1 outcome hover⟩

theorem wakeful_run (h : host.Wakeful) (hcrewed : host.Crewed) (steps : List Step) :
    (steps.foldl step host).Wakeful ∧ (steps.foldl step host).Crewed := by
  induction steps generalizing host with
  | nil => exact ⟨h, hcrewed⟩
  | cons step steps ih => exact ih (h.step step) (hcrewed.follows (follows_step host step))

theorem Serving.wakeful (h : host.Serving) : host.Wakeful ∧ host.Crewed := by
  obtain ⟨config, reception, steps, rfl | rfl⟩ := h
  · refine wakeful_run (((wakeful_create _ _ _).spawn _).spawn _) ⟨.inl ?_, .inl ?_⟩ steps
    · exact ⟨.writeStream .idle, false, rfl, rfl⟩
    · exact ⟨.readStream [], false, rfl, rfl⟩
  · refine wakeful_run (((wakeful_create _ _ _).spawn _).spawn _) ⟨.inl ?_, .inl ?_⟩ steps
    · exact ⟨.writeDatagrams .idle, false, rfl, rfl⟩
    · exact ⟨.readDatagrams, false, rfl, rfl⟩

/-! ### What is left when nobody can take a step -/

/-- No task can take a step: whoever is about to take a turn would only wait on. -/
def AtRest (host : Host) : Prop :=
  ∀ caller ∈ host.ready, ∀ eager, host.takeTurn eager caller = host.dequeue caller

structure LetGo (host : Host) : Prop where
  released : host.isReleased = true
  places : ∀ (caller : Caller) (job : Job) (aborted : Bool),
    host.tasks[caller]? = some (.working job aborted) → job.asksPlace = false

/-- The writer is in the middle of a write that has to wait: it flushes what is left before it shuts
the stream down, or shuts it down, or sends a datagram. -/
inductive WriterStalls (host : Host) : Prop
  | flushes {pending : Bytes} (hpending : pending ≠ [])
      (htask : host.tasks[0]? = some (.working (.writeStream (.closing pending)) false))
      (hstalls : host.wire.stall.writes = true)
  | closes (htask : host.tasks[0]? = some (.working (.writeStream (.closing [])) false))
      (hstalls : host.wire.stall.close = true)
  | sends {datagram : Bytes}
      (htask : host.tasks[0]? = some (.working (.writeDatagrams (.sending datagram)) false))
      (hstalls : host.wire.stall.writes = true)

theorem atRest_of_ready (hready : host.ready = []) : host.AtRest := by
  intro caller hmem
  rw [hready] at hmem
  cases hmem

/-- A task whose turn would only wait on has nothing to do, as one has that was not woken. -/
theorem Wakeful.rests_of_atRest (h : host.Wakeful) (hrest : host.AtRest) {task : HostTask}
    (htask : host.tasks[caller]? = some task) :
    task.Rests host.channel host.wire.stall caller := by
  by_cases hready : caller ∈ host.ready
  · have hturn := h.takeTurn false caller
    rw [hrest caller hready false] at hturn
    refine hturn.rests caller task htask fun hmem => ?_
    exact of_decide_eq_true (List.mem_filter.mp hmem).2 rfl
  · exact h.rests caller task htask hready

/-- A reader rests only while the channel is open. -/
theorem Wakeful.reader_over (h : host.Wakeful) (hcrewed : host.Crewed)
    (hclosed : host.channel.closed = true) (hrest : host.AtRest) : host.isOver 1 = true := by
  obtain ⟨job, aborted, htask, hreader⟩ | ⟨outcome, hover⟩ := hcrewed.reader
  · obtain ⟨-, hrests⟩ := h.rests_of_atRest hrest htask
    cases job with
    | readStream | readDatagrams => cases hclosed.symm.trans hrests
    | call | reply | awaitClose | writeStream | writeDatagrams | forward => cases hreader
  · rw [isOver, outcome?, hover]
    rfl

/-- A writer rests on a closed channel only in a write that has to wait. -/
theorem Wakeful.writer_stalls (h : host.Wakeful) (hclosed : host.channel.closed = true)
    (hrest : host.AtRest) {aborted : Bool}
    (htask : host.tasks[0]? = some (.working job aborted)) (hwriter : job.isWriter = true) :
    host.WriterStalls := by
  obtain ⟨rfl, hrests⟩ := h.rests_of_atRest hrest htask
  cases job with
  | writeStream writer =>
      cases writer with
      | idle | flushing => cases hclosed.symm.trans hrests
      | holding => cases hrests
      | closing pending =>
          cases pending with
          | nil => exact .closes htask hrests
          | cons => exact .flushes (List.cons_ne_nil _ _) htask hrests
  | writeDatagrams writer =>
      cases writer with
      | idle => cases hclosed.symm.trans hrests
      | holding => cases hrests
      | sending datagram => exact .sends htask hrests
  | call | reply | awaitClose | readStream | readDatagrams | forward => cases hwriter

/-- **A closed channel lets go.** When a channel with a physical connection is closed and no task
can take a step, its reader is over. The connection is released and nobody waits for a place in the
outbound queue, unless the writer is in the middle of a write that has to wait, or of shutting the
stream down: nothing ends these when the channel is closed. -/
theorem closed_lets_go (h : host.Serving) (hclosed : host.channel.closed = true)
    (hrest : host.AtRest) : host.isOver 1 = true ∧ (host.LetGo ∨ host.WriterStalls) := by
  obtain ⟨hwakeful, hcrewed⟩ := h.wakeful
  have hreader := hwakeful.reader_over hcrewed hclosed hrest
  refine ⟨hreader, ?_⟩
  obtain ⟨job, aborted, htask, hwriter⟩ | ⟨⟨outcome, hover⟩, hdrained⟩ := hcrewed.writer
  · exact .inr (hwakeful.writer_stalls hclosed hrest htask hwriter)
  · refine .inl ⟨?_, fun caller job aborted htask => ?_⟩
    · have hwriter : host.isOver 0 = true := by
        rw [isOver, outcome?, hover]
        rfl
      rw [isReleased, hwriter, hreader]
      rfl
    · cases hasks : job.asksPlace with
      | false => rfl
      | true =>
          -- Nobody stands in line for a queue from which nobody takes frames.
          obtain ⟨-, hrests⟩ := hwakeful.rests_of_atRest hrest htask
          have hwaits := hrests.mem_waiting hasks
          rw [hwakeful.sound.abandoned hdrained] at hwaits
          cases hwaits

def interruption (blocked : Bool) : List Step :=
  [.line .wire fun wire => { wire with blocked }, .turn false 1,
    .call (.openSession 80 .queue) false, .turn false 2, .turn false 0, .turn false 0, .close]

def interrupted (blocked : Bool) (later : List Step) : Host :=
  (interruption blocked ++ later).foldl step
    (overStream { (default : ChannelConfig) with maxPayload := 2 }
      { rules := [], accepting := true })

theorem closed_lets_go_interrupted :
    let now := interrupted false
      [.turn false 0, .turn false 1, .turn false 0, .turn false 0]
    now.channel.closed = true ∧ now.AtRest ∧ now.LetGo := by
  intro now
  have hclosed : now.channel.closed = true := by decide
  have hrest : now.AtRest := atRest_of_ready (by decide)
  obtain ⟨-, hletGo | hstalls⟩ := closed_lets_go ⟨_, _, _, .inl rfl⟩ hclosed hrest
  · exact ⟨hclosed, hrest, hletGo⟩
  · cases hstalls with
    | flushes _ _ hstalls | closes _ hstalls | sends _ hstalls => cases hstalls

/-- Where writes wait, the writer waits on in the middle of its write after the channel was closed,
and the connection is not released. -/
theorem closed_while_writing :
    let now := interrupted true [.turn false 0, .turn false 1, .turn false 0]
    now.Serving ∧ now.channel.closed = true ∧ now.AtRest ∧ now.isReleased = false := by
  intro now
  exact ⟨⟨_, _, _, .inl rfl⟩, by decide, atRest_of_ready (by decide), by decide⟩

end SessionMux.Host
