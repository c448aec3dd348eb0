import SessionMux.Proofs.Channel.Spared
import SessionMux.Proofs.Host.Course

/-!
# Everything that can happen to a host

A channel that has no connection of its own is served by hand: somebody passes it frames of the
peer and takes frames out of its queue. With the steps of a host these are all `Host.Event`s. In an
event a task takes its turn, or nobody sends anything (`Host.happened_happen`). Endpoints are only
ever added, each with the side that opened its session (`Host.grows_happen`).
-/

namespace SessionMux

theorem Register.Grows.congr {register next last : Register} (h : register.Grows next)
    (horigins : last.origins = next.origins) (hnext : last.nextSession = next.nextSession) :
    register.Grows last := by
  cases h with
  | rests hkept hsame => exact .rests (horigins.trans hkept) (hnext.trans hsame)
  | exhausts hkept hlater => exact .exhausts (horigins.trans hkept) (hnext.trans hlater)
  | opens hlater hparity hafter hadded =>
      exact .opens hlater hparity (hnext.trans hafter) (horigins.trans hadded)
  | admits hsame hadded => exact .admits (hnext.trans hsame) (horigins.trans hadded)

theorem Register.Grows.of_eq {register next : Register} (heq : next = register) :
    register.Grows next := by
  rw [heq]
  exact .refl register

theorem Register.Grows.nextSession_le {register next : Register} (h : register.Grows next) :
    register.nextSession ≤ next.nextSession := by
  cases h with
  | rests horigins hsame => exact Nat.le_of_eq hsame.symm
  | exhausts horigins hnext => exact hnext ▸ le_max_left _ _
  | opens hnext hparity hafter horigins => exact hafter ▸ Nat.le_add_right_of_le hnext
  | admits hsame horigins => exact Nat.le_of_eq hsame.symm

theorem Register.Grows.prefix_origins {register next : Register} (h : register.Grows next) :
    register.origins <+: next.origins := by
  cases h with
  | rests horigins | exhausts horigins => exact horigins ▸ List.prefix_rfl
  | opens _ _ _ horigins | admits _ horigins => exact horigins ▸ List.prefix_append _ _

namespace Host

inductive Event
  | step (step : Step)
  | hear (frame : Frame) (admission : Admission)
  | take
  | abandon

def happen (host : Host) : Event → Host
  | .step step => host.step step
  | .hear frame admission => host.hear frame admission
  | .take => (host.takeFrames 1).2
  | .abandon => host.abandonOutbox

namespace Event

def starts? (host : Host) : Event → Option Job
  | .step given => host.starts? given
  | .hear .. | .take | .abandon => none

def changeClients (clients : List Connection) : Event → List Connection
  | .step given => given.changeClients clients
  | .hear .. | .take | .abandon => clients

end Event

variable {host next : Host} {caller : Caller} {job : Job} {event : Event}

structure Lets (host : Host) (event : Event) (next : Host) : Prop where
  ledger : ∃ deeds, host.ledger.Runs deeds next.ledger ∧ ∀ deed ∈ deeds, deed.sendsOn? = none
  clients : next.clients = event.changeClients host.clients
  tasks : ∀ (caller : Caller) (task : HostTask), host.tasks[caller]? = some task →
    (∃ verdict, next.tasks[caller]? = some (task.hear verdict)) ∨
      next.tasks[caller]? = some task.mark
  fresh : ∀ (caller : Caller) (task : HostTask), host.tasks[caller]? = none →
    next.tasks[caller]? = some task →
      (caller = host.tasks.length ∧ ∃ job, event.starts? host = some job ∧
        task = .working job false) ∨
      ∃ frame, task = .working (.reply frame) false

theorem Asked.lets {step : Step} (h : host.Asked step next) : host.Lets (.step step) next where
  ledger := by
    refine ⟨_, (Ledger.Does.works h.ledger).runs, fun deed hmem => ?_⟩
    rw [List.mem_singleton.mp hmem]
    rfl
  clients := h.clients
  tasks := fun caller task htask => (h.tasks caller task htask).imp_right And.right
  fresh := h.fresh

theorem Heeds.lets (h : host.Heeds next)
    (hclients : event.changeClients host.clients = host.clients) {deeds : List Deed}
    (hruns : host.ledger.Runs deeds next.ledger)
    (hdeeds : ∀ deed ∈ deeds, deed.sendsOn? = none) : host.Lets event next where
  ledger := ⟨deeds, hruns, hdeeds⟩
  clients := h.clients.trans hclients.symm
  tasks := fun caller task htask => .inl (h.tasks caller task htask)
  fresh := fun caller task hnone htask => .inr (h.fresh caller task hnone htask)

inductive Happened (host : Host) : Event → Host → Prop
  | turns {eager : Bool} {caller : Caller} {job : Job} {aborted : Bool} {next : Host}
      (htask : host.tasks[caller]? = some (.working job aborted))
      (htook : host.Took caller job (host.workOf eager caller job aborted).1
        (host.workOf eager caller job aborted).2 next)
      (hyields : Yields job host.ledger next.ledger) :
      Happened host (.step (.turn eager caller)) next
  | lets {event : Event} {next : Host} (hlets : host.Lets event next) : Happened host event next

theorem happened_happen (host : Host) (event : Event) :
    host.Happened event (host.happen event) := by
  have hsingle {deed : Deed} {last : Ledger} (hdoes : host.ledger.Does deed last)
      (hdeed : deed.sendsOn? = none) :
      host.ledger.Runs [deed] last ∧ ∀ other ∈ [deed], other.sendsOn? = none := by
    refine ⟨hdoes.runs, fun other hmem => ?_⟩
    rw [List.mem_singleton.mp hmem]
    exact hdeed
  cases event with
  | step step =>
      have hstepped := host.stepped_step step
      generalize hnext : host.step step = next at hstepped
      rw [happen, hnext]
      cases hstepped with
      | @turns eager caller job aborted _ htask htook hyields hagain =>
          exact .turns htask htook hyields
      | @idles eager caller hidle =>
          have hsame : (host.dequeue caller).ledger = host.ledger := rfl
          refine .lets ⟨⟨[], hsame ▸ .nil _, List.forall_mem_nil _⟩, rfl,
            fun other task htask => .inl ⟨none, ?_⟩, fun other task hnone htask => ?_⟩
          · rw [HostTask.hear_none]
            exact htask
          · cases hnone.symm.trans htask
      | asked hother hasked => exact .lets hasked.lets
  | hear frame admission =>
      obtain ⟨hruns, hdeeds⟩ := hsingle (.hears (host.receives_hear frame admission)) rfl
      exact .lets ((host.heeds_settleChannel _).lets rfl hruns hdeeds)
  | take =>
      rw [happen, takeFrames]
      split
      · exact .lets ((Heeds.refl host).lets rfl (.nil _) (List.forall_mem_nil _))
      · rename_i frame channel htake
        obtain ⟨hframes, hrest⟩ := ledger_takeFrame htake
        have hdoes : host.ledger.Does (.takes frame) (host.settleChannel channel).ledger := by
          rw [hrest]
          exact .takes hframes
        obtain ⟨hruns, hdeeds⟩ := hsingle hdoes rfl
        exact .lets ((host.heeds_settleChannel channel).lets rfl hruns hdeeds)
  | abandon =>
      have hdoes : host.ledger.Does .abandons host.abandonOutbox.ledger := by
        rw [abandonOutbox, ledger_settleChannel, Channel.ledger_abandonOutbox]
        exact .abandons
      obtain ⟨hruns, hdeeds⟩ := hsingle hdoes rfl
      exact .lets ((host.heeds_settleChannel _).lets rfl hruns hdeeds)

theorem Happened.runs (h : host.Happened event next) :
    ∃ deeds, host.ledger.Runs deeds next.ledger := by
  cases h with
  | turns htask htook hyields =>
      obtain ⟨deeds, hruns, -⟩ := hyields
      exact ⟨deeds, hruns⟩
  | lets hlets =>
      obtain ⟨deeds, hruns, -⟩ := hlets.ledger
      exact ⟨deeds, hruns⟩

theorem Happened.extends (h : host.Happened event next) : host.ledger.Extends next.ledger := by
  obtain ⟨deeds, hruns⟩ := h.runs
  exact hruns.extends

theorem Happened.closed (h : host.Happened event next) (hclosed : host.channel.closed = true) :
    next.channel.closed = true := by
  obtain ⟨deeds, hruns⟩ := h.runs
  exact hruns.preserves (motive := fun ledger => ledger.closed = true)
    (fun _ _ _ _ hdoes hbefore => (hdoes.of_closed hbefore).1) hclosed

theorem Happened.dataless (h : host.Happened event next) (hdata : host.ledger.Dataless) :
    next.ledger.Dataless := by
  obtain ⟨deeds, hruns⟩ := h.runs
  exact hruns.preserves (fun _ _ _ _ hdoes => hdoes.dataless) hdata

/-- A task learns something at most, or is told to end, unless it takes its turn. -/
theorem Happened.task_or_turn {task : HostTask} (h : host.Happened event next)
    (htask : host.tasks[caller]? = some task) :
    ((∃ verdict, next.tasks[caller]? = some (task.hear verdict)) ∨
        next.tasks[caller]? = some task.mark) ∨
      ∃ eager job aborted, event = .step (.turn eager caller) ∧ task = .working job aborted ∧
        host.Took caller job (host.workOf eager caller job aborted).1
          (host.workOf eager caller job aborted).2 next := by
  cases h with
  | @turns eager taker job aborted _ htaken htook hyields =>
      by_cases hne : caller = taker
      · subst hne
        exact .inr ⟨eager, job, aborted, rfl, Option.some.inj (htask.symm.trans htaken), htook⟩
      · exact .inl (.inl (htook.others caller task hne htask))
  | lets hlets => exact .inl (hlets.tasks caller task htask)

/-- A task has come from one with the same charge, or its job is one that the event starts, or a
reply. -/
theorem Happened.charge {aborted : Bool} (h : host.Happened event next)
    (htask : next.tasks[caller]? = some (.working job aborted)) :
    (∃ before marked, host.tasks[caller]? = some (.working before marked) ∧
        job.charge = before.charge) ∨
      host.tasks[caller]? = none ∧
        (caller = host.tasks.length ∧ event.starts? host = some job ∨
          ∃ frame, job = .reply frame) := by
  cases h with
  | turns htaken htook hyields => exact (htook.charge htaken htask).imp_right (And.imp_right .inr)
  | lets hlets =>
      refine (origin_of_tasks hlets.tasks hlets.fresh htask).imp_left ?_
      rintro ⟨before, marked, verdict, hbefore, rfl⟩
      exact ⟨before, marked, hbefore, Job.charge_hear verdict before⟩

/-! ### Who opened which session -/

theorem grows_workOf (host : Host) (eager : Bool) (caller : Caller) (job : Job) (aborted : Bool) :
    host.register.Grows (host.workOf eager caller job aborted).2.register := by
  cases aborted with
  | true => exact .refl _
  | false =>
      by_cases hreply : ∃ frame, job = .reply frame
      · obtain ⟨frame, rfl⟩ := hreply
        have hreserved := host.channel.register_reserve caller
        have hfilled (channel : Channel) :
            (channel.fill caller frame).register = channel.register := Channel.register_fill _ _
        simp only [workOf, stepJob, stepReply, Bool.false_eq_true, if_false]
        split <;> rename_i hreserve <;> rw [hreserve] at hreserved
        · exact .of_eq hreserved
        · exact .of_eq hreserved
        · exact .of_eq ((hfilled _).trans hreserved)
      · push Not at hreply
        exact (host.serves_stepJob eager caller job hreply).register

/-- The sessions after a turn are those after its section of work. -/
theorem Took.origins {turn : Turn Job Outcome} {after : Host}
    (htook : host.Took caller job turn after next) :
    next.register.origins = after.register.origins ∧
      next.register.nextSession = after.register.nextSession := by
  have hleft : (leftBy caller job turn after.channel).register = after.register := by
    unfold leftBy
    split
    · exact register_leave _ _ _
    · rfl
    · rfl
  rw [← hleft, register, htook.channel]
  exact ⟨rfl, rfl⟩

theorem grows_settleChannel (host : Host) {channel : Channel}
    (h : host.register.Grows channel.register) :
    host.register.Grows (host.settleChannel channel).register := by
  refine h.congr ?_ ?_ <;> rw [register, channel_settleChannel] <;> rfl

theorem grows_takeTurn (eager : Bool) (caller : Caller) :
    host.register.Grows (host.takeTurn eager caller).register := by
  by_cases hworking : ∃ job aborted, host.tasks[caller]? = some (.working job aborted)
  · obtain ⟨job, aborted, htask⟩ := hworking
    obtain ⟨horigins, hnext⟩ := (took_takeTurn eager htask).1.origins
    exact (host.grows_workOf eager caller job aborted).congr horigins hnext
  · push Not at hworking
    rw [takeTurn_of_idle eager hworking]
    exact .refl _

theorem grows_of_channel (hchannel : next.channel = host.channel) :
    host.register.Grows next.register := by
  rw [register, register, hchannel]
  exact .refl _

theorem grows_step (host : Host) (step : Step) : host.register.Grows (host.step step).register := by
  cases step with
  | call | forward | awaitClose | stopAccepting | letGo => exact .refl _
  | abort caller =>
      obtain ⟨ready, hwake⟩ := wake_eq { host with tasks := host.tasks.modify caller .mark } caller
      have hchannel := congrArg Host.channel hwake
      exact grows_of_channel hchannel
  | turn eager caller => exact grows_takeTurn eager caller
  | line line change =>
      cases line <;> exact grows_of_channel (channel_wakeWhere _ _)
  | advance milliseconds => exact grows_of_channel (channel_wakeWhere _ _)
  | silence session =>
      rw [Host.step, register_silence]
      exact .refl _
  | close => exact host.grows_settleChannel Channel.Works.close.register
  | fail code message => exact host.grows_settleChannel (Channel.Works.fail code message).register

theorem grows_happen (host : Host) (event : Event) :
    host.register.Grows (host.happen event).register := by
  cases event with
  | step step => exact host.grows_step step
  | hear frame admission =>
      exact host.grows_settleChannel (host.channel.grows_receive frame admission)
  | take =>
      rw [happen, takeFrames]
      split
      · exact .refl _
      · rename_i frame channel htake
        exact host.grows_settleChannel (.of_eq (Channel.register_takeFrame? htake))
  | abandon => exact host.grows_settleChannel (.of_eq Channel.register_abandonOutbox)

end Host

end SessionMux
