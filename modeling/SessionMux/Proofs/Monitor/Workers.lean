import Mathlib.Data.List.Nodup
import Mathlib.Data.List.Perm.Basic
import SessionMux.Monitor.Dispatch

/-!
# Workers and their events

What a worker can do in a step is said once (`Dispatcher.Steps`): it hands the event in hand to one
of the listeners that are still to get it, or takes the next event off its queue. The rest is about
one device: its events in the queue of its worker, the event in hand, and what a listener got, and
what a step and a publication do to each of them.
-/

namespace SessionMux

theorem rotateLeft_perm {α : Type} (values : List α) (count : Nat) :
    (values.rotateLeft count).Perm values := by
  rw [List.rotateLeft]
  split
  · exact .refl _
  · refine List.perm_append_comm.trans (.of_eq ?_)
    exact List.take_append_drop _ _

namespace Worker

structure Serves (worker : Worker) (route : String → Nat) (index : Nat) : Prop where
  queue : ∀ event ∈ worker.queue, route event.device = index
  current : ∀ delivery, worker.current = some delivery →
    route delivery.event.device = index ∧ delivery.targets.Nodup

def targets (worker : Worker) : List Nat := worker.current.elim [] (·.targets)

theorem hand?_eq_some {worker after : Worker} {pick listener : Nat} {event : Event}
    (hhand : worker.hand? pick = some (listener, event, after)) :
    ∃ targets rest, worker.current = some { event, targets } ∧ targets.Perm (listener :: rest) ∧
      after = { worker with current := some { event, targets := rest } } := by
  rw [hand?.eq_def] at hhand
  split at hhand
  · cases hhand
  · rename_i event targets hcurrent
    split at hhand
    · cases hhand
    · rename_i rest hrotated
      cases hhand
      exact ⟨targets, rest, hcurrent, hrotated ▸ (rotateLeft_perm targets pick).symm, rfl⟩

theorem hand?_eq_none_iff {worker : Worker} (pick : Nat) :
    worker.hand? pick = none ↔ worker.targets = [] := by
  rw [hand?.eq_def, targets]
  cases hcurrent : worker.current with
  | none => simp
  | some delivery =>
      have hperm := rotateLeft_perm delivery.targets pick
      simp only [Option.elim_some]
      split
      · rename_i hnil
        rw [hnil] at hperm
        simp [hperm.nil_eq.symm]
      · rename_i listener rest hcons
        rw [hcons] at hperm
        refine ⟨nofun, fun hnil => ?_⟩
        rw [hnil] at hperm
        exact absurd hperm.eq_nil (List.cons_ne_nil _ _)

end Worker

namespace Dispatcher

variable {dispatcher next : Dispatcher} {index pick : Nat}

/-- What a worker does in one step. `begun` is what it begins with, an event and the listeners that
are to get it, if it does begin with one. -/
inductive Steps (dispatcher : Dispatcher) (index : Nat) :
    Option (Event × List Nat) → Dispatcher → Prop
  | hands {worker : Worker} {event : Event} {targets rest : List Nat} {listener : Nat}
      (hworker : dispatcher.workers[index]? = some worker)
      (hcurrent : worker.current = some { event, targets })
      (hperm : targets.Perm (listener :: rest)) :
      Steps dispatcher index none
        { dispatcher.setWorker index { worker with current := some { event, targets := rest } } with
          delivered := dispatcher.delivered ++ [(listener, event)] }
  | takes {worker : Worker} {event : Event} {queue : List Event}
      (hworker : dispatcher.workers[index]? = some worker) (hidle : worker.targets = [])
      (hqueue : worker.queue = event :: queue) :
      Steps dispatcher index (some (event, dispatcher.listeners))
        (dispatcher.setWorker index
          { queue, current := some { event, targets := dispatcher.listeners } })

/-- Nobody is kept from publishing or waiting by a step of a worker. -/
theorem Steps.same {begins? : Option (Event × List Nat)}
    (hsteps : dispatcher.Steps index begins? next) :
    next.accepting = dispatcher.accepting ∧ next.handles = dispatcher.handles ∧
      next.workers.length = dispatcher.workers.length := by
  cases hsteps <;> exact ⟨rfl, rfl, List.length_set⟩

def begins? (dispatcher : Dispatcher) (index pick : Nat) : Option (Event × List Nat) :=
  dispatcher.workers[index]?.bind fun worker =>
    match worker.hand? pick with
    | some _ => none
    | none => worker.queue.head?.map (·, dispatcher.listeners)

theorem steps_work? {handling : Handling} {logged : Option LogRecord}
    (hwork : dispatcher.work? index pick handling = some (next, logged)) :
    dispatcher.Steps index (dispatcher.begins? index pick) next := by
  rw [work?] at hwork
  obtain ⟨worker, hworker, hwork⟩ := Option.bind_eq_some_iff.mp hwork
  rw [begins?, hworker, Option.bind_some]
  cases hhand : worker.hand? pick with
  | some handed =>
      obtain ⟨listener, event, after⟩ := handed
      rw [hhand] at hwork
      obtain ⟨targets, rest, hcurrent, hperm, rfl⟩ := Worker.hand?_eq_some hhand
      cases handling <;> cases hwork <;> exact .hands hworker hcurrent hperm
  | none =>
      rw [hhand] at hwork
      obtain ⟨after, hnext, heq⟩ := Option.map_eq_some_iff.mp hwork
      cases heq
      rw [Worker.next?.eq_def] at hnext
      split at hnext
      · cases hnext
      · rename_i event queue hqueue
        cases hnext
        rw [hqueue]
        exact .takes hworker ((Worker.hand?_eq_none_iff pick).mp hhand) hqueue

/-- What comes back from a listener changes nothing but what is logged. -/
theorem work?_isolated (dispatcher : Dispatcher) (index pick : Nat) (handling : Handling) :
    (dispatcher.work? index pick handling).map (·.1) =
      (dispatcher.work? index pick .succeeds).map (·.1) := by
  rw [work?, work?]
  cases dispatcher.workers[index]? with
  | none => rfl
  | some worker =>
      simp only [Option.bind_eq_bind, Option.bind_some]
      split
      · cases handling <;> rfl
      · rfl

/-- A worker has nothing to do when its queue is empty and nobody is still to get an event. -/
theorem work?_eq_none_iff {worker : Worker} {handling : Handling}
    (hworker : dispatcher.workers[index]? = some worker) :
    dispatcher.work? index pick handling = none ↔ worker.queue = [] ∧ worker.targets = [] := by
  rw [work?, hworker, ← Worker.hand?_eq_none_iff pick]
  simp only [Option.bind_eq_bind, Option.bind_some]
  cases hhand : worker.hand? pick with
  | some handed => cases handling <;> simp
  | none => cases hqueue : worker.queue <;> simp [Worker.next?, hqueue]

/-! ### What concerns a device -/

def view {α : Type} (dispatcher : Dispatcher) (device : String) (look : Worker → List α) : List α :=
  dispatcher.workers[dispatcher.route device]?.elim [] look

def queued (dispatcher : Dispatcher) (device : String) : List Event :=
  dispatcher.view device fun worker => worker.queue.filter (·.device = device)

def inHand (dispatcher : Dispatcher) (listener : Nat) (device : String) : List Event :=
  dispatcher.view device fun worker =>
    worker.current.elim [] fun delivery =>
      if delivery.event.device = device ∧ listener ∈ delivery.targets then [delivery.event] else []

def received (dispatcher : Dispatcher) (listener : Nat) (device : String) : List Event :=
  (dispatcher.delivered.filter fun (other, event) =>
    other = listener ∧ event.device = device).map (·.2)

theorem received_concat (dispatcher : Dispatcher) (listener : Nat) (event : Event) (other : Nat)
    (device : String) :
    received { dispatcher with delivered := dispatcher.delivered ++ [(listener, event)] } other
      device = dispatcher.received other device ++
        if listener = other ∧ event.device = device then [event] else [] := by
  simp only [received, List.filter_append, List.map_append, List.filter_singleton]
  congr 1
  by_cases h : listener = other ∧ event.device = device <;> simp [h]

def Served (dispatcher : Dispatcher) : Prop :=
  ∀ (index : Nat) (worker : Worker), dispatcher.workers[index]? = some worker →
    worker.Serves dispatcher.route index

theorem view_set {α : Type} {worker : Worker} (hworker : dispatcher.workers[index]? = some worker)
    (after : Worker) (device : String) (look : Worker → List α) :
    (dispatcher.setWorker index after).view device look =
      if dispatcher.route device = index then look after else dispatcher.view device look := by
  obtain ⟨hindex, -⟩ := List.getElem?_eq_some_iff.mp hworker
  simp only [view, setWorker]
  split_ifs with hroute
  · rw [hroute, List.getElem?_set_self hindex]
    rfl
  · rw [List.getElem?_set_ne (Ne.symm hroute)]

theorem view_eq {α : Type} {worker : Worker} (hworker : dispatcher.workers[index]? = some worker)
    {device : String} (hroute : dispatcher.route device = index) (look : Worker → List α) :
    dispatcher.view device look = look worker := by
  rw [view, hroute, hworker]
  rfl

theorem inHand_of_idle {worker : Worker} (hworker : dispatcher.workers[index]? = some worker)
    (hidle : worker.targets = []) {device : String} (hroute : dispatcher.route device = index)
    (listener : Nat) : dispatcher.inHand listener device = [] := by
  rw [inHand, view_eq hworker hroute]
  cases hcurrent : worker.current with
  | none => rfl
  | some delivery =>
      rw [Worker.targets, hcurrent, Option.elim_some] at hidle
      simp [hidle]

theorem queued_setWorker {worker after : Worker}
    (hworker : dispatcher.workers[index]? = some worker) (hqueue : after.queue = worker.queue)
    (device : String) :
    (dispatcher.setWorker index after).queued device = dispatcher.queued device := by
  rw [queued, queued, view_set hworker]
  split_ifs with hsame
  · rw [view_eq hworker hsame, hqueue]
  · rfl

theorem Served.setWorker (h : dispatcher.Served) {after : Worker}
    (hafter : after.Serves dispatcher.route index) : (dispatcher.setWorker index after).Served := by
  intro other worker hworker
  by_cases hsame : index = other
  · subst hsame
    obtain ⟨hindex, -⟩ := List.getElem?_eq_some_iff.mp hworker
    rw [Dispatcher.setWorker, List.getElem?_set_self (by simpa [Dispatcher.setWorker] using hindex)]
      at hworker
    cases hworker
    exact hafter
  · rw [Dispatcher.setWorker, List.getElem?_set_ne hsame] at hworker
    exact h other worker hworker

section Hands

variable {worker : Worker} {event : Event} {targets rest : List Nat} {listener : Nat}
  (hworker : dispatcher.workers[index]? = some worker)
  (hcurrent : worker.current = some { event, targets })
  (hserves : worker.Serves dispatcher.route index)
  (hperm : targets.Perm (listener :: rest))
include hworker hcurrent hserves hperm

/-- Of all that listeners are still to get, the one that was chosen has got its event. -/
theorem inHand_of_hands (other : Nat) (device : String) :
    dispatcher.inHand other device =
      (if listener = other ∧ event.device = device then [event] else []) ++
        (dispatcher.setWorker index
          { worker with current := some { event, targets := rest } }).inHand other device := by
  obtain ⟨hroute, hnodup⟩ := hserves.current _ hcurrent
  have hdistinct : listener ∉ rest := (List.nodup_cons.mp (hperm.nodup_iff.mp hnodup)).1
  rw [inHand, inHand, view_set hworker]
  by_cases hsame : dispatcher.route device = index
  · rw [if_pos hsame, view_eq hworker hsame, hcurrent]
    simp only [Option.elim_some, hperm.mem_iff, List.mem_cons]
    by_cases hother : listener = other
    · subst hother
      simp [hdistinct]
    · simp [hother, Ne.symm hother]
  · have hdevice : event.device ≠ device := fun heq => hsame (heq ▸ hroute)
    rw [if_neg hsame, if_neg fun h => hdevice h.2, List.nil_append]

end Hands

section Takes

variable {worker : Worker} {event : Event} {queue : List Event}
  (hworker : dispatcher.workers[index]? = some worker) (hqueue : worker.queue = event :: queue)
  (hserves : worker.Serves dispatcher.route index)
include hworker hqueue hserves

omit hworker in
theorem device_of_takes {device : String} (hroute : dispatcher.route device ≠ index) :
    event.device ≠ device := by
  intro heq
  exact hroute (heq ▸ hserves.queue event (hqueue ▸ List.mem_cons_self))

theorem queued_of_takes (listeners : List Nat) (device : String) :
    dispatcher.queued device = [event].filter (·.device = device) ++
      (dispatcher.setWorker index
        { queue, current := some { event, targets := listeners } }).queued device := by
  rw [queued, queued, view_set hworker]
  split_ifs with hsame
  · rw [view_eq hworker hsame, hqueue, ← List.filter_append]
    rfl
  · have hdevice := device_of_takes hqueue hserves hsame
    rw [List.filter_singleton, decide_eq_false hdevice, cond_false, List.nil_append]

/-- The listeners registered when the worker takes an event are still to get it. -/
theorem inHand_of_takes (hidle : worker.targets = []) (listeners : List Nat) (listener : Nat)
    (device : String) :
    (dispatcher.setWorker index
      { queue, current := some { event, targets := listeners } }).inHand listener device =
        dispatcher.inHand listener device ++
          if event.device = device ∧ listener ∈ listeners then [event] else [] := by
  by_cases hsame : dispatcher.route device = index
  · rw [inHand_of_idle hworker hidle hsame, inHand, view_set hworker, if_pos hsame]
    rfl
  · have hdevice := device_of_takes hqueue hserves hsame
    rw [inHand, view_set hworker, if_neg hsame, if_neg fun h => hdevice h.1, List.append_nil]
    rfl

end Takes

section Publish

theorem publish_eq (haccepting : dispatcher.accepting = true) (event : Event) :
    dispatcher.publish event = { dispatcher with
      workers := dispatcher.workers.modify (dispatcher.route event.device) fun worker =>
        { worker with queue := worker.queue ++ [event] }
      published := dispatcher.published + 1 } := by
  rw [publish, if_pos haccepting]

theorem publish_of_not_accepting (haccepting : dispatcher.accepting = false) (event : Event) :
    dispatcher.publish event = dispatcher := by
  rw [publish, haccepting, if_neg Bool.false_ne_true]

theorem Served.publish (h : dispatcher.Served) (haccepting : dispatcher.accepting = true)
    (event : Event) : (dispatcher.publish event).Served := by
  intro index worker hworker
  rw [publish_eq haccepting] at hworker ⊢
  simp only [List.getElem?_modify] at hworker
  obtain ⟨before, hbefore, rfl⟩ := Option.map_eq_some_iff.mp hworker
  obtain ⟨hqueue, hcurrent⟩ := h index before hbefore
  split_ifs with hroute
  · refine ⟨List.forall_mem_append.mpr ⟨hqueue, ?_⟩, hcurrent⟩
    simpa using hroute
  · exact ⟨hqueue, hcurrent⟩

variable (event : Event) (hrouted : dispatcher.route event.device < dispatcher.workers.length)

theorem view_publish (haccepting : dispatcher.accepting = true) {α : Type} (device : String)
    (look : Worker → List α) :
    (dispatcher.publish event).view device look =
      dispatcher.view device fun worker =>
        look (if dispatcher.route event.device = dispatcher.route device then
          { worker with queue := worker.queue ++ [event] } else worker) := by
  rw [publish_eq haccepting]
  simp only [view, List.getElem?_modify]
  cases dispatcher.workers[dispatcher.route device]? with
  | none => rfl
  | some worker => split_ifs <;> rfl

include hrouted in
theorem queued_publish (haccepting : dispatcher.accepting = true) (device : String) :
    (dispatcher.publish event).queued device =
      dispatcher.queued device ++ [event].filter (·.device = device) := by
  rw [queued, view_publish event haccepting, queued]
  by_cases hsame : dispatcher.route event.device = dispatcher.route device
  · have hworker := List.getElem?_eq_getElem (hsame ▸ hrouted)
    rw [view_eq hworker rfl, view_eq hworker rfl, if_pos hsame, List.filter_append]
  · have hdevice : event.device ≠ device := fun heq => hsame (congrArg dispatcher.route heq)
    simp only [if_neg hsame]
    rw [List.filter_singleton, decide_eq_false hdevice, cond_false, List.append_nil]

theorem inHand_publish (listener : Nat) (device : String) :
    (dispatcher.publish event).inHand listener device = dispatcher.inHand listener device := by
  cases haccepting : dispatcher.accepting with
  | false => rw [publish_of_not_accepting haccepting]
  | true =>
      rw [inHand, view_publish event haccepting, inHand]
      congr 1
      funext worker
      split_ifs <;> rfl

end Publish

end Dispatcher

end SessionMux
