import Mathlib.Data.List.Induction
import Mathlib.Data.List.TakeWhile
import SessionMux.Proofs.Monitor.Workers

/-!
# The deliveries of every run

Events are published, listeners come and go, workers take their steps, and shutdowns begin and wait,
in any order; a `Hub` follows such a run. The events of a device that were accepted are those that a
worker has begun with, and then those in its queue. What a listener got of a device is what a worker
has begun with while the listener was registered, but for an event still in hand (`Hub.Orderly`). So
each listener gets the events of a device in order, none twice, and all that it should get. What
comes back from a listener makes no difference to anything but the log (`Hub.silent_run`).

A shutdown takes the workers to wait for out of the dispatcher, so only the first one waits: it
returns when all that was accepted is delivered (`Hub.Closing.hasReturned_await_iff`), but one that
begins after it returns at once, also while events are queued (`Hub.later_shutdown_returns_early`).
-/

namespace SessionMux

/-- A dispatcher in a run, with all shutdowns that have begun, the first one first, what was logged,
and the events that workers have begun with, each with the listeners registered then. -/
structure Hub where
  dispatcher : Dispatcher
  shutdowns : List Shutdown
  log : List LogRecord
  begun : List (Event × List Nat)

namespace Hub

def create (workers : Nat) (assign : String → Nat) : Hub where
  dispatcher :=
    { Dispatcher.create workers with route := fun device => assign device % max workers 1 }
  shutdowns := []
  log := []
  begun := []

inductive Move
  | publish (event : Event)
  | addListener
  | removeListener (listener : Nat)
  /-- A worker takes a step. If it hands an event to a listener, `pick` decides to which of those
  that are still to get it, and `handling` is what comes back from that listener. -/
  | work (index pick : Nat) (handling : Handling)
  | shutdown
  /-- A shutdown goes on as far as it can. -/
  | await (number : Nat)

def Move.event? : Move → Option Event
  | .publish event => some event
  | _ => none

def Move.isShutdown : Move → Bool
  | .shutdown => true
  | _ => false

/-- The events that are accepted in a run: those that are published before the first shutdown
begins. -/
def accepted (moves : List Move) : List Event :=
  (moves.takeWhile fun move => !move.isShutdown).filterMap Move.event?

def move (hub : Hub) : Move → Hub
  | .publish event => { hub with dispatcher := hub.dispatcher.publish event }
  | .addListener => { hub with dispatcher := hub.dispatcher.addListener.1 }
  | .removeListener listener =>
    { hub with dispatcher := (hub.dispatcher.removeListener listener).1 }
  | .work index pick handling =>
    match hub.dispatcher.work? index pick handling with
    | none => hub
    | some (dispatcher, logged) =>
      { hub with
        dispatcher
        log := hub.log ++ logged.toList
        begun := hub.begun ++ (hub.dispatcher.begins? index pick).toList }
  | .shutdown =>
    let (shutdown, dispatcher) := Shutdown.start hub.dispatcher
    { hub with dispatcher, shutdowns := hub.shutdowns ++ [shutdown] }
  | .await number =>
    { hub with shutdowns := hub.shutdowns.modify number (·.await hub.dispatcher) }

def begunOf (hub : Hub) (device : String) : List Event :=
  (hub.begun.map (·.1)).filter (·.device = device)

/-- The events of a device that a worker has begun with while a listener was registered. -/
def begunFor (hub : Hub) (listener : Nat) (device : String) : List Event :=
  ((hub.begun.filter (listener ∈ ·.2)).map (·.1)).filter (·.device = device)

variable {hub : Hub} {accepted : List Event}

structure Orderly (hub : Hub) (accepted : List Event) : Prop where
  routed : ∀ device, hub.dispatcher.route device < hub.dispatcher.workers.length
  served : hub.dispatcher.Served
  distinct : hub.dispatcher.listeners.Nodup
  numbered : ∀ listener ∈ hub.dispatcher.listeners, listener < hub.dispatcher.nextListener
  published : hub.dispatcher.published = accepted.length
  begun : ∀ device, hub.begunOf device ++ hub.dispatcher.queued device =
    accepted.filter (·.device = device)
  received : ∀ listener device,
    hub.dispatcher.received listener device ++ hub.dispatcher.inHand listener device =
      hub.begunFor listener device

theorem orderly_create (workers : Nat) (assign : String → Nat) :
    (create workers assign).Orderly [] := by
  have hworker {index : Nat} {worker : Worker}
      (h : (create workers assign).dispatcher.workers[index]? = some worker) :
      worker = { queue := [], current := none } :=
    List.eq_of_mem_replicate (List.mem_of_getElem? h)
  have hview {α : Type} (device : String) (look : Worker → List α)
      (hnil : look { queue := [], current := none } = []) :
      (create workers assign).dispatcher.view device look = [] := by
    unfold Dispatcher.view
    rcases hfound : (create workers assign).dispatcher.workers[
        (create workers assign).dispatcher.route device]? with _ | worker
    · rfl
    · rw [hworker hfound]
      exact hnil
  refine ⟨fun device => ?_, fun index worker h => ?_, .nil, nofun, rfl, fun device => ?_,
    fun listener device => ?_⟩
  · have hlength : (create workers assign).dispatcher.workers.length = max workers 1 :=
      List.length_replicate
    rw [hlength]
    exact Nat.mod_lt _ (by omega)
  · rw [hworker h]
    exact ⟨fun event hmem => absurd hmem List.not_mem_nil,
      fun delivery hcurrent => by cases hcurrent⟩
  · have hqueued : (create workers assign).dispatcher.queued device = [] := hview device _ rfl
    rw [hqueued]
    rfl
  · have hinHand : (create workers assign).dispatcher.inHand listener device = [] :=
      hview device _ rfl
    rw [hinHand]
    rfl

/-- Listeners and shutdowns are nothing to the workers and their events. -/
theorem Orderly.of_same (h : hub.Orderly accepted) {next : Hub}
    (hroute : next.dispatcher.route = hub.dispatcher.route)
    (hworkers : next.dispatcher.workers = hub.dispatcher.workers)
    (hdelivered : next.dispatcher.delivered = hub.dispatcher.delivered)
    (hpublished : next.dispatcher.published = hub.dispatcher.published)
    (hbegun : next.begun = hub.begun) (hdistinct : next.dispatcher.listeners.Nodup)
    (hnumbered : ∀ listener ∈ next.dispatcher.listeners,
      listener < next.dispatcher.nextListener) : next.Orderly accepted := by
  refine ⟨fun device => ?_, fun index worker hworker => ?_, hdistinct, hnumbered, ?_,
    fun device => ?_, fun listener device => ?_⟩
  · rw [hroute, hworkers]
    exact h.routed device
  · rw [hworkers] at hworker
    obtain ⟨hqueue, hcurrent⟩ := h.served index worker hworker
    exact ⟨by rwa [hroute], by rwa [hroute]⟩
  · rw [hpublished, h.published]
  · rw [← h.begun device, begunOf, begunOf, hbegun]
    simp only [Dispatcher.queued, Dispatcher.view, hroute, hworkers]
  · rw [begunFor, hbegun]
    refine Eq.trans ?_ (h.received listener device)
    simp only [Dispatcher.received, Dispatcher.inHand, Dispatcher.view, hroute, hworkers,
      hdelivered]

theorem Orderly.publish (h : hub.Orderly accepted) (event : Event) :
    (hub.move (.publish event)).Orderly
      (accepted ++ if hub.dispatcher.accepting then [event] else []) := by
  cases haccepting : hub.dispatcher.accepting with
  | false =>
      have hsame : hub.move (.publish event) = hub := by
        rw [move, Dispatcher.publish_of_not_accepting haccepting]
      rw [hsame, if_neg Bool.false_ne_true, List.append_nil]
      exact h
  | true =>
      have hpublish := Dispatcher.publish_eq haccepting event
      rw [if_pos rfl]
      refine ⟨fun device => ?_, h.served.publish haccepting event, ?_, ?_, ?_,
        fun device => ?_, fun listener device => ?_⟩
      · rw [move, hpublish]
        simpa using h.routed device
      · rw [move, hpublish]
        exact h.distinct
      · rw [move, hpublish]
        exact h.numbered
      · rw [move, hpublish, List.length_append, ← h.published]
        rfl
      · rw [List.filter_append, ← h.begun device, List.append_assoc]
        exact congrArg (hub.begunOf device ++ ·)
          (Dispatcher.queued_publish event (h.routed event.device) haccepting device)
      · refine Eq.trans ?_ (h.received listener device)
        change (hub.dispatcher.publish event).received listener device ++ _ = _
        rw [move, Dispatcher.inHand_publish, hpublish]
        rfl

theorem begunOf_concat (hub : Hub) (event : Event) (listeners : List Nat) (device : String) :
    begunOf { hub with begun := hub.begun ++ [(event, listeners)] } device =
      hub.begunOf device ++ [event].filter (·.device = device) := by
  rw [begunOf, List.map_append, List.filter_append]
  rfl

theorem begunFor_concat (hub : Hub) (event : Event) (listeners : List Nat) (listener : Nat)
    (device : String) :
    begunFor { hub with begun := hub.begun ++ [(event, listeners)] } listener device =
      hub.begunFor listener device ++
        if event.device = device ∧ listener ∈ listeners then [event] else [] := by
  rw [begunFor, List.filter_append, List.map_append, List.filter_append, ← begunFor]
  congr 1
  by_cases hlistener : listener ∈ listeners <;> by_cases hdevice : event.device = device <;>
    simp [hlistener, hdevice]

/-- A step of a worker moves an event on, from the queue into the hand or from the hand to a
listener. -/
theorem Orderly.work (h : hub.Orderly accepted) {index : Nat} {begins? : Option (Event × List Nat)}
    {dispatcher : Dispatcher} (hsteps : hub.dispatcher.Steps index begins? dispatcher)
    (log : List LogRecord) :
    Orderly { hub with dispatcher, log, begun := hub.begun ++ begins?.toList } accepted := by
  have hlength (after : Worker) (device : String) : hub.dispatcher.route device <
      (hub.dispatcher.setWorker index after).workers.length := by
    simpa [Dispatcher.setWorker] using h.routed device
  cases hsteps with
  | @hands worker event targets rest listener hworker hcurrent hperm =>
      have hserves := h.served index worker hworker
      obtain ⟨hroute, hnodup⟩ := hserves.current _ hcurrent
      have hafter : Worker.Serves { worker with current := some { event, targets := rest } }
          hub.dispatcher.route index := by
        refine ⟨hserves.queue, fun delivery hdelivery => ?_⟩
        cases hdelivery
        exact ⟨hroute, (List.nodup_cons.mp (hperm.nodup_iff.mp hnodup)).2⟩
      rw [Option.toList_none, List.append_nil]
      refine ⟨hlength _, h.served.setWorker hafter, h.distinct, h.numbered, h.published,
        fun device => ?_, fun other device => ?_⟩
      · rw [← h.begun device]
        exact congrArg (hub.begunOf device ++ ·)
          (Dispatcher.queued_setWorker hworker (by rfl) device)
      · refine Eq.trans ?_ (h.received other device)
        rw [Dispatcher.inHand_of_hands hworker hcurrent hserves hperm, ← List.append_assoc]
        exact congrArg (· ++ _) (Dispatcher.received_concat _ listener event other device)
  | @takes worker event queue hworker hidle hqueue =>
      have hserves := h.served index worker hworker
      have hafter : Worker.Serves
          { queue, current := some { event, targets := hub.dispatcher.listeners } }
          hub.dispatcher.route index := by
        refine ⟨fun later hmem => ?_, fun delivery hdelivery => ?_⟩
        · exact hserves.queue later (hqueue ▸ List.mem_cons_of_mem _ hmem)
        · cases hdelivery
          exact ⟨hserves.queue event (hqueue ▸ List.mem_cons_self), h.distinct⟩
      rw [Option.toList_some]
      refine ⟨hlength _, h.served.setWorker hafter, h.distinct, h.numbered, h.published,
        fun device => ?_, fun listener device => ?_⟩
      · refine Eq.trans ?_ (h.begun device)
        rw [Dispatcher.queued_of_takes hworker hqueue hserves hub.dispatcher.listeners,
          ← List.append_assoc]
        exact congrArg (· ++ _) (begunOf_concat hub event hub.dispatcher.listeners device)
      · refine Eq.trans ?_ (begunFor_concat hub event hub.dispatcher.listeners listener device).symm
        rw [← h.received, List.append_assoc]
        exact congrArg (hub.dispatcher.received listener device ++ ·)
          (Dispatcher.inHand_of_takes hworker hqueue hserves hidle _ listener device)

/-- **One move.** What is published is accepted, unless a shutdown has begun. -/
theorem Orderly.move (h : hub.Orderly accepted) (move : Move) :
    (hub.move move).Orderly
      (accepted ++ if hub.dispatcher.accepting then move.event?.toList else []) := by
  have hnothing (hnext : (hub.move move).Orderly accepted) (hevent : move.event? = none) :
      (hub.move move).Orderly
        (accepted ++ if hub.dispatcher.accepting then move.event?.toList else []) := by
    rwa [hevent, Option.toList_none, ite_self, List.append_nil]
  cases move with
  | publish event => exact h.publish event
  | addListener =>
      refine hnothing (h.of_same rfl rfl rfl rfl rfl ?_ (List.forall_mem_append.mpr ⟨?_, ?_⟩)) rfl
      · refine List.nodup_append.mpr ⟨h.distinct, List.nodup_singleton _, ?_⟩
        intro listener hmem other hother
        rw [List.mem_singleton.mp hother]
        exact Nat.ne_of_lt (h.numbered listener hmem)
      · exact fun listener hmem => Nat.lt_succ_of_lt (h.numbered listener hmem)
      · intro listener hmem
        rw [List.mem_singleton.mp hmem]
        exact Nat.lt_succ_self _
  | removeListener listener =>
      refine hnothing (h.of_same rfl rfl rfl rfl rfl (h.distinct.filter _) ?_) rfl
      exact fun other hmem => h.numbered other (List.mem_of_mem_filter hmem)
  | work index pick handling =>
      refine hnothing ?_ rfl
      rw [Hub.move]
      cases hwork : hub.dispatcher.work? index pick handling with
      | none => exact h
      | some worked => exact h.work (Dispatcher.steps_work? hwork) _
  | shutdown => exact hnothing (h.of_same rfl rfl rfl rfl rfl h.distinct h.numbered) rfl
  | await number => exact hnothing (h.of_same rfl rfl rfl rfl rfl h.distinct h.numbered) rfl

/-! ### Shutdowns -/

def Idle (dispatcher : Dispatcher) (index : Nat) : Prop :=
  ∀ worker, dispatcher.workers[index]? = some worker → worker.queue = [] ∧ worker.targets = []

theorem isOver_iff {dispatcher : Dispatcher} {index : Nat} :
    dispatcher.isOver index = true ↔ dispatcher.accepting = false ∧ Idle dispatcher index := by
  rw [Dispatcher.isOver, Bool.and_eq_true, Bool.not_eq_true', Option.isNone_iff_eq_none, Idle]
  refine and_congr_right fun _ => ?_
  cases hworker : dispatcher.workers[index]? with
  | none => simp [Dispatcher.work?, hworker]
  | some worker => simp [Dispatcher.work?_eq_none_iff hworker]

/-- Every event that is accepted is of some device, so nothing is left when no device has anything
left. -/
theorem Orderly.idle_iff (h : hub.Orderly accepted) :
    (∀ index < hub.dispatcher.workers.length, Idle hub.dispatcher index) ↔
      ∀ device, hub.dispatcher.queued device = [] ∧
        ∀ listener, hub.dispatcher.inHand listener device = [] := by
  refine ⟨fun hidle device => ?_, fun hleft index hindex worker hworker => ?_⟩
  · have hworker := List.getElem?_eq_getElem (h.routed device)
    obtain ⟨hqueue, htargets⟩ := hidle _ (h.routed device) _ hworker
    refine ⟨?_, Dispatcher.inHand_of_idle hworker htargets rfl⟩
    rw [Dispatcher.queued, Dispatcher.view_eq hworker rfl, hqueue]
    rfl
  · obtain ⟨hqueue, hcurrent⟩ := h.served index worker hworker
    refine ⟨List.eq_nil_iff_forall_not_mem.mpr fun event hmem => ?_,
      List.eq_nil_iff_forall_not_mem.mpr fun listener hmem => ?_⟩
    · have hqueued := (hleft event.device).1
      rw [Dispatcher.queued, Dispatcher.view_eq hworker (hqueue event hmem),
        List.filter_eq_nil_iff] at hqueued
      exact hqueued event hmem (decide_eq_true rfl)
    · obtain ⟨delivery, hdelivery, hlistener⟩ : ∃ delivery, worker.current = some delivery ∧
          listener ∈ delivery.targets := by
        rw [Worker.targets] at hmem
        cases hdelivery : worker.current with
        | none => rw [hdelivery] at hmem; cases hmem
        | some delivery => exact ⟨delivery, rfl, by rwa [hdelivery] at hmem⟩
      have hinHand := (hleft delivery.event.device).2 listener
      rw [Dispatcher.inHand, Dispatcher.view_eq hworker (hcurrent delivery hdelivery).1, hdelivery,
        Option.elim_some, if_pos ⟨rfl, hlistener⟩] at hinHand
      cases hinHand

/-- A worker whose queue is empty, and who has nothing in hand, takes no step. -/
theorem Idle.steps {dispatcher next : Dispatcher} {index other : Nat}
    {begins? : Option (Event × List Nat)} (h : Idle dispatcher other)
    (hsteps : dispatcher.Steps index begins? next) : Idle next other := by
  have hkept (after : Worker) (hne : index ≠ other) :
      Idle (dispatcher.setWorker index after) other := by
    intro worker hworker
    rw [Dispatcher.setWorker, List.getElem?_set_ne hne] at hworker
    exact h worker hworker
  cases hsteps with
  | @hands worker event targets rest listener hworker hcurrent hperm =>
      refine hkept _ fun heq => ?_
      have hidle : worker.targets = [] := (h worker (heq ▸ hworker)).2
      rw [Worker.targets, hcurrent] at hidle
      have htargets : targets = [] := hidle
      rw [htargets] at hperm
      exact absurd hperm.symm.eq_nil (List.cons_ne_nil _ _)
  | takes hworker hidle hqueue =>
      refine hkept _ fun heq => ?_
      obtain ⟨hempty, -⟩ := h _ (heq ▸ hworker)
      rw [hqueue] at hempty
      cases hempty

/-- Until a shutdown begins all workers are there to be waited for, then none. The first shutdown
has waited for all workers that it does not wait for any more, and no other one waits. -/
structure Closing (hub : Hub) : Prop where
  before : hub.dispatcher.accepting = true → hub.shutdowns = [] ∧
    hub.dispatcher.handles = List.range hub.dispatcher.workers.length
  after : hub.dispatcher.accepting = false → hub.dispatcher.handles = [] ∧
    ∃ first rest, hub.shutdowns = first :: rest ∧
      (∀ later ∈ rest, later.hasReturned = true) ∧
      ∀ index < hub.dispatcher.workers.length, index ∈ first.waiting ∨ Idle hub.dispatcher index

theorem closing_create (workers : Nat) (assign : String → Nat) :
    (create workers assign).Closing := by
  refine ⟨fun _ => ⟨rfl, ?_⟩, fun haccepting => by cases haccepting⟩
  simp [create, Dispatcher.create]

theorem Closing.of_same (h : hub.Closing) {next : Hub}
    (haccepting : next.dispatcher.accepting = hub.dispatcher.accepting)
    (hshutdowns : next.shutdowns = hub.shutdowns)
    (hhandles : next.dispatcher.handles = hub.dispatcher.handles)
    (hlength : next.dispatcher.workers.length = hub.dispatcher.workers.length)
    (hidle : next.dispatcher.accepting = false → ∀ index, Idle hub.dispatcher index →
      Idle next.dispatcher index) : next.Closing := by
  refine ⟨fun hopen => ?_, fun hclosed => ?_⟩
  · rw [hshutdowns, hhandles, hlength]
    exact h.before (haccepting ▸ hopen)
  · obtain ⟨hnone, first, rest, hfirst, hlater, hwaits⟩ := h.after (haccepting ▸ hclosed)
    refine ⟨hhandles.trans hnone, first, rest, hshutdowns.trans hfirst, hlater,
      fun index hindex => ?_⟩
    exact (hwaits index (hlength ▸ hindex)).imp_right (hidle hclosed index)

theorem Closing.publish (h : hub.Closing) (event : Event) :
    (hub.move (.publish event)).Closing := by
  cases haccepting : hub.dispatcher.accepting with
  | false =>
      have hsame : hub.move (.publish event) = hub := by
        rw [Hub.move, Dispatcher.publish_of_not_accepting haccepting]
      rwa [hsame]
  | true =>
      have hpublish := Dispatcher.publish_eq haccepting event
      refine h.of_same ?_ rfl ?_ ?_ fun hclosed => ?_
      all_goals rw [Hub.move, hpublish] at *
      · simp
      · rw [haccepting] at hclosed
        cases hclosed

theorem Closing.shutdown (h : hub.Closing) : (hub.move .shutdown).Closing := by
  refine ⟨fun hopen => absurd hopen Bool.false_ne_true, fun _ => ⟨rfl, ?_⟩⟩
  cases haccepting : hub.dispatcher.accepting with
  | true =>
      obtain ⟨hnone, hall⟩ := h.before haccepting
      refine ⟨{ waiting := hub.dispatcher.handles }, [], ?_, nofun, fun index hindex => .inl ?_⟩
      · rw [Hub.move, hnone]
        rfl
      · rw [hall, List.mem_range]
        exact hindex
  | false =>
      obtain ⟨hnone, first, rest, hfirst, hlater, hwaits⟩ := h.after haccepting
      refine ⟨first, rest ++ [{ waiting := hub.dispatcher.handles }], ?_, ?_, hwaits⟩
      · rw [Hub.move, hfirst]
        rfl
      · rw [List.forall_mem_append, List.forall_mem_singleton, hnone]
        exact ⟨hlater, rfl⟩

/-- A worker that a shutdown does not wait for any more is over. -/
theorem mem_waiting_await {shutdown : Shutdown} {dispatcher : Dispatcher} {index : Nat}
    (hmem : index ∈ shutdown.waiting) :
    index ∈ (shutdown.await dispatcher).waiting ∨ Idle dispatcher index := by
  have hsplit : shutdown.waiting.takeWhile dispatcher.isOver ++
      shutdown.waiting.dropWhile dispatcher.isOver = shutdown.waiting :=
    List.takeWhile_append_dropWhile
  rw [← hsplit, List.mem_append] at hmem
  exact hmem.symm.imp_right fun hover => (isOver_iff.mp (List.mem_takeWhile_imp hover)).2

theorem Shutdown.hasReturned_await {shutdown : Shutdown} (hreturned : shutdown.hasReturned = true)
    (dispatcher : Dispatcher) : (shutdown.await dispatcher).hasReturned = true := by
  have hnone : shutdown.waiting = [] := List.isEmpty_iff.mp hreturned
  rw [Shutdown.await, hnone]
  rfl

theorem Closing.await (h : hub.Closing) (number : Nat) : (hub.move (.await number)).Closing := by
  refine ⟨fun hopen => ?_, fun hclosed => ?_⟩
  · obtain ⟨hnone, hall⟩ := h.before hopen
    refine ⟨?_, hall⟩
    rw [Hub.move, hnone, List.modify_nil]
  · obtain ⟨hnone, first, rest, hfirst, hlater, hwaits⟩ := h.after hclosed
    refine ⟨hnone, ?_⟩
    cases number with
    | zero =>
        refine ⟨first.await hub.dispatcher, rest, ?_, hlater, fun index hindex => ?_⟩
        · rw [Hub.move, hfirst, List.modify_zero_cons]
        · exact (hwaits index hindex).elim mem_waiting_await .inr
    | succ number =>
        refine ⟨first, rest.modify number (·.await hub.dispatcher), ?_, fun later hmem => ?_,
          hwaits⟩
        · rw [Hub.move, hfirst, List.modify_succ_cons]
        · obtain ⟨other, hat⟩ := List.getElem?_of_mem hmem
          rw [List.getElem?_modify] at hat
          obtain ⟨before, hbefore, rfl⟩ := Option.map_eq_some_iff.mp hat
          have hreturned := hlater before (List.mem_of_getElem? hbefore)
          split_ifs
          · exact Shutdown.hasReturned_await hreturned hub.dispatcher
          · exact hreturned

theorem Closing.move (h : hub.Closing) (move : Move) : (hub.move move).Closing := by
  cases move with
  | publish event => exact h.publish event
  | addListener => exact h.of_same rfl rfl rfl rfl fun _ _ => id
  | removeListener listener => exact h.of_same rfl rfl rfl rfl fun _ _ => id
  | work index pick handling =>
      rw [Hub.move]
      cases hwork : hub.dispatcher.work? index pick handling with
      | none => exact h
      | some worked =>
          have hsteps := Dispatcher.steps_work? hwork
          obtain ⟨haccepting, hhandles, hlength⟩ := hsteps.same
          exact h.of_same haccepting rfl hhandles hlength fun _ _ hidle => hidle.steps hsteps
  | shutdown => exact h.shutdown
  | await number => exact h.await number

/-! ### Runs -/

def run (workers : Nat) (assign : String → Nat) (moves : List Move) : Hub :=
  moves.foldl move (create workers assign)

theorem run_concat (workers : Nat) (assign : String → Nat) (moves : List Move) (move : Move) :
    run workers assign (moves ++ [move]) = (run workers assign moves).move move :=
  List.foldl_concat ..

theorem accepted_concat (moves : List Move) (move : Move) :
    Hub.accepted (moves ++ [move]) =
      Hub.accepted moves ++ if moves.all (!·.isShutdown) then move.event?.toList else [] := by
  induction moves with
  | nil => cases move <;> rfl
  | cons first rest ih =>
      simp only [Hub.accepted] at ih ⊢
      cases hfirst : first.isShutdown with
      | true => simp [hfirst]
      | false =>
          rw [List.cons_append, List.takeWhile_cons_of_pos (by simp [hfirst]),
            List.takeWhile_cons_of_pos (by simp [hfirst]), List.filterMap_cons, List.filterMap_cons,
            ih, List.all_cons, hfirst, Bool.not_false, Bool.true_and]
          cases first.event? <;> rfl

theorem accepting_move (hub : Hub) (move : Move) :
    (hub.move move).dispatcher.accepting = (hub.dispatcher.accepting && !move.isShutdown) := by
  cases move with
  | publish event =>
      rw [Hub.move, Dispatcher.publish]
      split_ifs <;> simp [Move.isShutdown]
  | work index pick handling =>
      rw [Hub.move]
      cases hwork : hub.dispatcher.work? index pick handling with
      | none => simp [Move.isShutdown]
      | some worked => simp [Move.isShutdown, (Dispatcher.steps_work? hwork).same.1]
  | shutdown => exact (Bool.and_false _).symm
  | addListener | removeListener listener | await number => exact (Bool.and_true _).symm

/-- Both invariants hold in every run, and events are accepted until the first shutdown. -/
theorem orderly_run (workers : Nat) (assign : String → Nat) (moves : List Move) :
    (run workers assign moves).dispatcher.accepting = moves.all (!·.isShutdown) ∧
      (run workers assign moves).Orderly (Hub.accepted moves) ∧
      (run workers assign moves).Closing := by
  induction moves using List.reverseRecOn with
  | nil => exact ⟨rfl, orderly_create workers assign, closing_create workers assign⟩
  | append_singleton moves move ih =>
      obtain ⟨haccepting, horderly, hclosing⟩ := ih
      rw [run_concat, accepted_concat, ← haccepting]
      refine ⟨?_, horderly.move move, hclosing.move move⟩
      rw [accepting_move, haccepting, List.all_append, List.all_cons, List.all_nil, Bool.and_true]

/-- The first shutdown can return exactly when nothing is left, and every later one has returned
since it began. -/
theorem Closing.hasReturned_await_iff (h : hub.Closing) (horderly : hub.Orderly accepted)
    {first : Shutdown} {rest : List Shutdown} (hfirst : hub.shutdowns = first :: rest) :
    (∀ later ∈ rest, later.hasReturned = true) ∧
      ((first.await hub.dispatcher).hasReturned = true ↔
        ∀ device, hub.dispatcher.queued device = [] ∧
          ∀ listener, hub.dispatcher.inHand listener device = []) := by
  have hclosed : hub.dispatcher.accepting = false := by
    refine Bool.eq_false_iff.mpr fun hopen => ?_
    cases (h.before hopen).1.symm.trans hfirst
  obtain ⟨-, first', rest', hshutdowns, hlater, hwaits⟩ := h.after hclosed
  cases hfirst.symm.trans hshutdowns
  refine ⟨hlater, ?_⟩
  rw [← horderly.idle_iff, Shutdown.hasReturned, List.isEmpty_iff, Shutdown.await]
  refine ⟨fun hreturned index hindex => ?_, fun hidle => ?_⟩
  · have hover := List.dropWhile_eq_nil_iff.mp hreturned
    exact (hwaits index hindex).elim (fun hmem => (isOver_iff.mp (hover index hmem)).2) id
  · refine List.dropWhile_eq_nil_iff.mpr fun index _ => isOver_iff.mpr ⟨hclosed, ?_⟩
    by_cases hindex : index < hub.dispatcher.workers.length
    · exact hidle index hindex
    · intro worker hworker
      exact absurd (List.getElem?_eq_some_iff.mp hworker).1 hindex

/-! ### What comes back from listeners -/

def silent (hub : Hub) : Hub := { hub with log := [] }

def Move.unhandled : Move → Move
  | .work index pick _ => .work index pick .succeeds
  | move => move

theorem silent_move (hub : Hub) (move : Move) :
    (hub.move move).silent = (hub.silent.move move.unhandled).silent := by
  cases move with
  | work index pick handling =>
      have hisolated := hub.dispatcher.work?_isolated index pick handling
      have hsame : hub.silent.dispatcher = hub.dispatcher := rfl
      rw [Move.unhandled, Hub.move, Hub.move, hsame]
      cases hwork : hub.dispatcher.work? index pick handling with
      | none =>
          rw [hwork, Option.map_none, eq_comm, Option.map_eq_none_iff] at hisolated
          rw [hisolated]
          rfl
      | some worked =>
          obtain ⟨dispatcher, logged⟩ := worked
          rw [hwork, Option.map_some, eq_comm, Option.map_eq_some_iff] at hisolated
          obtain ⟨⟨dispatcher, other⟩, hother, rfl⟩ := hisolated
          rw [hother]
          rfl
  | publish | addListener | removeListener | shutdown | await => rfl

/-- **Isolation.** Without what is logged, a run is what it would be if no listener ever failed. -/
theorem silent_run (workers : Nat) (assign : String → Nat) (moves : List Move) :
    (run workers assign moves).silent =
      (run workers assign (moves.map Move.unhandled)).silent := by
  induction moves using List.reverseRecOn with
  | nil => rfl
  | append_singleton moves move ih =>
      have htwice : move.unhandled.unhandled = move.unhandled := by cases move <;> rfl
      have hlast := silent_move (run workers assign (moves.map Move.unhandled)) move.unhandled
      rw [htwice] at hlast
      rw [List.map_append, List.map_singleton, run_concat, run_concat, silent_move, ih, hlast]

/-- **Deliveries.** For any number of workers and any assignment of devices to them, and for every
run of publications, listeners that come and go, steps of the workers and shutdowns: the events
counted as published are those that were accepted, which is to say published before a shutdown
began. Those of a device are begun with in this order. A listener gets no event of a device twice
and none out of order, and gets all that workers have begun with while it was registered, but for an
event that a worker still has in hand. All this is the same whatever listeners do with an event. Of
the shutdowns, the first one can return exactly when workers have begun with all that was accepted
and have nothing in hand; a later one has returned as soon as it has begun. -/
theorem deliveries_orderly (workers : Nat) (assign : String → Nat) (moves : List Move) :
    let hub := run workers assign moves
    let acceptedOf (device : String) := (Hub.accepted moves).filter (·.device = device)
    hub.dispatcher.published = (Hub.accepted moves).length ∧
    (∀ device, hub.begunOf device ++ hub.dispatcher.queued device = acceptedOf device) ∧
    (∀ listener device,
      (hub.dispatcher.received listener device).Sublist (acceptedOf device) ∧
      hub.dispatcher.received listener device ++ hub.dispatcher.inHand listener device =
        hub.begunFor listener device) ∧
    (∀ others : List Move, others.map Move.unhandled = moves.map Move.unhandled →
      (run workers assign others).silent = hub.silent) ∧
    ∀ first rest, hub.shutdowns = first :: rest →
      (∀ later ∈ rest, later.hasReturned = true) ∧
      ((first.await hub.dispatcher).hasReturned = true ↔
        ∀ device, hub.dispatcher.queued device = [] ∧
          ∀ listener, hub.dispatcher.inHand listener device = []) ∧
      (first.hasReturned = true → ∀ device, hub.begunOf device = acceptedOf device ∧
        ∀ listener, hub.dispatcher.received listener device = hub.begunFor listener device) := by
  intro hub acceptedOf
  obtain ⟨-, horderly, hclosing⟩ := orderly_run workers assign moves
  have hbegun (device : String) :
      hub.begunOf device ++ hub.dispatcher.queued device = acceptedOf device :=
    horderly.begun device
  have hreceived (listener : Nat) (device : String) :
      hub.dispatcher.received listener device ++ hub.dispatcher.inHand listener device =
        hub.begunFor listener device := horderly.received listener device
  refine ⟨horderly.published, hbegun, fun listener device => ⟨?_, hreceived listener device⟩,
    fun others hsame => ?_, fun first rest hfirst => ?_⟩
  · calc (hub.dispatcher.received listener device).Sublist (hub.begunFor listener device) := by
          rw [← hreceived]
          exact List.sublist_append_left _ _
      _ |>.Sublist (hub.begunOf device) := (List.filter_sublist.map _).filter _
      _ |>.Sublist (acceptedOf device) := by
          rw [← hbegun]
          exact List.sublist_append_left _ _
  · rw [silent_run, hsame, ← silent_run]
  · obtain ⟨hlater, hdone⟩ := hclosing.hasReturned_await_iff horderly hfirst
    refine ⟨hlater, hdone, fun hreturned device => ?_⟩
    obtain ⟨hqueued, hinHand⟩ := hdone.mp (Shutdown.hasReturned_await hreturned _) device
    refine ⟨?_, fun listener => ?_⟩
    · rw [← hbegun, hqueued, List.append_nil]
    · rw [← hreceived, hinHand, List.append_nil]

/-- Two workers and two listeners, of which one panics and fails and the other is removed while an
event is in hand. A third event comes after the shutdown has begun. -/
theorem deliveries_orderly_of_shutdown :
    let event (device : String) (session : UInt32) : Event :=
      { device, stamp := default, change := .sessionClose session, errorId := default }
    let moves := [.addListener, .addListener, .publish (event "a" 1), .publish (event "bb" 2),
      .work 1 0 .succeeds, .work 1 1 (.panics "second"), .shutdown, .publish (event "a" 3),
      .await 0, .removeListener 1, .work 0 0 .succeeds, .work 0 0 (.fails "second" "refused"),
      .work 1 0 .succeeds, .await 0]
    let hub := run 2 String.length moves
    hub.shutdowns = [{ waiting := [] }] ∧ hub.dispatcher.published = 2 ∧
      hub.begunOf "a" = [event "a" 1] ∧ hub.dispatcher.received 1 "a" = [event "a" 1] ∧
      hub.dispatcher.received 1 "bb" = [] ∧ hub.dispatcher.received 2 "bb" = [event "bb" 2] := by
  intro event moves hub
  have hshutdowns : hub.shutdowns = [{ waiting := [] }] := by decide
  obtain ⟨hpublished, -, -, -, hdone⟩ := deliveries_orderly 2 String.length moves
  obtain ⟨-, -, hreturned⟩ := hdone _ _ hshutdowns
  obtain ⟨hbegun, hreceived⟩ := hreturned rfl "a"
  have hreceived' := (hreturned rfl "bb").2
  refine ⟨hshutdowns, hpublished, ?_, ?_, ?_, ?_⟩
  · exact hbegun.trans (by decide)
  · exact (hreceived 1).trans (by decide)
  · exact (hreceived' 1).trans (by decide)
  · exact (hreceived' 2).trans (by decide)

/-- A shutdown that begins while another one waits finds no worker to wait for: it returns with the
only event still queued. -/
theorem later_shutdown_returns_early :
    let event : Event :=
      { device := "a", stamp := default, change := .sessionClose 1, errorId := default }
    let hub := run 1 String.length [.addListener, .publish event, .shutdown, .shutdown]
    hub.shutdowns = [{ waiting := [0] }, { waiting := [] }] ∧
      hub.shutdowns.map Shutdown.hasReturned = [false, true] ∧
      hub.dispatcher.queued "a" = [event] ∧ hub.begunOf "a" = [] ∧
      hub.dispatcher.received 1 "a" = [] := by
  decide

end Hub

end SessionMux
