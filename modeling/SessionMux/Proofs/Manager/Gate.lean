import SessionMux.Proofs.Channel.Sessions
import SessionMux.Proofs.Manager.Effect

/-!
# The gates of a manager

Calls for one device take turns at a gate, which the first of them makes and the last one has
forgotten. `Manager.Gated` is the invariant: who stands at a gate, who has the turn there, and above
all that every call holds on to the very gate that the manager knows for its device. For a gate is
forgotten by a call only if the manager and this call are the only ones who hold on to it. So two
calls for one device never stand at different gates, and one of them dials at most
(`Gated.dialling_unique`).
-/

namespace SessionMux

def ConnectStage.place? : ConnectStage → Option Nat
  | .queued gate | .dialling gate _ => some gate
  | .leaving .. | .over _ | .dropped => none

theorem ConnectStage.gate?_of_place? {stage : ConnectStage} {gate : Nat}
    (hplace : stage.place? = some gate) : stage.gate? = some gate := by
  cases stage with
  | queued | dialling => exact hplace
  | _ => cases hplace

theorem one_lt_countP {α : Type} {p : α → Bool} {values : List α} {first second : Nat}
    {value other : α} (hlt : first < second) (hfirst : values[first]? = some value)
    (hsecond : values[second]? = some other) (hvalue : p value = true) (hother : p other = true) :
    1 < values.countP p := by
  have hfront : 0 < (values.take second).countP p := by
    refine List.countP_pos_iff.mpr ⟨value, List.mem_of_getElem? (i := first) ?_, hvalue⟩
    rw [List.getElem?_take_of_lt hlt, hfirst]
  have hrear : 0 < (values.drop second).countP p := by
    refine List.countP_pos_iff.mpr ⟨other, List.mem_of_getElem? (i := 0) ?_, hother⟩
    rw [List.getElem?_drop, Nat.add_zero, hsecond]
  rw [← List.take_append_drop second values, List.countP_append]
  omega

theorem of_getElem?_concat {α : Type} {values : List α} {value found : α} {place : Nat}
    (hfound : (values ++ [value])[place]? = some found) :
    values[place]? = some found ∨ place = values.length ∧ found = value := by
  rw [List.getElem?_append] at hfound
  split at hfound
  · exact .inl hfound
  · rename_i hbound
    obtain ⟨hlast, -⟩ := List.getElem?_eq_some_iff.mp hfound
    rw [List.length_singleton] at hlast
    have heq : place = values.length := by omega
    subst heq
    rw [Nat.sub_self] at hfound
    exact .inr ⟨rfl, (Option.some.inj hfound).symm⟩

namespace Manager

variable {manager next : Manager} {number gate : Nat} {call : ConnectCall} {stage : ConnectStage}

def queue (manager : Manager) (gate : Nat) : List Nat := manager.gates.getD gate []

theorem hasTurn_iff : manager.hasTurn number gate = true ↔
    (manager.queue gate).head? = some number := by
  unfold hasTurn queue
  rw [decide_eq_true_iff, List.getD_eq_getElem?_getD]
  cases manager.gates[gate]? <;> rfl

/-! ### The parts of a move -/

theorem call?_setCall_self (hcall : manager.calls[number]? = some call) (stage : ConnectStage) :
    (manager.setCall number stage).calls[number]? = some { call with stage } := by
  rw [setCall, List.getElem?_modify_eq, hcall]
  rfl

theorem call?_setCall_ne {other : Nat} (hne : other ≠ number) (stage : ConnectStage) :
    (manager.setCall number stage).calls[other]? = manager.calls[other]? :=
  List.getElem?_modify_ne _ _ hne.symm

/-- When a call goes on and does not dial, whoever dials has dialled before. -/
theorem dialling_of_goes {other place dial : Nat} {found : ConnectCall}
    (hstage : ∀ gate dial, stage ≠ .dialling gate dial)
    (hcalls : next.calls = (manager.setCall number stage).calls)
    (hfound : next.calls[other]? = some found) (hdialling : found.stage = .dialling place dial) :
    manager.calls[other]? = some found := by
  rw [hcalls] at hfound
  by_cases heq : other = number
  · subst heq
    rw [setCall, List.getElem?_modify_eq] at hfound
    obtain ⟨before, -, rfl⟩ := Option.map_eq_some_iff.mp hfound
    exact absurd hdialling (hstage place dial)
  · rw [call?_setCall_ne heq] at hfound
    exact hfound

theorem dialling_of_addCall {other place dial : Nat} {found : ConnectCall}
    (hstage : ∀ gate dial, call.stage ≠ .dialling gate dial)
    (hcalls : next.calls = (manager.addCall call).calls)
    (hfound : next.calls[other]? = some found) (hdialling : found.stage = .dialling place dial) :
    manager.calls[other]? = some found := by
  rw [hcalls] at hfound
  obtain hold | ⟨-, rfl⟩ := of_getElem?_concat hfound
  · exact hold
  · exact absurd hdialling (hstage place dial)

theorem queue_stepAside (other : Nat) : (manager.stepAside number gate stage).queue other =
    if gate = other then (manager.queue other).filter (· ≠ number) else manager.queue other := by
  simp only [queue, stepAside, List.getD_eq_getElem?_getD, List.getElem?_modify]
  cases manager.gates[other]? with
  | none => simp
  | some queue => by_cases heq : gate = other <;> simp [heq]

theorem mem_queue_stepAside {other place : Nat} (hne : other ≠ number) :
    other ∈ (manager.stepAside number gate stage).queue place ↔ other ∈ manager.queue place := by
  rw [queue_stepAside]
  split
  · rw [List.mem_filter, decide_eq_true_iff]
    exact and_iff_left hne
  · rfl

/-- Whoever has the turn keeps it when somebody else steps aside. -/
theorem head?_stepAside {other place : Nat} (hne : other ≠ number)
    (hfirst : (manager.queue place).head? = some other) :
    ((manager.stepAside number gate stage).queue place).head? = some other := by
  rw [queue_stepAside]
  split
  · obtain ⟨rest, hqueue⟩ := List.head?_eq_some_iff.mp hfirst
    rw [hqueue, List.filter_cons_of_pos (by simpa using hne), List.head?_cons]
  · exact hfirst

theorem queue_modify_append (hmade : gate < manager.gates.length)
    (hgates : next.gates = manager.gates.modify gate (· ++ [number])) (place : Nat) :
    next.queue place =
      if gate = place then manager.queue place ++ [number] else manager.queue place := by
  simp only [queue, hgates, List.getD_eq_getElem?_getD, List.getElem?_modify]
  by_cases heq : gate = place
  · subst heq
    simp [hmade]
  · simp [heq]

theorem queue_append_singleton (hgates : next.gates = manager.gates ++ [[number]]) (place : Nat) :
    next.queue place =
      if manager.gates.length = place then manager.queue place ++ [number]
      else manager.queue place := by
  simp only [queue, hgates, List.getD_eq_getElem?_getD]
  by_cases heq : manager.gates.length = place
  · subst heq
    simp
  · rw [if_neg heq, List.getElem?_append]
    split
    · rfl
    · have hlong : manager.gates.length < place := by omega
      rw [List.getElem?_eq_none (Nat.le_of_lt hlong), List.getElem?_eq_none]
      rw [List.length_singleton]
      omega

/-! ### The invariant -/

/-- A call stands at the gate it waits at, has the turn when it dials, and holds on to the gate that
the manager knows for its device. -/
structure Stands (manager : Manager) (number : Nat) (call : ConnectCall) : Prop where
  place : ∀ gate, number ∈ manager.queue gate ↔ call.stage.place? = some gate
  first : ∀ gate dial, call.stage = .dialling gate dial →
    (manager.queue gate).head? = some number
  held : ∀ gate, call.stage.gate? = some gate →
    manager.dialling.lookup call.device = some gate

structure Gated (manager : Manager) : Prop where
  stands : ∀ number call, manager.calls[number]? = some call → manager.Stands number call
  known : ∀ number gate, number ∈ manager.queue gate → number < manager.calls.length
  fresh : ∀ device gate, (device, gate) ∈ manager.dialling → gate < manager.gates.length

theorem gated_create (config : ManagerConfig) (reception : Reception) :
    (create config reception).Gated where
  stands := by
    intro number call hcall
    cases hcall
  known := by
    intro number gate hmem
    cases hmem
  fresh := by
    intro device gate hmem
    cases hmem

theorem Gated.of_same (h : manager.Gated) (hcalls : next.calls = manager.calls)
    (hgates : next.gates = manager.gates) (hdialling : next.dialling = manager.dialling) :
    next.Gated := by
  have hqueue (gate : Nat) : next.queue gate = manager.queue gate := by rw [queue, hgates, queue]
  refine ⟨fun number call hcall => ?_, fun number gate hmem => ?_, fun device gate hmem => ?_⟩
  · rw [hcalls] at hcall
    have hstands := h.stands number call hcall
    refine ⟨fun gate => ?_, fun gate dial hstage => ?_, fun gate hgate => ?_⟩
    · rw [hqueue]
      exact hstands.place gate
    · rw [hqueue]
      exact hstands.first gate dial hstage
    · rw [hdialling]
      exact hstands.held gate hgate
  · rw [hqueue] at hmem
    rw [hcalls]
    exact h.known number gate hmem
  · rw [hdialling] at hmem
    rw [hgates]
    exact h.fresh device gate hmem

/-- One call goes on to another stage, and the others stand as they did. -/
theorem Gated.goes (h : manager.Gated)
    (hcalls : next.calls = (manager.setCall number stage).calls)
    (hself : ∀ call, manager.calls[number]? = some call →
      next.Stands number { call with stage })
    (hothers : ∀ other call, other ≠ number → manager.calls[other]? = some call →
      manager.Stands other call → next.Stands other call)
    (hqueue : ∀ other gate, other ∈ next.queue gate → other ∈ manager.queue gate)
    (hgates : next.gates.length = manager.gates.length)
    (hdialling : next.dialling ⊆ manager.dialling) : next.Gated where
  stands := by
    intro other later hlater
    rw [hcalls] at hlater
    by_cases heq : other = number
    · subst heq
      rw [setCall, List.getElem?_modify_eq] at hlater
      obtain ⟨call, hcall, rfl⟩ := Option.map_eq_some_iff.mp hlater
      exact hself call hcall
    · rw [call?_setCall_ne heq] at hlater
      exact hothers other later heq hlater (h.stands other later hlater)
  known := by
    intro other gate hmem
    rw [hcalls, setCall, List.length_modify]
    exact h.known other gate (hqueue other gate hmem)
  fresh := by
    intro device gate hmem
    rw [hgates]
    exact h.fresh device gate (hdialling hmem)

/-! ### What a move preserves -/

theorem Gated.dial (h : manager.Gated) (hcall : manager.calls[number]? = some call)
    (hstage : call.stage = .queued gate) (hturn : manager.hasTurn number gate = true) :
    (manager.dial number gate call).Gated := by
  refine h.goes rfl (fun found hfound => ?_) (fun other found _ _ hstands => ?_)
    (fun _ _ => id) rfl (List.Subset.refl _)
  · cases hcall.symm.trans hfound
    have hstands := h.stands number call hcall
    rw [hasTurn_iff] at hturn
    have hplace := hstands.place
    have hheld := hstands.held
    rw [hstage] at hplace hheld
    refine ⟨hplace, fun other dial hdialling => ?_, hheld⟩
    cases hdialling
    exact hturn
  · exact ⟨hstands.place, hstands.first, hstands.held⟩

/-- Whoever steps aside stands nowhere any more, but may still hold on to the gate. -/
theorem Stands.stepsAside (h : manager.Stands number call)
    (hplace : call.stage.place? = some gate) (hnone : stage.place? = none)
    (hholds : ∀ other, stage.gate? = some other → other = gate) :
    (manager.stepAside number gate stage).Stands number { call with stage } := by
  refine ⟨fun place => ?_, fun place dial hdialling => ?_, fun place hgate => ?_⟩
  · rw [hnone, queue_stepAside]
    refine iff_of_false (fun hmem => ?_) (fun h => by cases h)
    split at hmem
    · have hne := (List.mem_filter.mp hmem).2
      simp at hne
    · rename_i hne
      have hother := (h.place place).mp hmem
      exact hne (Option.some.inj (hplace.symm.trans hother))
  · have hdials : stage = .dialling place dial := hdialling
    rw [hdials] at hnone
    cases hnone
  · rw [hholds place hgate]
    exact h.held gate (ConnectStage.gate?_of_place? hplace)

theorem Gated.stepAside (h : manager.Gated) (hcall : manager.calls[number]? = some call)
    (hplace : call.stage.place? = some gate) (hnone : stage.place? = none)
    (hholds : ∀ other, stage.gate? = some other → other = gate) :
    (manager.stepAside number gate stage).Gated := by
  have hgates : (manager.stepAside number gate stage).gates.length = manager.gates.length := by
    rw [Manager.stepAside, List.length_modify]
  refine h.goes rfl (fun found hfound => ?_) (fun other found hne hfound hstands => ?_)
    (fun other place hmem => ?_) hgates (List.Subset.refl _)
  · cases hcall.symm.trans hfound
    exact (h.stands number call hcall).stepsAside hplace hnone hholds
  · refine ⟨fun place => ?_, fun place dial hdialling => ?_, hstands.held⟩
    · exact (mem_queue_stepAside hne).trans (hstands.place place)
    · exact head?_stepAside hne (hstands.first place dial hdialling)
  · rw [queue_stepAside] at hmem
    split at hmem
    · exact (List.mem_filter.mp hmem).1
    · exact hmem

/-- **A gate is forgotten only when nobody else holds on to it**: one more call, and there would be
three. -/
theorem Gated.lookup_leaveGate (h : manager.Gated) {result : Except ManagerError Nat}
    (hcall : manager.calls[number]? = some call) (hgate : call.stage.gate? = some gate)
    {other place : Nat} {found : ConnectCall} (hne : other ≠ number)
    (hfound : manager.calls[other]? = some found) (hplace : found.stage.gate? = some place) :
    (manager.leaveGate number gate call result).dialling.lookup found.device = some place := by
  have hheld := (h.stands other found hfound).held place hplace
  rw [leaveGate]
  split
  · rename_i htwo
    refine lookup_filter_ne_entry hheld fun heq => ?_
    obtain ⟨hdevice, rfl⟩ := Prod.mk.inj heq
    have hcalls : 1 < manager.calls.countP (·.stage.gate? = some place) := by
      rcases Nat.lt_or_gt_of_ne hne with hlt | hgt
      · exact one_lt_countP hlt hfound hcall (decide_eq_true hplace) (decide_eq_true hgate)
      · exact one_lt_countP hgt hcall hfound (decide_eq_true hgate) (decide_eq_true hplace)
    have hentry : 0 < manager.dialling.countP (·.2 = place) :=
      List.countP_pos_iff.mpr ⟨_, mem_of_lookup hheld, decide_eq_true rfl⟩
    rw [holders] at htwo
    omega
  · exact hheld

theorem Gated.leaveGate (h : manager.Gated) {result : Except ManagerError Nat}
    (hcall : manager.calls[number]? = some call) (hstage : call.stage = .leaving gate result) :
    (manager.leaveGate number gate call result).Gated := by
  have hgate : call.stage.gate? = some gate := by
    rw [hstage]
    rfl
  refine h.goes rfl (fun found hfound => ?_) (fun other found hne hfound hstands => ?_)
    (fun _ _ => id) rfl ?_
  · cases hcall.symm.trans hfound
    have hplace := (h.stands number call hcall).place
    rw [hstage] at hplace
    refine ⟨hplace, fun place dial hdialling => ?_, fun place hover => ?_⟩
    · cases hdialling
    · cases hover
  · exact ⟨hstands.place, hstands.first,
      fun place hplace => h.lookup_leaveGate hcall hgate hne hfound hplace⟩
  · rw [Manager.leaveGate]
    split
    · exact List.filter_subset_self _
    · exact List.Subset.refl _

/-- Whoever stands in a queue stands there on when somebody else joins it. -/
theorem Stands.joined (h : manager.Stands number call) {newcomer : Nat} (hne : number ≠ newcomer)
    (hqueue : ∀ place, next.queue place =
      if gate = place then manager.queue place ++ [newcomer] else manager.queue place)
    (hheld : ∀ place, manager.dialling.lookup call.device = some place →
      next.dialling.lookup call.device = some place) : next.Stands number call := by
  refine ⟨fun place => ?_, fun place dial hdials => ?_,
    fun place hplace => hheld place (h.held place hplace)⟩
  · rw [hqueue, ← h.place]
    split
    · rw [List.mem_append, List.mem_singleton]
      exact or_iff_left hne
    · rfl
  · obtain ⟨rest, hrest⟩ := List.head?_eq_some_iff.mp (h.first place dial hdials)
    rw [hqueue, hrest]
    split <;> rfl

/-- A new call stands at the end of a queue. -/
theorem Gated.joins (h : manager.Gated) (hqueued : call.stage = .queued gate)
    (hcalls : next.calls = manager.calls ++ [call])
    (hqueue : ∀ place, next.queue place =
      if gate = place then manager.queue place ++ [manager.calls.length] else manager.queue place)
    (hself : next.dialling.lookup call.device = some gate)
    (hothers : ∀ (found : ConnectCall) place,
      manager.dialling.lookup found.device = some place →
        next.dialling.lookup found.device = some place)
    (hfresh : ∀ device place, (device, place) ∈ next.dialling → place < next.gates.length) :
    next.Gated := by
  have hnew (place : Nat) : manager.calls.length ∉ manager.queue place := fun hmem =>
    Nat.lt_irrefl _ (h.known _ place hmem)
  refine ⟨fun other found hfound => ?_, fun other place hmem => ?_, hfresh⟩
  · rw [hcalls] at hfound
    obtain hold | ⟨rfl, rfl⟩ := of_getElem?_concat hfound
    · have hne : other ≠ manager.calls.length :=
        Nat.ne_of_lt (List.getElem?_eq_some_iff.mp hold).1
      exact (h.stands other found hold).joined hne hqueue (hothers found)
    · refine ⟨fun place => ?_, fun place dial hdials => ?_, fun place hplace => ?_⟩
      · rw [hqueue, hqueued]
        split
        · rename_i heq
          exact iff_of_true (List.mem_append_right _ List.mem_cons_self) (congrArg some heq)
        · rename_i hne
          exact iff_of_false (hnew place) fun heq => hne (Option.some.inj heq)
      · rw [hqueued] at hdials
        cases hdials
      · rw [hqueued] at hplace
        cases hplace
        exact hself
  · rw [hqueue] at hmem
    rw [hcalls, List.length_append, List.length_singleton]
    split at hmem
    · obtain hold | hlast := List.mem_append.mp hmem
      · exact Nat.lt_succ_of_lt (h.known other place hold)
      · rw [List.mem_singleton.mp hlast]
        exact Nat.lt_succ_self _
    · exact Nat.lt_succ_of_lt (h.known other place hmem)

theorem Gated.enqueue (h : manager.Gated) (address : SocketAddress) (transport : Transport) :
    (manager.enqueue address transport).Gated := by
  unfold Manager.enqueue
  extract_lets device number
  split
  · rename_i gate hgate
    have hmade : gate < manager.gates.length := h.fresh device gate (mem_of_lookup hgate)
    refine h.joins rfl rfl (queue_modify_append hmade rfl) hgate (fun _ _ => id)
      fun other place hmem => ?_
    rw [List.length_modify]
    exact h.fresh other place hmem
  · rename_i hnone
    refine h.joins rfl rfl (queue_append_singleton rfl) ?_ (fun found place hplace => ?_)
      fun other place hmem => ?_
    · exact List.lookup_cons_self
    · rw [lookup_cons, if_neg]
      · exact hplace
      · intro heq
        rw [heq] at hplace
        cases hnone.symm.trans hplace
    · rw [List.length_append, List.length_singleton]
      obtain heq | hold := List.mem_cons.mp hmem
      · cases heq
        exact Nat.lt_succ_self _
      · exact Nat.lt_succ_of_lt (h.fresh other place hold)

theorem Gated.connect (h : manager.Gated) (address : SocketAddress) (transport : Transport) :
    (manager.connect address transport).Gated := by
  unfold Manager.connect
  split
  · refine ⟨fun other found hfound => ?_, fun other place hmem => ?_, h.fresh⟩
    · obtain hold | ⟨rfl, rfl⟩ := of_getElem?_concat hfound
      · have hstands := h.stands other found hold
        exact ⟨hstands.place, hstands.first, hstands.held⟩
      · refine ⟨fun place => iff_of_false (fun hmem => ?_) (fun h => by cases h),
          fun place dial hdials => ?_, fun place hplace => ?_⟩
        · exact Nat.lt_irrefl _ (h.known _ place hmem)
        · cases hdials
        · cases hplace
    · change other < (manager.calls ++ [_]).length
      rw [List.length_append, List.length_singleton]
      exact Nat.lt_succ_of_lt (h.known other place hmem)
  · exact h.enqueue address transport

/-! ### Runs -/

theorem Gated.effect (h : manager.Gated) {move : Move} (heffect : manager.Effect move next) :
    next.Gated := by
  have hengine (dial : Nat) (change : Engine Backoff Unit → Engine Backoff Unit) :
      (manager.onEngine dial change).Gated := by
    obtain ⟨events, heq⟩ := manager.onEngine_eq dial change
    rw [heq]
    exact h.of_same rfl rfl rfl
  cases heffect with
  | rests hsame => exact h.of_same hsame.calls hsame.gates hsame.dialling
  | @channel number step =>
      obtain ⟨events, heq⟩ := manager.onHost_eq number (·.step step)
      rw [heq]
      exact h.of_same rfl rfl rfl
  | works => exact hengine _ _
  | connects => exact h.connect _ _
  | enqueues => exact h.enqueue _ _
  | dials hcall hstage hturn => exact h.dial hcall hstage hturn
  | finds hcall hstage =>
      refine h.stepAside hcall (by rw [hstage]; rfl) rfl fun other hgate => ?_
      cases hgate
      rfl
  | @fails _ _ _ dial _ _ change hcall hstage =>
      rw [← calls_onEngine manager dial change] at hcall
      refine (hengine dial change).stepAside hcall (by rw [hstage]; rfl) rfl fun other hgate => ?_
      cases hgate
      rfl
  | @establishes _ _ _ dial call change hcall hstage =>
      rw [← calls_onEngine manager dial change] at hcall
      have hadded : ((manager.onEngine dial change).addChannel call.device call.transport
          (some call.transport)).Gated := (hengine dial change).of_same rfl rfl rfl
      refine hadded.stepAside hcall (by rw [hstage]; rfl) rfl fun other hgate => ?_
      cases hgate
      rfl
  | leaves hcall hstage => exact h.leaveGate hcall hstage
  | drops hcall hstage =>
      refine h.stepAside hcall (by rw [hstage]; rfl) rfl fun other hgate => ?_
      cases hgate
  | @dropsDial _ _ dial _ hcall hstage =>
      rw [← calls_onEngine manager dial Engine.abandonWait] at hcall
      refine (hengine dial _).stepAside hcall (by rw [hstage]; rfl) rfl fun other hgate => ?_
      cases hgate
  | registers => exact h.of_same rfl rfl rfl
  | forgets => exact h.of_same rfl rfl rfl
  | @redials number managed =>
      have hforgot : (manager.unwatch number managed).Gated := h.of_same rfl rfl rfl
      exact hforgot.connect _ _
  | closes =>
      obtain ⟨events, heq⟩ := manager.closeAll_eq
      rw [heq]
      exact h.of_same rfl rfl rfl

theorem Gated.move (h : manager.Gated) (move : Move) : (manager.move move).Gated :=
  h.effect (manager.effect_move move)

theorem Gated.run (h : manager.Gated) (moves : List Move) :
    (moves.foldl Manager.move manager).Gated := by
  induction moves generalizing manager with
  | nil => exact h
  | cons move moves ih => exact ih (h.move move)

/-! ### Who has the turn -/

/-- **Two calls that dial one device are the same call**: they hold on to the same gate, and both
have the turn there. -/
theorem Gated.dialling_unique (h : manager.Gated) {first second gate place dial engine : Nat}
    {call other : ConnectCall} (hcall : manager.calls[first]? = some call)
    (hother : manager.calls[second]? = some other) (hdials : call.stage = .dialling gate dial)
    (hagain : other.stage = .dialling place engine) (hdevice : call.device = other.device) :
    first = second := by
  have hstands := h.stands first call hcall
  have hstood := h.stands second other hother
  have hgate := hstands.held gate (by rw [hdials]; rfl)
  have hplace := hstood.held place (by rw [hagain]; rfl)
  rw [hdevice, hplace, Option.some.injEq] at hgate
  rw [hgate] at hagain
  have hfirst := hstands.first gate dial hdials
  rw [hstood.first gate engine hagain] at hfirst
  exact (Option.some.inj hfirst).symm

end Manager

end SessionMux
