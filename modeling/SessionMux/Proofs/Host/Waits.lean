import SessionMux.Proofs.Host.Effect

/-!
# Callers who wait for an acknowledgement

At every moment a channel knows each caller who waits and has no verdict yet, under the session
whose close the caller waits for, and it knows nobody under two sessions. So a wait ends with an
acknowledgement of this very session, with the end of the channel, when its own time is up, or when
somebody aborts it; or else because another caller has closed a session with the same id in the
meantime, one that the peer has opened again, and waits in its place.
-/

namespace SessionMux

theorem HostTask.awaited?_of_isOpen {task : HostTask} (hopen : task.IsOpen) :
    ∃ id, task.awaited? = some id := by
  obtain ⟨request, id, deadline, aborted, rfl⟩ | ⟨hclosed, -⟩ := task.isOpen_or
  · exact ⟨id, rfl⟩
  · exact absurd hopen hclosed

theorem HostTask.not_isOpen_hear (verdict : Verdict) (task : HostTask) :
    ¬ (task.hear (some verdict)).IsOpen := by
  obtain ⟨request, session, deadline, aborted, rfl⟩ | ⟨hclosed, hhear, -⟩ := task.isOpen_or
  · exact id
  · rw [hhear]
    exact hclosed

/-- A task that can be found under a session among those who wait: it waits for this session's
close, or did so until it ended. -/
def HostTask.Concerns (id : UInt32) (task : HostTask) : Prop :=
  task.awaited? = some id ∨ ∃ outcome, task = .over outcome

theorem HostTask.Concerns.awaits {job : Job} {aborted : Bool} {id : UInt32}
    (hconcerns : (HostTask.working job aborted).Concerns id) :
    (HostTask.working job aborted).awaited? = some id := by
  obtain hawaited | ⟨outcome, hover⟩ := hconcerns
  · exact hawaited
  · cases hover

theorem HostTask.concerns_hear {task : HostTask} {id : UInt32} (hconcerns : task.Concerns id)
    (verdict : Option Verdict) : (task.hear verdict).Concerns id := by
  obtain hawaited | ⟨outcome, rfl⟩ := hconcerns
  · left
    rw [HostTask.awaited?_hear, hawaited]
  · exact .inr ⟨outcome, rfl⟩

namespace Register

variable {register next : Register} {tasks : List HostTask} {caller : Caller} {id : UInt32}

theorem lookup_forsaken (waits : List (UInt32 × Caller)) (caller : Caller) (verdict : Verdict) :
    (waits.map fun wait => (wait.2, Verdict.forsaken)).lookup caller = some verdict ↔
      verdict = .forsaken ∧ ∃ id, (id, caller) ∈ waits := by
  induction waits with
  | nil => simp
  | cons wait waits ih =>
      obtain ⟨id, waiter⟩ := wait
      by_cases heq : caller = waiter
      · subst heq
        simp only [List.map_cons, List.lookup_cons_self, Option.some.injEq]
        constructor
        · rintro rfl
          exact ⟨rfl, id, List.mem_cons_self⟩
        · rintro ⟨rfl, -⟩
          rfl
      · have hne : (caller == waiter) = false := beq_false_of_ne heq
        simp only [List.map_cons, List.lookup_cons, hne, ih, List.mem_cons, Prod.mk.injEq, heq,
          and_false, false_or]

theorem lookup_forsake (htold : register.verdicts = []) (waits : List (UInt32 × Caller))
    (caller : Caller) (verdict : Verdict) :
    (register.forsake waits).verdicts.lookup caller = some verdict ↔
      verdict = .forsaken ∧ ∃ id, (id, caller) ∈ waits := by
  rw [forsake, htold, List.nil_append]
  exact lookup_forsaken waits caller verdict

theorem isSome_lookup_forsake (htold : register.verdicts = []) {waits : List (UInt32 × Caller)}
    (hmem : (id, caller) ∈ waits) :
    ((register.forsake waits).verdicts.lookup caller).isSome := by
  rw [(lookup_forsake htold waits caller .forsaken).mpr ⟨rfl, id, hmem⟩]
  rfl

theorem lookup_acknowledge (htold : register.verdicts = []) {verdict : Verdict}
    (hlookup : (register.acknowledge id).verdicts.lookup caller = some verdict) :
    verdict = .acknowledged ∧ (id, caller) ∈ register.pendingClose := by
  unfold acknowledge at hlookup
  cases hfound : register.pendingClose.lookup id with
  | none =>
      rw [hfound, htold] at hlookup
      cases hlookup
  | some waiter =>
      obtain ⟨front, rear, hsplit, -⟩ := List.lookup_eq_some_iff.mp hfound
      simp only [hfound, htold, List.nil_append] at hlookup
      by_cases heq : caller = waiter
      · subst heq
        rw [List.lookup_cons_self] at hlookup
        rw [hsplit]
        exact ⟨(Option.some.inj hlookup).symm, List.mem_append_right _ List.mem_cons_self⟩
      · have hne : (caller == waiter) = false := beq_false_of_ne heq
        rw [List.lookup_cons, hne] at hlookup
        cases hlookup

/-- Every caller who waits and has no verdict is known, under the session whose close the caller
waits for, and each session has one such caller at most. -/
structure Keeps (register : Register) (tasks : List HostTask) : Prop where
  nodup : (register.pendingClose.map Prod.fst).Nodup
  concerns : ∀ (id : UInt32) (caller : Caller), (id, caller) ∈ register.pendingClose →
    ∃ task, tasks[caller]? = some task ∧ task.Concerns id
  known : ∀ (caller : Caller) (task : HostTask) (id : UInt32), tasks[caller]? = some task →
    task.IsOpen → task.awaited? = some id →
      (id, caller) ∈ register.pendingClose ∨ (register.verdicts.lookup caller).isSome

theorem Keeps.congr (h : register.Keeps tasks) (hwaits : register.SameWaits next) :
    next.Keeps tasks where
  nodup := by
    rw [hwaits.pendingClose]
    exact h.nodup
  concerns := by
    rw [hwaits.pendingClose]
    exact h.concerns
  known := by
    rw [hwaits.pendingClose, hwaits.verdicts]
    exact h.known

/-- A task may change as long as it waits for what it waited for, or ends. -/
theorem Keeps.set (h : register.Keeps tasks) {task changed : HostTask}
    (htask : tasks[caller]? = some task)
    (hconcerns : ∀ id, task.Concerns id → changed.Concerns id)
    (hopen : changed.IsOpen → task.IsOpen ∧ changed.awaited? = task.awaited?) :
    register.Keeps (tasks.set caller changed) := by
  obtain ⟨hcaller, -⟩ := List.getElem?_eq_some_iff.mp htask
  refine ⟨h.nodup, fun id other hmem => ?_, fun other found id hfound hfoundOpen hawaited => ?_⟩
  · obtain ⟨before, hbefore, hconcern⟩ := h.concerns id other hmem
    by_cases heq : caller = other
    · subst heq
      obtain rfl := Option.some.inj (htask.symm.trans hbefore)
      exact ⟨changed, List.getElem?_set_self hcaller, hconcerns id hconcern⟩
    · exact ⟨before, by rw [List.getElem?_set_ne heq, hbefore], hconcern⟩
  · by_cases heq : caller = other
    · subst heq
      rw [List.getElem?_set_self hcaller] at hfound
      obtain rfl := Option.some.inj hfound
      obtain ⟨hbefore, hsame⟩ := hopen hfoundOpen
      exact h.known caller task id htask hbefore (hsame.symm.trans hawaited)
    · rw [List.getElem?_set_ne heq] at hfound
      exact h.known other found id hfound hfoundOpen hawaited

theorem Keeps.set_over (h : register.Keeps tasks) {task : HostTask}
    (htask : tasks[caller]? = some task) (outcome : Outcome) :
    register.Keeps (tasks.set caller (.over outcome)) :=
  h.set htask (fun _ _ => .inr ⟨outcome, rfl⟩) False.elim

/-- Nobody is known under any session but the one whose close they wait for. -/
theorem Keeps.eq_of_awaited (h : register.Keeps tasks) {task : HostTask} {other : UInt32}
    (htask : tasks[caller]? = some task) (hawaited : task.awaited? = some id)
    (hmem : (other, caller) ∈ register.pendingClose) : other = id := by
  obtain ⟨found, hfound, hconcerns⟩ := h.concerns other caller hmem
  obtain rfl := Option.some.inj (htask.symm.trans hfound)
  obtain hother | ⟨outcome, rfl⟩ := hconcerns
  · exact Option.some.inj (hother.symm.trans hawaited)
  · cases hawaited

theorem Keeps.lookup_eq (h : register.Keeps tasks) (hmem : (id, caller) ∈ register.pendingClose) :
    register.pendingClose.lookup id = some caller := by
  obtain ⟨front, rear, hsplit⟩ := List.append_of_mem hmem
  refine List.lookup_eq_some_iff.mpr ⟨front, rear, hsplit, fun wait hfront => ?_⟩
  have hnodup := h.nodup
  rw [hsplit, List.map_append, List.map_cons, List.nodup_append] at hnodup
  have hne := hnodup.2.2 wait.1 (List.mem_map_of_mem hfront) id List.mem_cons_self
  exact bne_iff_ne.mpr (Ne.symm hne)

theorem Keeps.ne_of_asking (h : register.Keeps tasks) {request : Request} {other : UInt32}
    {waiter : Caller} (htask : tasks[caller]? = some (.working (.call request .asking) false))
    (hmem : (other, waiter) ∈ register.pendingClose) : caller ≠ waiter := by
  rintro rfl
  obtain ⟨task, hfound, hconcerns⟩ := h.concerns other caller hmem
  obtain rfl := Option.some.inj (htask.symm.trans hfound)
  cases hconcerns.awaits

/-! ### Operations on the register -/

section Operations

variable (h : register.Keeps tasks) (htold : register.verdicts = [])
include h htold

theorem Keeps.mem_of_open {task : HostTask} (htask : tasks[caller]? = some task)
    (hopen : task.IsOpen) (hawaited : task.awaited? = some id) :
    (id, caller) ∈ register.pendingClose := by
  obtain hmem | hverdict := h.known caller task id htask hopen hawaited
  · exact hmem
  · rw [htold] at hverdict
    cases hverdict

/-- Whoever is struck from the register gets a verdict or waits no more. -/
theorem Keeps.strike (hsublist : next.pendingClose.Sublist register.pendingClose)
    (hverdict : ∀ id caller task, (id, caller) ∈ register.pendingClose →
      tasks[caller]? = some task → task.IsOpen →
        (id, caller) ∈ next.pendingClose ∨ (next.verdicts.lookup caller).isSome) :
    next.Keeps tasks where
  nodup := h.nodup.sublist (hsublist.map Prod.fst)
  concerns id caller hmem := h.concerns id caller (hsublist.subset hmem)
  known caller task id htask hopen hawaited :=
    hverdict id caller task (h.mem_of_open htold htask hopen hawaited) htask hopen

theorem Keeps.close : register.close.Keeps tasks := by
  unfold Register.close
  split
  · exact h
  · refine h.strike htold (List.nil_sublist _) fun id caller task hmem _ _ => .inr ?_
    exact isSome_lookup_forsake htold hmem

theorem Keeps.acknowledge (id : UInt32) : (register.acknowledge id).Keeps tasks := by
  unfold Register.acknowledge
  cases hlookup : register.pendingClose.lookup id with
  | none => exact h
  | some waiter =>
      refine h.strike htold List.filter_sublist fun other caller task hmem _ _ => ?_
      by_cases heq : other = id
      · subst heq
        obtain rfl := Option.some.inj (hlookup.symm.trans (h.lookup_eq hmem))
        right
        simp [htold]
      · left
        simp [hmem, heq]

theorem Keeps.giveUp {task : HostTask} (htask : tasks[caller]? = some task) (id : UInt32)
    (outcome : Outcome) :
    (register.giveUp caller id).Keeps (tasks.set caller (.over outcome)) := by
  obtain ⟨hcaller, -⟩ := List.getElem?_eq_some_iff.mp htask
  refine (h.set_over htask outcome).strike htold List.filter_sublist
    fun other waiter found hmem hfound hopen => ?_
  by_cases heq : other = id
  · right
    have hne : waiter ≠ caller := by
      rintro rfl
      rw [List.getElem?_set_self hcaller] at hfound
      cases hfound
      exact hopen
    have hforsaken : (other, waiter) ∈ register.pendingClose.filter
        fun wait => wait.1 = id && wait.2 ≠ caller :=
      List.mem_filter.mpr ⟨hmem, by simp [heq, hne]⟩
    exact isSome_lookup_forsake htold hforsaken
  · left
    simp [Register.giveUp, forsake, hmem, heq]

/-- A caller who begins to wait takes the place of anyone who waits for a session with the same
id. -/
theorem Keeps.await {request : Request} {deadline : Nat}
    (htask : tasks[caller]? = some (.working (.call request .asking) false)) (id : UInt32) :
    (register.await caller id).Keeps (tasks.set caller
      (.working (.call request (.awaiting id deadline none)) false)) := by
  obtain ⟨hcaller, -⟩ := List.getElem?_eq_some_iff.mp htask
  refine ⟨?_, fun other waiter hmem => ?_, fun waiter task other hfound hopen hawaited => ?_⟩
  · refine List.nodup_cons.mpr ⟨?_, h.nodup.sublist (List.filter_sublist.map Prod.fst)⟩
    simp
  · obtain heq | hmem := List.mem_cons.mp hmem
    · cases heq
      exact ⟨_, List.getElem?_set_self hcaller, .inl rfl⟩
    · have hkept := (List.mem_filter.mp hmem).1
      obtain ⟨task, hfound, hconcerns⟩ := h.concerns other waiter hkept
      exact ⟨task, by rw [List.getElem?_set_ne (h.ne_of_asking htask hkept), hfound], hconcerns⟩
  · by_cases heq : caller = waiter
    · subst heq
      rw [List.getElem?_set_self hcaller] at hfound
      cases hfound
      cases hawaited
      exact .inl List.mem_cons_self
    · rw [List.getElem?_set_ne heq] at hfound
      have hmem := h.mem_of_open htold hfound hopen hawaited
      by_cases hid : other = id
      · right
        have hforsaken : (other, waiter) ∈ register.pendingClose.filter (·.1 = id) :=
          List.mem_filter.mpr ⟨hmem, by simp [hid]⟩
        exact isSome_lookup_forsake htold hforsaken
      · left
        simp [Register.await, hmem, hid]

/-- Nobody who is about to wait is known yet, so a caller who begins to wait displaces others
only. -/
theorem Keeps.lookup_await {request : Request}
    (htask : tasks[caller]? = some (.working (.call request .asking) false)) (id : UInt32) :
    (register.await caller id).verdicts.lookup caller = none := by
  rw [Option.eq_none_iff_forall_ne_some]
  intro verdict hlookup
  obtain ⟨-, other, hmem⟩ := (lookup_forsake htold _ caller verdict).mp hlookup
  exact h.ne_of_asking htask (List.mem_filter.mp hmem).1 rfl

end Operations

end Register

namespace Host

open Register

variable {host : Host} {tasks : List HostTask} {register : Register}
  {caller : Caller} {id : UInt32}

structure Waits (host : Host) : Prop where
  truthful : host.Truthful
  told : host.register.verdicts = []
  keeps : host.register.Keeps host.tasks

theorem waits_create (config : ChannelConfig) (depth : Nat) (reception : Reception) :
    (create config depth reception).Waits where
  truthful := truthful_create config depth reception
  told := rfl
  keeps :=
    { nodup := List.nodup_nil
      concerns := fun _ _ hmem => absurd hmem List.not_mem_nil
      known := fun _ _ _ htask => by cases htask }

theorem Effect.keeps (h : host.Waits) {move : Move}
    (heffect : host.Effect move tasks register) :
    register.Keeps tasks := by
  cases heffect with
  | rests hgrows hwaits => exact h.keeps.congr hwaits
  | @marks caller request stage aborted htask =>
      refine h.keeps.set htask (fun id hconcerns => ?_) (fun hopen => ?_)
      · exact .inl (by cases stage <;> exact hconcerns.awaits)
      · obtain ⟨id, hawaited⟩ := HostTask.awaited?_of_isOpen hopen
        cases stage with
        | arriving | asking => cases hawaited
        | awaiting session deadline verdict => exact ⟨by cases verdict <;> exact hopen, rfl⟩
  | arrives htask =>
      refine h.keeps.set htask (fun id hconcerns => ?_) False.elim
      cases hconcerns.awaits
  | ends htask hends hgrows hwaits => exact (h.keeps.set_over htask _).congr hwaits
  | begins htask hopen => exact h.keeps.await h.told htask _
  | givesUp htask hdue => exact h.keeps.giveUp h.told htask _ _
  | acknowledges hbody => exact h.keeps.acknowledge h.told _
  | closes => exact h.keeps.close h.told

/-- Those who have learnt their verdict need not be known any more. -/
theorem Settles.keeps {next : Host} (hsettles : Settles tasks register next)
    (hkeeps : register.Keeps tasks) : next.register.Keeps next.tasks := by
  have hwritten : next.register = { register with verdicts := [] } := hsettles.written
  rw [hwritten]
  refine ⟨hkeeps.nodup, fun id caller hmem => ?_, fun caller task id htask hopen hawaited => ?_⟩
  · obtain ⟨task, htask, hconcerns⟩ := hkeeps.concerns id caller hmem
    exact ⟨_, hsettles.heard caller task htask, HostTask.concerns_hear hconcerns _⟩
  · cases hbefore : tasks[caller]? with
    | none =>
        rw [hsettles.fresh caller task hbefore htask] at hawaited
        cases hawaited
    | some before =>
        -- Whoever still waits without a verdict has found none in the register, so is known there.
        have hheard := hsettles.heard caller before hbefore
        obtain rfl := Option.some.inj (hheard.symm.trans htask)
        cases hlookup : register.verdicts.lookup caller with
        | some verdict =>
            rw [hlookup] at hopen
            exact absurd hopen (HostTask.not_isOpen_hear verdict before)
        | none =>
            rw [hlookup, HostTask.hear_none] at hopen hawaited
            have hknown := hkeeps.known caller before id hbefore hopen hawaited
            rw [hlookup] at hknown
            exact hknown.imp_right fun hverdict => by cases hverdict

theorem Waits.move (h : host.Waits) (move : Move) : (host.move move).Waits := by
  obtain ⟨tasks, register, heffect, hsettles⟩ := effect_move h.truthful.plain h.told move
  exact ⟨h.truthful.move move, congrArg Register.verdicts hsettles.written,
    hsettles.keeps (heffect.keeps h)⟩

theorem Waits.run (h : host.Waits) (moves : List Move) : (moves.foldl Host.move host).Waits := by
  induction moves generalizing host with
  | nil => exact h
  | cons move moves ih => exact ih (h.move move)

def Reachable (host : Host) : Prop :=
  ∃ config depth reception, ∃ moves : List Move,
    moves.foldl Host.move (create config depth reception) = host

theorem Reachable.waits (h : host.Reachable) : host.Waits := by
  obtain ⟨config, depth, reception, moves, rfl⟩ := h
  exact (waits_create config depth reception).run moves

end Host

end SessionMux
