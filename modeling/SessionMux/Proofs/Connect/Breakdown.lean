import SessionMux.Proofs.Connect.Resolution

/-!
# What the end of the work means for a wait

The work of an engine ends by returning or by breaking down. It returns only from an engine that is
resolved, and then whoever waits gets the result. A breakdown resolves nothing: the result can still
be sent by cancelling, so the wait is not told that the work is gone, and goes on until someone
cancels.
-/

namespace SessionMux.Engine

variable {Memory Conn : Type} {engine : Engine Memory Conn}

def hasEnded (engine : Engine Memory Conn) : Bool :=
  match engine.stage with
  | .over | .crashed => true
  | _ => false

structure Answered (engine : Engine Memory Conn) : Prop where
  resolved : engine.state.isTerminal = true
  waits : engine.owner = .waiter → (engine.seen? .take).isSome = true

structure Stranded (engine : Engine Memory Conn) : Prop where
  crashed : engine.stage = .crashed
  unresolved : engine.state.isTerminal = false

/-- The moves in which the work breaks down: the attempt does, or the delay cannot be doubled. -/
inductive Breaks (engine : Engine Memory Conn) : Move Memory Conn → Prop
  | attempt {clock attempt deadline : Nat} (hstage : engine.stage = .checking attempt deadline) :
      Breaks engine (.work clock .crash)
  | delay {clock attempt : Nat} {fault : Fault} {answer : Answer Conn}
      (hstage : engine.stage = .concluding attempt (.error fault))
      (hopen : engine.state.isTerminal = false)
      (hoverflow : (engine.strategy.schedule engine.memory).1 = .overflow) :
      Breaks engine (.work clock answer)

/-! ### Who holds the result -/

/-- Where the work stands agrees with who is to get the result and with whether there is one. -/
structure Held (engine : Engine Memory Conn) : Prop where
  unstarted : engine.owner = .engine → engine.stage = .unstarted
  returned : engine.stage = .over → engine.state.isTerminal = true
  offered : engine.offered.isSome = true ↔
    engine.state.isTerminal = true ∧ engine.owner ≠ .nobody

theorem held_create (strategy : Strategy Memory) (memory : Memory) :
    (create strategy memory : Engine Memory Conn).Held where
  unstarted := fun _ => rfl
  returned := by
    intro hstage
    cases hstage
  offered := by simp [create, EngineState.isTerminal]

theorem Held.cancel (h : engine.Held) (howed : engine.owed = !engine.state.isTerminal) :
    engine.cancel.2.Held := by
  cases hterminal : engine.state.isTerminal with
  | true =>
      rw [cancel_of_terminal hterminal]
      exact h
  | false =>
      rw [cancel_of_open hterminal (by rw [howed, hterminal, Bool.not_false])]
      refine ⟨h.unstarted, fun _ => rfl, ?_⟩
      by_cases howner : engine.owner = .nobody <;> simp [howner, EngineState.isTerminal]

/-- An engine whose result nobody can get any more. -/
theorem held_of_nobody (howner : engine.owner = .nobody) (hoffered : engine.offered = none)
    (hreturned : engine.stage = .over → engine.state.isTerminal = true) : engine.Held where
  unstarted := by simp [howner]
  returned := hreturned
  offered := by simp [howner, hoffered]

theorem Held.offered_of_owner (h : engine.Held) (hsomebody : engine.owner ≠ .nobody)
    {owner : ResultOwner} (howner : owner ≠ .nobody) :
    engine.offered.isSome = true ↔ engine.state.isTerminal = true ∧ owner ≠ .nobody := by
  rw [h.offered, and_iff_left hsomebody, and_iff_left howner]

theorem Held.forget (h : engine.Held) : engine.forget.Held :=
  held_of_nobody rfl rfl h.returned

/-- Every stage but the first needs an engine that was started, and the last a resolved one. -/
theorem Held.moved (h : engine.Held) (howner : engine.owner ≠ .engine) {stage : EngineStage Conn}
    (hreturned : stage = .over → engine.state.isTerminal = true) :
    { engine with stage }.Held where
  unstarted := fun heq => absurd heq howner
  returned := hreturned
  offered := h.offered

theorem Held.proceed (h : engine.Held) (howner : engine.owner ≠ .engine) {state : EngineState}
    {stage : EngineStage Conn} (hstage : stage ≠ .over) (hopen : state.isTerminal = false) :
    (engine.proceed state stage).Held := by
  rw [Engine.proceed]
  split
  · rename_i hterminal
    exact h.moved howner fun _ => hterminal
  · rename_i hunresolved
    refine ⟨fun heq => absurd heq howner, fun heq => absurd heq hstage, ?_⟩
    simp [h.offered, hunresolved, hopen]

theorem Held.complete (h : engine.Held) (hsound : engine.Sound) (howner : engine.owner ≠ .engine)
    (connection : Conn) : (engine.complete connection).Held := by
  rw [Engine.complete]
  cases hterminal : engine.state.isTerminal with
  | true =>
      rw [if_pos rfl]
      exact ⟨fun heq => absurd heq howner, fun _ => hterminal, h.offered⟩
  | false =>
      rw [if_neg Bool.false_ne_true]
      dsimp only
      rw [hsound.owed_of_open hterminal, Bool.true_and]
      split
      · rename_i hsomebody
        refine ⟨fun heq => absurd heq howner, fun _ => rfl, ?_⟩
        simpa [EngineState.isTerminal] using hsomebody
      · rename_i hnobody
        have howner : engine.owner = .nobody := by simpa using hnobody
        exact held_of_nobody howner (hsound.offered_eq_none hterminal) fun _ => rfl

theorem Held.fail (h : engine.Held) (hsound : engine.Sound) (howner : engine.owner ≠ .engine)
    (clock attempt : Nat) (fault : Fault) : (engine.fail clock attempt fault).Held := by
  rw [Engine.fail]
  cases hterminal : engine.state.isTerminal with
  | true =>
      rw [if_pos rfl]
      exact h.moved howner fun _ => hterminal
  | false =>
      rw [if_neg Bool.false_ne_true]
      have hoffered : engine.offered = none := hsound.offered_eq_none hterminal
      cases engine.strategy.schedule engine.memory with
      | mk retry memory =>
          cases retry with
          | after delay =>
              refine ⟨fun heq => absurd heq howner, (by simp), ?_⟩
              simp [report, hoffered, EngineState.isTerminal]
          | overflow =>
              refine ⟨fun heq => absurd heq howner, (by simp), ?_⟩
              simp [hoffered, hterminal]
          | giveUp =>
              simp only [report, refuse, hsound.owed_of_open hterminal, if_true]
              refine ⟨fun heq => absurd heq howner, fun _ => rfl, ?_⟩
              by_cases hnobody : engine.owner = .nobody <;>
                simp [hnobody, EngineState.isTerminal]

theorem Held.step (h : engine.Held) (hsound : engine.Sound) (clock : Nat) (answer : Answer Conn) :
    (engine.step clock answer).1.Held := by
  have hstarted (hne : engine.stage ≠ .unstarted) : engine.owner ≠ .engine :=
    fun howner => hne (h.unstarted howner)
  have hcancelled (heq : engine.state = .cancelled) : engine.state.isTerminal = true := by
    rw [heq]
    rfl
  rw [Engine.step]
  cases hstage : engine.stage with
  | unstarted | «over» | crashed => exact h
  | starting attempt => exact h.proceed (hstarted (by simp [hstage])) (by simp) rfl
  | calling attempt =>
      have howner := hstarted (by simp [hstage])
      dsimp only
      split
      · rename_i heq
        exact h.moved howner fun _ => hcancelled heq
      · exact ⟨fun heq => absurd heq howner, (by simp), h.offered⟩
  | connecting attempt deadline =>
      have howner := hstarted (by simp [hstage])
      dsimp only
      split
      · rename_i heq
        exact h.moved howner fun _ => hcancelled heq
      · exact h.moved howner (by simp)
  | checking attempt deadline =>
      have howner := hstarted (by simp [hstage])
      cases answer with
      | connection | fault | crash => exact h.moved howner (by simp)
      | pending =>
          dsimp only
          split
          · exact h.moved howner (by simp)
          · exact h.moved howner (by simp)
  | concluding attempt result =>
      have howner := hstarted (by simp [hstage])
      cases result with
      | ok connection => exact h.complete hsound howner connection
      | error fault => exact h.fail hsound howner clock attempt fault
  | resting attempt deadline =>
      have howner := hstarted (by simp [hstage])
      dsimp only
      split
      · rename_i heq
        exact h.moved howner fun _ => hcancelled heq
      · split
        · exact h.moved howner (by simp)
        · exact h

theorem Held.move (h : engine.Held) (hsound : engine.Sound) (move : Move Memory Conn) :
    (engine.move move).Held := by
  cases move with
  | start =>
      rw [Engine.move, start]
      split
      · rename_i howner
        have hsomebody : engine.owner ≠ .nobody := by simp [howner]
        refine ⟨fun heq => ?_, fun heq => ?_, h.offered_of_owner hsomebody ?_⟩
        · cases heq
        · cases heq
        · intro heq
          cases heq
      · exact h
  | work clock answer => exact h.step hsound clock answer
  | cancel => exact h.cancel hsound.owed
  | dropHandle =>
      rw [Engine.move]
      split
      · exact (h.cancel hsound.owed).forget
      · exact h
  | await =>
      rw [Engine.move]
      split
      · rename_i howner
        have hsomebody : engine.owner ≠ .nobody := by simp [howner]
        refine ⟨fun heq => ?_, h.returned, h.offered_of_owner hsomebody ?_⟩
        · cases heq
        · intro heq
          cases heq
      · exact h
  | abandonWait =>
      rw [Engine.move]
      split
      · exact h.forget.cancel hsound.owed
      · exact h
  | take =>
      rw [Engine.move]
      split
      · rw [take?]
        cases engine.offered with
        | none => exact h
        | some result =>
            have hnobody : { engine with offered := none, owner := .nobody }.Held :=
              held_of_nobody rfl rfl h.returned
            exact hnobody.cancel hsound.owed
      · exact h
  | sway memory => exact ⟨h.unstarted, h.returned, h.offered⟩

theorem Held.run (h : engine.Held) (hsound : engine.Sound) (moves : List (Move Memory Conn)) :
    (moves.foldl Engine.move engine).Sound ∧ (moves.foldl Engine.move engine).Held := by
  induction moves generalizing engine with
  | nil => exact ⟨hsound, h⟩
  | cons move moves ih => exact ih (h.move hsound move) (hsound.move move)

theorem Held.answered (h : engine.Held) (hterminal : engine.state.isTerminal = true) :
    engine.Answered where
  resolved := hterminal
  waits := by
    intro howner
    have hoffered := h.offered.mpr ⟨hterminal, by simp [howner]⟩
    simp [seen?, take?, howner, hoffered]

/-! ### A breakdown -/

@[simp] theorem stage_refuse (engine : Engine Memory Conn) (error : ConnectError) :
    (engine.refuse error).stage = engine.stage := by
  rw [refuse]
  split <;> rfl

@[simp] theorem stage_cancel (engine : Engine Memory Conn) :
    engine.cancel.2.stage = engine.stage := by
  rw [cancel]
  split
  · rfl
  · exact stage_refuse _ _

theorem stage_complete (engine : Engine Memory Conn) (connection : Conn) :
    (engine.complete connection).stage = .over := by
  rw [complete]
  dsimp only
  split
  · rfl
  · split <;> rfl

theorem stage_fail_eq_crashed_iff (engine : Engine Memory Conn) (clock attempt : Nat)
    (fault : Fault) :
    (engine.fail clock attempt fault).stage = .crashed ↔
      engine.state.isTerminal = false ∧
        (engine.strategy.schedule engine.memory).1 = .overflow := by
  rw [fail]
  cases engine.state.isTerminal with
  | true => simp
  | false =>
      rw [if_neg Bool.false_ne_true]
      cases engine.strategy.schedule engine.memory with
      | mk retry memory => cases retry <;> simp [report]

/-- The work breaks down in a section where the attempt does, or where there is no delay. -/
theorem stage_step_eq_crashed_iff (engine : Engine Memory Conn) (clock : Nat)
    (answer : Answer Conn) :
    (engine.step clock answer).1.stage = .crashed ↔
      engine.stage = .crashed ∨ Breaks engine (.work clock answer) := by
  constructor
  · intro hcrashed
    rw [step] at hcrashed
    cases hstage : engine.stage with
    | crashed => exact .inl rfl
    | unstarted | «over» => simp [hstage] at hcrashed
    | starting attempt =>
        simp only [hstage, proceed] at hcrashed
        split at hcrashed <;> cases hcrashed
    | calling attempt | connecting attempt deadline =>
        simp only [hstage] at hcrashed
        split at hcrashed <;> cases hcrashed
    | checking attempt deadline =>
        cases answer with
        | crash => exact .inr (.attempt hstage)
        | connection | fault => simp [hstage] at hcrashed
        | pending =>
            simp only [hstage] at hcrashed
            split at hcrashed <;> cases hcrashed
    | concluding attempt result =>
        cases result with
        | ok connection => simp [hstage, stage_complete] at hcrashed
        | error fault =>
            simp only [hstage, stage_fail_eq_crashed_iff] at hcrashed
            exact .inr (.delay hstage hcrashed.1 hcrashed.2)
    | resting attempt deadline =>
        simp only [hstage] at hcrashed
        split at hcrashed
        · cases hcrashed
        · split at hcrashed
          · cases hcrashed
          · rw [hstage] at hcrashed
            cases hcrashed
  · rintro (hcrashed | hbreaks)
    · simp [step, hcrashed]
    · cases hbreaks with
      | attempt hstage => simp [step, hstage]
      | delay hstage hopen hoverflow =>
          simp [step, hstage, stage_fail_eq_crashed_iff, hopen, hoverflow]

/-- Apart from the work itself, only the start changes where the work stands. -/
theorem Held.stage_move (h : engine.Held) (move : Move Memory Conn) :
    (∃ clock answer, move = .work clock answer) ∨ (engine.move move).stage = engine.stage ∨
      (move = .start ∧ engine.stage = .unstarted ∧ (engine.move move).stage = .starting 1) := by
  cases move with
  | work clock answer => exact .inl ⟨clock, answer, rfl⟩
  | start =>
      refine .inr ?_
      rw [Engine.move, start]
      split
      · rename_i howner
        exact .inr ⟨rfl, h.unstarted howner, rfl⟩
      · exact .inl rfl
  | cancel => exact .inr (.inl (stage_cancel engine))
  | dropHandle =>
      refine .inr (.inl ?_)
      rw [Engine.move]
      split
      · exact stage_cancel engine
      · rfl
  | await =>
      refine .inr (.inl ?_)
      rw [Engine.move]
      split <;> rfl
  | abandonWait =>
      refine .inr (.inl ?_)
      rw [Engine.move]
      split
      · exact stage_cancel engine.forget
      · rfl
  | take =>
      refine .inr (.inl ?_)
      rw [Engine.move]
      split
      · rw [take?]
        cases engine.offered with
        | none => rfl
        | some result => exact stage_cancel _
      · rfl
  | sway memory => exact .inr (.inl rfl)

theorem Held.stage_move_eq_crashed_iff (h : engine.Held) (move : Move Memory Conn) :
    (engine.move move).stage = .crashed ↔ engine.stage = .crashed ∨ Breaks engine move := by
  by_cases hwork : ∃ clock answer, move = .work clock answer
  · obtain ⟨clock, answer, rfl⟩ := hwork
    exact stage_step_eq_crashed_iff engine clock answer
  · have hnot : ¬ Breaks engine move := by
      rintro (_ | _)
      · exact hwork ⟨_, _, rfl⟩
      · exact hwork ⟨_, _, rfl⟩
    rw [or_iff_left hnot]
    obtain hsame | ⟨-, hbefore, hafter⟩ := (h.stage_move move).resolve_left hwork
    · rw [hsame]
    · simp [hbefore, hafter]

/-- Work that broke down has done so in some move. -/
theorem Held.breaks_of_crashed (h : engine.Held) (hsound : engine.Sound)
    (moves : List (Move Memory Conn)) (hworking : engine.stage ≠ .crashed)
    (hcrashed : (moves.foldl Engine.move engine).stage = .crashed) :
    ∃ before cause after, moves = before ++ cause :: after ∧
      Breaks (before.foldl Engine.move engine) cause := by
  induction moves generalizing engine with
  | nil => exact absurd hcrashed hworking
  | cons move moves ih =>
      by_cases hbroken : (engine.move move).stage = .crashed
      · have hbreaks : Breaks engine move :=
          ((h.stage_move_eq_crashed_iff move).mp hbroken).resolve_left hworking
        exact ⟨[], move, moves, rfl, hbreaks⟩
      · obtain ⟨before, cause, after, heq, hbreaks⟩ :=
          ih (h.move hsound move) (hsound.move move) hbroken hcrashed
        exact ⟨move :: before, cause, after, by rw [heq, List.cons_append], hbreaks⟩

theorem Stranded.seen? (h : engine.Stranded) (hsound : engine.Sound) (move : Move Memory Conn) :
    engine.seen? move = none := by
  cases move with
  | take => simp [Engine.seen?, take?, hsound.offered_eq_none h.unresolved]
  | _ => rfl

theorem Sound.tells_seen (h : engine.Sound) (move : Move Memory Conn)
    {result : Except ConnectError Conn} (hseen : engine.seen? move = some result) :
    Tells result engine.state := by
  have hpassage := h.passage_move move
  generalize engine.cancels move = cancelled at hpassage
  rw [hseen] at hpassage
  cases hpassage with
  | yields _ _ _ _ _ _ _ hhad => exact h.tells result (hhad result rfl)

theorem not_tells_aborted (state : EngineState) :
    ¬ Tells (.error .aborted : Except ConnectError Conn) state := by
  cases state <;> exact id

/-- Only a cancellation resolves an engine whose work broke down. -/
theorem Stranded.move (h : engine.Stranded) (hheld : engine.Held) (hsound : engine.Sound)
    (move : Move Memory Conn) :
    (engine.move move).Stranded ∨ (engine.move move).state = .cancelled := by
  have hcrashed : (engine.move move).stage = .crashed :=
    (hheld.stage_move_eq_crashed_iff move).mpr (.inl h.crashed)
  have hsame (hstate : (engine.move move).state = engine.state) :
      (engine.move move).Stranded ∨ (engine.move move).state = .cancelled :=
    .inl ⟨hcrashed, by rw [hstate, h.unresolved]⟩
  have howed : engine.owed = true := hsound.owed_of_open h.unresolved
  cases move with
  | start =>
      refine hsame ?_
      rw [Engine.move, start]
      split <;> rfl
  | work clock answer => exact hsame (by simp [Engine.move, step, h.crashed])
  | cancel => exact .inr (by rw [Engine.move, cancel_of_open h.unresolved howed])
  | dropHandle =>
      by_cases howner : engine.owner = .handle
      · rw [Engine.move, if_pos howner, dropHandle, cancel_of_open h.unresolved howed]
        exact .inr rfl
      · exact hsame (by rw [Engine.move, if_neg howner])
  | await =>
      refine hsame ?_
      rw [Engine.move]
      split <;> rfl
  | abandonWait =>
      by_cases howner : engine.owner = .waiter
      · have hforget : engine.forget.state.isTerminal = false := h.unresolved
        rw [Engine.move, if_pos howner, abandonWait, cancel_of_open hforget howed]
        exact .inr rfl
      · exact hsame (by rw [Engine.move, if_neg howner])
  | take =>
      refine hsame ?_
      simp [Engine.move, take?, hsound.offered_eq_none h.unresolved]
  | sway memory => exact hsame rfl

theorem Stranded.run (h : engine.Stranded) (hheld : engine.Held) (hsound : engine.Sound)
    (moves : List (Move Memory Conn)) :
    (moves.foldl Engine.move engine).Stranded ∨
      (moves.foldl Engine.move engine).state = .cancelled := by
  induction moves generalizing engine with
  | nil => exact .inl h
  | cons move moves ih =>
      obtain hstranded | hcancelled := h.move hheld hsound move
      · exact ih hstranded (hheld.move hsound move) (hsound.move move)
      · -- A resolved engine keeps its state.
        have hterminal : (engine.move move).state.isTerminal = true := by
          rw [hcancelled]
          rfl
        have hstays := (hsound.move move).stays hterminal moves
        exact .inr (hstays.state.trans hcancelled)

/-- **No end without a result but by a breakdown.** Whatever the strategy decides, whatever becomes
of the attempts, and whatever order the moves come in: when the task that does the work has ended,
the engine is resolved and whoever waits gets the result, unless the work broke down before there
was one, which takes an attempt that breaks down or a delay that cannot be doubled. Then no wait
returns, whatever happens later, until the engine is cancelled; and no wait is ever told that the
work was aborted. -/
theorem ended_answered (strategy : Strategy Memory) (memory : Memory)
    (moves later : List (Move Memory Conn)) :
    let initial : Engine Memory Conn := create strategy memory
    let engine := moves.foldl Engine.move initial
    let after := later.foldl Engine.move engine
    (engine.hasEnded = true → engine.Answered ∨ engine.Stranded) ∧
      (engine.Stranded →
        (∃ before cause rest, moves = before ++ cause :: rest ∧
          Breaks (before.foldl Engine.move initial) cause) ∧
        ((after.Stranded ∧ ∀ move, after.seen? move = none) ∨ after.state = .cancelled)) ∧
      (∀ move, engine.seen? move ≠ some (.error .aborted)) := by
  intro initial engine after
  obtain ⟨hsound, hheld⟩ : engine.Sound ∧ engine.Held :=
    (held_create strategy memory).run (sound_create strategy memory) moves
  refine ⟨?_, ?_, ?_⟩
  · intro hended
    cases hterminal : engine.state.isTerminal with
    | true => exact .inl (hheld.answered hterminal)
    | false =>
        refine .inr ⟨?_, hterminal⟩
        cases hstage : engine.stage with
        | crashed => rfl
        | «over» =>
            rw [hheld.returned hstage] at hterminal
            cases hterminal
        | _ => simp [hasEnded, hstage] at hended
  · intro hstranded
    refine ⟨?_, ?_⟩
    · exact (held_create strategy memory).breaks_of_crashed (sound_create strategy memory) moves
        (by simp [create]) hstranded.crashed
    · refine (hstranded.run hheld hsound later).imp_left fun hafter => ⟨hafter, fun move => ?_⟩
      exact hafter.seen? ((hheld.run hsound later).1) move
  · intro move hseen
    exact not_tells_aborted engine.state (hsound.tells_seen move hseen)

/-- An attempt breaks down while someone waits, and so does a strategy whose delay is too long to be
doubled: the task is gone, and the wait goes on. -/
theorem wait_outlives_work :
    (let engine : Engine Span Unit :=
      [.start, .await, .work 0 .pending, .work 0 .pending, .work 0 .crash].foldl Engine.move
        (create .single (.ofSeconds 10))
     engine.hasEnded = true ∧ engine.state = .connecting 1 ∧ engine.owner = .waiter ∧
      engine.seen? .take = none) ∧
    (let config := { BackoffConfig.default with initial := .ofSeconds 9223372036854775808 }
     let engine : Engine Backoff Unit :=
      [.start, .await, .work 0 .pending, .work 0 .pending, .work 0 (.fault (.custom .other "")),
        .work 0 .pending].foldl Engine.move (create .backoff (.create config))
     engine.hasEnded = true ∧ engine.state = .connecting 1 ∧ engine.owner = .waiter ∧
      engine.seen? .take = none) := by
  exact ⟨⟨rfl, rfl, rfl, rfl⟩, ⟨rfl, rfl, rfl, rfl⟩⟩

end SessionMux.Engine
