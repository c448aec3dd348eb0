import SessionMux.Connect.Engine

/-!
# An engine comes to one result

Cancelling can come before the start, during an attempt, between its success and what is made of it,
during the rest, and afterwards, and dropping the handle or the wait cancels too. In whatever order
these come between the sections of the work, the engine is resolved once.
-/

namespace SessionMux.Engine

inductive Move (Memory Conn : Type)
  | start
  | work (clock : Nat) (answer : Answer Conn)
  | cancel
  | dropHandle
  | await
  | abandonWait
  | take
  /-- The strategy learns something, be it the cause of a failure or from another engine. -/
  | sway (memory : Memory)

variable {Memory Conn : Type} {engine after : Engine Memory Conn}

/-- A move that is not possible, because there is no handle or no wait, changes nothing. -/
def move (engine : Engine Memory Conn) : Move Memory Conn → Engine Memory Conn
  | .start => engine.start.toOption.getD engine
  | .work clock answer => (engine.step clock answer).1
  | .cancel => engine.cancel.2
  | .dropHandle => if engine.owner = .handle then engine.dropHandle else engine
  | .await => if engine.owner = .handle then engine.await else engine
  | .abandonWait => if engine.owner = .waiter then engine.abandonWait else engine
  | .take =>
    if engine.owner = .waiter then (engine.take?.map Prod.snd).getD engine else engine
  | .sway memory => { engine with memory }

def cancels (engine : Engine Memory Conn) : Move Memory Conn → Bool
  | .cancel => engine.cancel.1
  | .dropHandle => engine.owner = .handle && engine.cancel.1
  | .abandonWait => engine.owner = .waiter && engine.forget.cancel.1
  | .take =>
    engine.owner = .waiter && engine.offered.isSome &&
      { engine with offered := none, owner := .nobody }.cancel.1
  | _ => false

def seen? (engine : Engine Memory Conn) : Move Memory Conn → Option (Except ConnectError Conn)
  | .take => if engine.owner = .waiter then engine.take?.map Prod.fst else none
  | _ => none

def Tells : Except ConnectError Conn → EngineState → Prop
  | .ok _, .connected => True
  | .error (.exhausted ..), .failed => True
  | .error .cancelled, .cancelled => True
  | _, _ => False

theorem Tells.isTerminal {result : Except ConnectError Conn} {state : EngineState}
    (h : Tells result state) : state.isTerminal = true := by
  cases state with
  | connected | failed | cancelled => rfl
  | initial | connecting | scheduled => simp [Tells] at h

structure Sound (engine : Engine Memory Conn) : Prop where
  owed : engine.owed = !engine.state.isTerminal
  tells : ∀ result ∈ engine.offered, Tells result engine.state
  /-- Cancelling does not stop the task at once, but nothing else resolves the engine behind its
  back. -/
  idle : engine.state.isTerminal = true → engine.state ≠ .cancelled →
    ∀ attempt, engine.stage ≠ .calling attempt

theorem sound_create (strategy : Strategy Memory) (memory : Memory) :
    (create strategy memory : Engine Memory Conn).Sound where
  owed := rfl
  tells := fun _ hmem => nomatch hmem
  idle := fun hterminal => nomatch hterminal

theorem Sound.offered_eq_none (h : engine.Sound) (hopen : engine.state.isTerminal = false) :
    engine.offered = none := by
  rw [Option.eq_none_iff_forall_not_mem]
  intro result hmem
  have hterminal := (h.tells result hmem).isTerminal
  rw [hopen] at hterminal
  cases hterminal

/-! ### What a move can do -/

/-- What a move makes of an engine, whether it cancels it, and which result it hands over. -/
inductive Passage (before after : Engine Memory Conn) :
    Bool → Option (Except ConnectError Conn) → Prop
  | continues (hbefore : before.state.isTerminal = false) (hafter : after.state.isTerminal = false)
      (howed : after.owed = before.owed) (hoffered : after.offered = before.offered) :
      Passage before after false none
  | resolves (hbefore : before.state.isTerminal = false) (hafter : after.state.isTerminal = true)
      (howed : after.owed = false) (htells : ∀ result ∈ after.offered, Tells result after.state)
      (hidle : after.state ≠ .cancelled → ∀ attempt, after.stage ≠ .calling attempt) :
      Passage before after (after.state = .cancelled) none
  | rests (hbefore : before.state.isTerminal = true) (hstate : after.state = before.state)
      (hattempts : after.attempts = before.attempts) (hreports : after.reports = before.reports)
      (howed : after.owed = before.owed)
      (hidle : ∀ attempt, after.stage = .calling attempt → before.stage = .calling attempt)
      (hoffered : after.offered = before.offered) :
      Passage before after false none
  | yields {seen : Option (Except ConnectError Conn)}
      (hbefore : before.state.isTerminal = true) (hstate : after.state = before.state)
      (hattempts : after.attempts = before.attempts) (hreports : after.reports = before.reports)
      (howed : after.owed = before.owed) (hstage : after.stage = before.stage)
      (hoffered : after.offered = none)
      (hseen : ∀ result ∈ seen, result ∈ before.offered) :
      Passage before after false seen

/-- What leaves alone all that a passage tells of. -/
theorem Passage.same (hstate : after.state = engine.state)
    (hattempts : after.attempts = engine.attempts) (hreports : after.reports = engine.reports)
    (howed : after.owed = engine.owed)
    (hidle : ∀ attempt, after.stage = .calling attempt → engine.stage = .calling attempt)
    (hoffered : after.offered = engine.offered) : Passage engine after false none := by
  cases hterminal : engine.state.isTerminal with
  | true => exact .rests hterminal hstate hattempts hreports howed hidle hoffered
  | false => exact .continues hterminal (by rw [hstate, hterminal]) howed hoffered

theorem Passage.refl (engine : Engine Memory Conn) : Passage engine engine false none :=
  .same rfl rfl rfl rfl (fun _ h => h) rfl

theorem cancel_fst (engine : Engine Memory Conn) :
    engine.cancel.1 = !engine.state.isTerminal := by
  cases hterminal : engine.state.isTerminal <;> simp [cancel, hterminal]

theorem cancel_of_terminal (hterminal : engine.state.isTerminal = true) :
    engine.cancel.2 = engine := by
  simp [cancel, hterminal]

theorem cancel_of_open (hopen : engine.state.isTerminal = false) (howed : engine.owed = true) :
    engine.cancel.2 =
      { engine with
        state := .cancelled
        owed := false
        offered := if engine.owner = .nobody then none else some (.error .cancelled) } := by
  simp [cancel, refuse, hopen, howed]

theorem Sound.owed_of_open (h : engine.Sound) (hopen : engine.state.isTerminal = false) :
    engine.owed = true := by
  rw [h.owed, hopen, Bool.not_false]

theorem Sound.passage_cancel (h : engine.Sound) :
    Passage engine engine.cancel.2 engine.cancel.1 none := by
  rw [cancel_fst]
  cases hterminal : engine.state.isTerminal with
  | true =>
      rw [cancel_of_terminal hterminal]
      exact .refl engine
  | false =>
      rw [cancel_of_open hterminal (h.owed_of_open hterminal)]
      refine .resolves hterminal rfl rfl ?_ (fun hne => absurd rfl hne)
      intro result hmem
      dsimp only at hmem
      split at hmem
      · cases hmem
      · cases hmem
        trivial

theorem passage_forget (hterminal : engine.state.isTerminal = true) :
    Passage engine engine.forget false none := by
  refine .yields hterminal rfl rfl rfl rfl rfl rfl ?_
  intro result hmem
  cases hmem

theorem Sound.passage_dropHandle (h : engine.Sound) :
    Passage engine engine.dropHandle engine.cancel.1 none := by
  rw [cancel_fst, dropHandle]
  cases hterminal : engine.state.isTerminal with
  | true =>
      rw [cancel_of_terminal hterminal]
      exact passage_forget hterminal
  | false =>
      rw [cancel_of_open hterminal (h.owed_of_open hterminal)]
      exact .resolves hterminal rfl rfl (fun _ hmem => nomatch hmem) (fun hne => absurd rfl hne)

theorem Sound.passage_abandonWait (h : engine.Sound) :
    Passage engine engine.abandonWait engine.forget.cancel.1 none := by
  rw [cancel_fst, abandonWait]
  cases hterminal : engine.state.isTerminal with
  | true =>
      have hforget : engine.forget.state.isTerminal = true := hterminal
      rw [cancel_of_terminal hforget, hforget]
      exact passage_forget hterminal
  | false =>
      have hforget : engine.forget.state.isTerminal = false := hterminal
      rw [cancel_of_open hforget (h.owed_of_open hterminal), hforget]
      exact .resolves hterminal rfl rfl (fun _ hmem => nomatch hmem) (fun hne => absurd rfl hne)

theorem Sound.passage_complete (h : engine.Sound) (connection : Conn) :
    Passage engine (engine.complete connection) false none := by
  rw [complete]
  cases hterminal : engine.state.isTerminal with
  | true =>
      rw [if_pos rfl]
      exact .rests hterminal rfl rfl rfl rfl (fun _ hstage => nomatch hstage) rfl
  | false =>
      rw [if_neg Bool.false_ne_true]
      dsimp only
      split
      · refine .resolves hterminal rfl rfl ?_ (fun _ _ hstage => nomatch hstage)
        intro result hmem
        cases hmem
        trivial
      · refine .resolves hterminal rfl rfl ?_ (fun _ _ hstage => nomatch hstage)
        intro result hmem
        rw [h.offered_eq_none hterminal] at hmem
        cases hmem

theorem Sound.passage_fail (h : engine.Sound) (clock attempt : Nat) (fault : Fault) :
    Passage engine (engine.fail clock attempt fault) false none := by
  rw [fail]
  cases hterminal : engine.state.isTerminal with
  | true =>
      rw [if_pos rfl]
      exact .rests hterminal rfl rfl rfl rfl (fun _ hstage => nomatch hstage) rfl
  | false =>
      rw [if_neg Bool.false_ne_true]
      cases engine.strategy.schedule engine.memory with
      | mk retry memory =>
          cases retry with
          | after delay => exact .continues hterminal rfl rfl rfl
          | overflow => exact .continues hterminal hterminal rfl rfl
          | giveUp =>
              have howed : engine.owed = true := h.owed_of_open hterminal
              simp only [report, refuse, howed, if_true]
              refine .resolves hterminal rfl rfl ?_ (fun _ _ hstage => nomatch hstage)
              intro result hmem
              dsimp only at hmem
              split at hmem
              · cases hmem
              · cases hmem
                trivial

theorem Sound.passage_step (h : engine.Sound) (clock : Nat) (answer : Answer Conn) :
    Passage engine (engine.step clock answer).1 false none := by
  rw [step]
  cases hstage : engine.stage with
  | starting attempt =>
      dsimp only [proceed]
      cases hterminal : engine.state.isTerminal with
      | true => exact .rests hterminal rfl rfl rfl rfl (fun _ hstage => nomatch hstage) rfl
      | false => exact .continues hterminal rfl rfl rfl
  | calling attempt =>
      dsimp only
      split
      · exact .same rfl rfl rfl rfl (fun _ hstage => nomatch hstage) rfl
      · rename_i hcancelled
        -- Only here is an attempt begun: an engine that stands here is cancelled or unresolved.
        have hopen : engine.state.isTerminal = false := by
          rw [← Bool.not_eq_true]
          intro hterminal
          exact h.idle hterminal hcancelled attempt hstage
        exact .continues hopen hopen rfl rfl
  | connecting attempt deadline =>
      dsimp only
      split <;> exact .same rfl rfl rfl rfl (fun _ hstage => nomatch hstage) rfl
  | checking attempt deadline =>
      cases answer with
      | connection | fault | crash =>
          exact .same rfl rfl rfl rfl (fun _ hstage => nomatch hstage) rfl
      | pending =>
          dsimp only
          split <;> exact .same rfl rfl rfl rfl (fun _ hstage => nomatch hstage) rfl
  | concluding attempt result =>
      cases result with
      | ok connection => exact h.passage_complete connection
      | error fault => exact h.passage_fail clock attempt fault
  | resting attempt deadline =>
      dsimp only
      split
      · exact .same rfl rfl rfl rfl (fun _ hstage => nomatch hstage) rfl
      · split
        · exact .same rfl rfl rfl rfl (fun _ hstage => nomatch hstage) rfl
        · exact .refl engine
  | _ => exact .refl engine

theorem Sound.passage_take (h : engine.Sound) :
    Passage engine (engine.move .take) (engine.cancels .take) (engine.seen? .take) := by
  rw [move, cancels, seen?, take?]
  by_cases howner : engine.owner = .waiter
  · rw [if_pos howner, if_pos howner]
    cases hoffered : engine.offered with
    | none =>
        simp only [Option.map_none, Option.getD_none, Option.isSome_none, Bool.and_false,
          Bool.false_and]
        exact .refl engine
    | some result =>
        have hterminal : engine.state.isTerminal = true :=
          (h.tells result hoffered).isTerminal
        simp only [Option.map_some, Option.getD_some, cancel_fst, hterminal, Bool.not_true,
          Bool.and_false, cancel_of_terminal]
        refine .yields hterminal rfl rfl rfl rfl rfl rfl ?_
        intro seen hmem
        rw [hoffered]
        exact hmem
  · rw [if_neg howner, if_neg howner, decide_eq_false howner, Bool.false_and, Bool.false_and]
    exact .refl engine

theorem Sound.passage_move (h : engine.Sound) (move : Move Memory Conn) :
    Passage engine (engine.move move) (engine.cancels move) (engine.seen? move) := by
  cases move with
  | start =>
      rw [Engine.move, start]
      split
      · exact .same rfl rfl rfl rfl (fun _ hstage => nomatch hstage) rfl
      · exact .refl engine
  | work clock answer => exact h.passage_step clock answer
  | cancel => exact h.passage_cancel
  | dropHandle =>
      by_cases howner : engine.owner = .handle
      · simpa [Engine.move, cancels, seen?, howner] using h.passage_dropHandle
      · simpa [Engine.move, cancels, seen?, howner] using Passage.refl engine
  | await =>
      rw [Engine.move]
      split
      · exact .same rfl rfl rfl rfl (fun _ hstage => hstage) rfl
      · exact .refl engine
  | abandonWait =>
      by_cases howner : engine.owner = .waiter
      · simpa [Engine.move, cancels, seen?, howner] using h.passage_abandonWait
      · simpa [Engine.move, cancels, seen?, howner] using Passage.refl engine
  | take => exact h.passage_take
  | sway memory => exact .same rfl rfl rfl rfl (fun _ hstage => hstage) rfl

theorem Passage.sound {cancelled : Bool} {seen : Option (Except ConnectError Conn)}
    (hpassage : Passage engine after cancelled seen) (h : engine.Sound) : after.Sound := by
  cases hpassage with
  | continues hbefore hafter howed hoffered =>
      refine ⟨?_, ?_, ?_⟩
      · rw [howed, h.owed, hbefore, hafter]
      · intro result hmem
        rw [hoffered, h.offered_eq_none hbefore] at hmem
        cases hmem
      · intro hterminal
        rw [hafter] at hterminal
        cases hterminal
  | resolves hbefore hafter howed htells hidle =>
      exact ⟨by rw [howed, hafter, Bool.not_true], htells, fun _ => hidle⟩
  | rests hbefore hstate hattempts hreports howed hidle hoffered =>
      refine ⟨by rw [howed, h.owed, hstate], ?_, ?_⟩
      · rw [hoffered, hstate]
        exact h.tells
      · rw [hstate]
        intro hterminal hcancelled attempt hstage
        exact h.idle hterminal hcancelled attempt (hidle attempt hstage)
  | yields hbefore hstate hattempts hreports howed hstage hoffered =>
      refine ⟨by rw [howed, h.owed, hstate], ?_, ?_⟩
      · rw [hoffered]
        intro result hmem
        cases hmem
      · rw [hstate, hstage]
        exact h.idle

theorem Sound.move (h : engine.Sound) (move : Move Memory Conn) : (engine.move move).Sound :=
  (h.passage_move move).sound h

/-! ### What has come of a resolved engine stays -/

/-- The state, the attempts and the errors published are the same, and so is the result, unless its
owner has had it. -/
structure Stays (engine after : Engine Memory Conn) : Prop where
  state : after.state = engine.state
  attempts : after.attempts = engine.attempts
  reports : after.reports = engine.reports
  offered : after.offered = engine.offered ∨ after.offered = none

theorem Stays.refl (engine : Engine Memory Conn) : Stays engine engine :=
  ⟨rfl, rfl, rfl, .inl rfl⟩

theorem Stays.trans {last : Engine Memory Conn} (hfirst : Stays engine after)
    (hsecond : Stays after last) : Stays engine last where
  state := hsecond.state.trans hfirst.state
  attempts := hsecond.attempts.trans hfirst.attempts
  reports := hsecond.reports.trans hfirst.reports
  offered := by
    obtain hsame | hnone := hsecond.offered
    · rw [hsame]
      exact hfirst.offered
    · exact .inr hnone

theorem Passage.stays {cancelled : Bool} {seen : Option (Except ConnectError Conn)}
    (hpassage : Passage engine after cancelled seen) (hterminal : engine.state.isTerminal = true) :
    Stays engine after := by
  cases hpassage with
  | continues hbefore | resolves hbefore =>
      rw [hbefore] at hterminal
      cases hterminal
  | rests _ hstate hattempts hreports _ _ hoffered =>
      exact ⟨hstate, hattempts, hreports, .inl hoffered⟩
  | yields _ hstate hattempts hreports _ _ hoffered =>
      exact ⟨hstate, hattempts, hreports, .inr hoffered⟩

theorem Sound.stays (h : engine.Sound) (hterminal : engine.state.isTerminal = true)
    (moves : List (Move Memory Conn)) : Stays engine (moves.foldl Engine.move engine) := by
  induction moves generalizing engine with
  | nil => exact .refl engine
  | cons move moves ih =>
      have hfirst : Stays engine (engine.move move) := (h.passage_move move).stays hterminal
      have hnext : (engine.move move).state.isTerminal = true := by rw [hfirst.state, hterminal]
      exact hfirst.trans (ih (h.move move) hnext)

/-! ### A whole course -/

structure Course (Memory Conn : Type) where
  engine : Engine Memory Conn
  cancels : Nat
  sends : Nat
  results : List (Except ConnectError Conn)

namespace Course

variable {course : Course Memory Conn}

def create (strategy : Strategy Memory) (memory : Memory) : Course Memory Conn where
  engine := .create strategy memory
  cancels := 0
  sends := 0
  results := []

/-- A result is sent when it stops being owed, whether or not there is anyone to get it. -/
def follow (course : Course Memory Conn) (move : Move Memory Conn) : Course Memory Conn where
  engine := course.engine.move move
  cancels := course.cancels + (course.engine.cancels move).toNat
  sends := course.sends + (course.engine.owed && !(course.engine.move move).owed).toNat
  results := course.results ++ (course.engine.seen? move).toList

theorem engine_foldl_follow (course : Course Memory Conn) (moves : List (Move Memory Conn)) :
    (moves.foldl follow course).engine = moves.foldl Engine.move course.engine := by
  induction moves generalizing course with
  | nil => rfl
  | cons move moves ih => exact ih (course.follow move)

structure Sound (course : Course Memory Conn) : Prop where
  engine : course.engine.Sound
  cancels : course.cancels = (decide (course.engine.state = .cancelled)).toNat
  sends : course.sends = course.engine.state.isTerminal.toNat
  tells : ∀ result ∈ course.results, Tells result course.engine.state
  /-- Every result that was seen or can still be seen was sent. -/
  sent : course.results.length + course.engine.offered.toList.length ≤ course.sends

theorem sound_create (strategy : Strategy Memory) (memory : Memory) :
    (create strategy memory : Course Memory Conn).Sound where
  engine := Engine.sound_create strategy memory
  cancels := rfl
  sends := rfl
  tells := fun _ hmem => absurd hmem List.not_mem_nil
  sent := Nat.le_refl 0

theorem Sound.results_eq_nil (h : course.Sound) (hopen : course.engine.state.isTerminal = false) :
    course.results = [] := by
  rw [List.eq_nil_iff_forall_not_mem]
  intro result hmem
  have hterminal := (h.tells result hmem).isTerminal
  rw [hopen] at hterminal
  cases hterminal

theorem ne_cancelled_of_open {state : EngineState} (hopen : state.isTerminal = false) :
    state ≠ .cancelled := by
  rintro rfl
  cases hopen

theorem Sound.follow (h : course.Sound) (move : Move Memory Conn) : (course.follow move).Sound := by
  have hengine : (course.engine.move move).Sound := h.engine.move move
  have hpassage := h.engine.passage_move move
  generalize hcancelled : course.engine.cancels move = cancelled at hpassage
  generalize hseen : course.engine.seen? move = seen at hpassage
  cases hpassage with
  | continues hbefore hafter howed hoffered =>
      refine ⟨hengine, ?_, ?_, ?_, ?_⟩
      · simp [Course.follow, hcancelled, h.cancels, ne_cancelled_of_open hbefore,
          ne_cancelled_of_open hafter]
      · simp [Course.follow, h.sends, hengine.owed, hbefore, hafter]
      · simp [Course.follow, hseen, h.results_eq_nil hbefore]
      · simp [Course.follow, hseen, h.results_eq_nil hbefore, hoffered,
          h.engine.offered_eq_none hbefore]
  | resolves hbefore hafter howed htells hidle =>
      refine ⟨hengine, ?_, ?_, ?_, ?_⟩
      · simp [Course.follow, hcancelled, h.cancels, ne_cancelled_of_open hbefore]
      · simp [Course.follow, h.sends, h.engine.owed, hbefore, hafter, howed]
      · simp [Course.follow, hseen, h.results_eq_nil hbefore]
      · simp [Course.follow, hseen, h.results_eq_nil hbefore, h.sends, h.engine.owed, hbefore,
          howed]
  | rests hbefore hstate hattempts hreports howed hidle hoffered =>
      refine ⟨hengine, ?_, ?_, ?_, ?_⟩
      · simp [Course.follow, hcancelled, h.cancels, hstate]
      · simp [Course.follow, h.sends, hstate, howed]
      · simpa [Course.follow, hseen, hstate] using h.tells
      · simpa [Course.follow, hseen, hoffered, howed] using h.sent
  | yields hbefore hstate hattempts hreports howed hstage hoffered hhad =>
      refine ⟨hengine, ?_, ?_, ?_, ?_⟩
      · simp [Course.follow, hcancelled, h.cancels, hstate]
      · simp [Course.follow, h.sends, hstate, howed]
      · simp only [Course.follow, hseen, hstate, List.mem_append, Option.mem_toList]
        rintro result (hmem | hmem)
        · exact h.tells result hmem
        · exact h.engine.tells result (hhad result hmem)
      · have hlength : seen.toList.length ≤ course.engine.offered.toList.length := by
          cases seen with
          | none => exact Nat.zero_le _
          | some result => simp [Option.mem_def.mp (hhad result rfl)]
        have hsent := h.sent
        simp only [Course.follow, hseen, hoffered, howed, List.length_append, Option.toList_none,
          List.length_nil, Bool.and_not_self, Bool.toNat_false]
        omega

theorem Sound.run (h : course.Sound) (moves : List (Move Memory Conn)) :
    (moves.foldl Course.follow course).Sound := by
  induction moves generalizing course with
  | nil => exact h
  | cons move moves ih => exact ih (h.follow move)

/-- **One result.** Whatever the strategy decides, whatever becomes of the attempts, and whatever
order the sections of the work come in with starting, cancelling, dropping, and waiting: at most one
result is sent, and it is sent exactly when the engine is resolved. At most one result is seen, and
it says what the state says. The engine is cancelled at most once, and exactly when its state says
so. Once it is resolved, nothing changes its state, makes another attempt or publishes another
error, and no other result comes to be offered. -/
theorem resolved_once (strategy : Strategy Memory) (memory : Memory)
    (moves later : List (Move Memory Conn)) :
    let course := moves.foldl follow (create strategy memory)
    (course.sends ≤ 1 ∧ (course.sends = 1 ↔ course.engine.state.isTerminal = true)) ∧
      (course.results.length ≤ course.sends ∧
        ∀ result ∈ course.results, Tells result course.engine.state) ∧
      (course.cancels ≤ 1 ∧ (course.cancels = 1 ↔ course.engine.state = .cancelled)) ∧
      (course.engine.state.isTerminal = true →
        Stays course.engine (later.foldl follow course).engine) := by
  intro course
  have h : course.Sound := (sound_create strategy memory).run moves
  refine ⟨⟨?_, ?_⟩, ⟨?_, h.tells⟩, ⟨?_, ?_⟩, ?_⟩
  · rw [h.sends]
    exact Bool.toNat_le _
  · rw [h.sends, Bool.toNat_eq_one]
  · exact Nat.le_trans (Nat.le_add_right _ _) h.sent
  · rw [h.cancels]
    exact Bool.toNat_le _
  · rw [h.cancels, Bool.toNat_eq_one, decide_eq_true_iff]
  · intro hterminal
    rw [engine_foldl_follow course later]
    exact h.engine.stays hterminal later

end Course

end SessionMux.Engine
