import Mathlib.Data.Nat.Find
import Mathlib.Order.Monotone.Basic
import Mathlib.Tactic.IntervalCases
import SessionMux.Proofs.Connect.Delays
import SessionMux.Proofs.Connect.Resolution

/-!
# The budget of retries

The attempts are counted by the engine, the retries by its strategy. Left alone, an engine keeps the
two in step: before each attempt the strategy has counted as many retries as there were failures,
and there is one warning for each of them (`Tried`). So it ends with the first attempt that
succeeds, or with the one that finds the retries spent.
-/

namespace SessionMux

namespace BackoffConfig

variable {config : BackoffConfig} {retries : Nat}

def after (config : BackoffConfig) (retries : Nat) : Backoff :=
  { config, nextDelay := config.delay retries, counter := UInt32.ofNat retries }

theorem isExhausted_after (hfew : retries < UInt32.size) :
    (config.after retries).isExhausted = config.spends retries := by
  have hretries : (config.after retries).retries = retries := UInt32.toNat_ofNat_of_lt' hfew
  rw [Backoff.isExhausted, hretries]
  rfl

theorem schedule_after (hfew : retries < UInt32.size) (hunspent : config.spends retries = false)
    (hdouble : (config.delay retries).double?.isSome = true) :
    (config.after retries).schedule =
      (.after (config.delay retries), config.after (retries + 1)) := by
  obtain ⟨doubled, hdoubled⟩ := Option.isSome_iff_exists.mp hdouble
  rw [Backoff.schedule, isExhausted_after hfew, hunspent, if_neg Bool.false_ne_true]
  dsimp only [after]
  rw [hdoubled]
  dsimp only
  rw [delay_succ hdoubled, UInt32.ofNat_add]
  rfl

theorem schedule_after_of_spends (hfew : retries < UInt32.size)
    (hspent : config.spends retries = true) :
    (config.after retries).schedule = (.giveUp, config.after retries) := by
  rw [Backoff.schedule, isExhausted_after hfew, hspent, if_pos rfl]

theorem spends_eq {most : Nat} (hmost : config.maxRetries = some most) :
    config.spends retries = decide (most ≤ retries) := by
  rw [spends, hmost, Option.any_some]

end BackoffConfig

namespace Engine

variable {Conn : Type}

/-! ### What becomes of the attempts -/

inductive Fate (Conn : Type)
  | connection (connection : Conn)
  | fault (fault : Fault)
  /-- There is no answer within the time allowed. -/
  | silence

namespace Fate

def result (timeout : Span) : Fate Conn → Except Fault Conn
  | connection made => .ok made
  | fault cause => .error cause
  | silence => .error (timedOut timeout)

/-- Whether an attempt of this fate can give the answer. Only in silence is there none when it is
late. -/
def Gives (fate : Fate Conn) (late : Prop) : Answer Conn → Prop
  | .pending => late → fate = .silence
  | .connection made => fate = .connection made
  | .fault cause => fate = .fault cause
  | .crash => False

end Fate

def Fails (timeout : Span) (fates : Nat → Fate Conn) (faults : List Fault) : Prop :=
  ∀ place fault, faults[place]? = some fault → (fates (place + 1)).result timeout = .error fault

theorem Fails.append {timeout : Span} {fates : Nat → Fate Conn} {faults : List Fault}
    (h : Fails timeout fates faults) {fault : Fault}
    (hfault : (fates (faults.length + 1)).result timeout = .error fault) :
    Fails timeout fates (faults ++ [fault]) := by
  intro place failure hplace
  by_cases hlt : place < faults.length
  · rw [List.getElem?_append_left hlt] at hplace
    exact h place failure hplace
  · rw [List.getElem?_append_right (Nat.le_of_not_lt hlt), List.getElem?_singleton] at hplace
    obtain rfl : place = faults.length := by
      split at hplace
      · omega
      · cases hplace
    rw [Nat.sub_self, if_pos rfl] at hplace
    rw [← Option.some.inj hplace, hfault]

def warning (place : Nat) (fault : Fault) : ErrorReport where
  code := fault.errorCode
  level := .warning
  message := s!"connect attempt {place + 1} failed: {fault.message}"

def warnings (faults : List Fault) : List ErrorReport := faults.mapIdx warning

def surrender (attempts : Nat) (fault : Fault) : ErrorReport where
  code := fault.errorCode
  level := .error
  message := s!"giving up after {attempts} attempts: {fault.message}"

theorem warnings_append (faults : List Fault) (fault : Fault) :
    warnings (faults ++ [fault]) = warnings faults ++ [warning faults.length fault] := by
  rw [warnings, warnings, List.mapIdx_append, List.mapIdx_singleton, Nat.zero_add]

/-! ### An engine left alone -/

/-- The turns of an engine that is started once and waited for, and that nobody cancels. -/
structure Stint (Conn : Type) where
  config : BackoffConfig
  clock : Nat → Nat
  answer : Nat → Answer Conn
  clock_mono : Monotone clock
  clock_unbounded : ∀ time, ∃ turn, time ≤ clock turn

namespace Stint

def engine (stint : Stint Conn) : Nat → Engine Backoff Conn
  | 0 => [.start, .await].foldl Engine.move (create .backoff (.create stint.config))
  | turn + 1 => ((stint.engine turn).step (stint.clock turn) (stint.answer turn)).1

def Follows (stint : Stint Conn) (fates : Nat → Fate Conn) : Prop :=
  ∀ turn attempt deadline, (stint.engine turn).stage = .checking attempt deadline →
    (fates attempt).Gives (deadline ≤ stint.clock turn) (stint.answer turn)

/-- Between the attempt with a number, counted from zero, and the next one, the engine waits for the
delay of that number: it goes on at the first turn after the failure at which the delay is over. -/
def Rests (stint : Stint Conn) (place : Nat) : Prop :=
  let delay := stint.config.delay place
  ∃ failed woken, failed < woken ∧
    (∃ fault, (stint.engine failed).stage = .concluding (place + 1) (.error fault)) ∧
    (∀ turn, failed < turn → turn ≤ woken →
      (stint.engine turn).state = .scheduled (place + 2) delay) ∧
    (∀ turn, failed < turn → turn < woken →
      stint.clock turn < stint.clock failed + delay.millisUp) ∧
    stint.clock failed + delay.millisUp ≤ stint.clock woken ∧
    (stint.engine (woken + 1)).stage = .starting (place + 2)

end Stint

/-! ### What one section of the work does -/

/-- An engine after these failures, wherever it stands on the way to the next one. -/
structure Tried (config : BackoffConfig) (faults : List Fault) (attempts : Nat)
    (engine : Engine Backoff Conn) : Prop where
  strategy : engine.strategy = .backoff
  memory : engine.memory = config.after faults.length
  unresolved : engine.state.isTerminal = false
  owner : engine.owner = .waiter
  owed : engine.owed = true
  attempts : engine.attempts = attempts
  reports : engine.reports = warnings faults

namespace Tried

variable {config : BackoffConfig} {faults : List Fault} {attempts attempt deadline : Nat}
  {engine : Engine Backoff Conn} {fault : Fault}

theorem ne_cancelled (h : engine.Tried config faults attempts) : engine.state ≠ .cancelled :=
  Course.ne_cancelled_of_open h.unresolved

theorem connectTimeout_eq (h : engine.Tried config faults attempts) :
    engine.strategy.connectTimeout engine.memory = config.connectTimeout := by
  rw [h.strategy, h.memory]
  rfl

/-- Only the stage changes. -/
theorem moved (h : engine.Tried config faults attempts) (stage : EngineStage Conn) :
    { engine with stage }.Tried config faults attempts :=
  ⟨h.strategy, h.memory, h.unresolved, h.owner, h.owed, h.attempts, h.reports⟩

theorem step_starting (h : engine.Tried config faults attempts) (clock : Nat)
    (answer : Answer Conn) (hstage : engine.stage = .starting attempt) :
    (engine.step clock answer).1.Tried config faults attempts ∧
      (engine.step clock answer).1.stage = .calling attempt := by
  rw [step, hstage]
  dsimp only
  rw [proceed, h.unresolved, if_neg Bool.false_ne_true]
  exact ⟨⟨h.strategy, h.memory, rfl, h.owner, h.owed, h.attempts, h.reports⟩, rfl⟩

theorem step_calling (h : engine.Tried config faults attempts) (clock : Nat)
    (answer : Answer Conn) (hstage : engine.stage = .calling attempt) :
    (engine.step clock answer).1.Tried config faults (attempts + 1) ∧
      (engine.step clock answer).1.stage =
        .checking attempt (clock + config.connectTimeout.millisUp) := by
  rw [step, hstage]
  dsimp only
  rw [if_neg h.ne_cancelled, h.connectTimeout_eq]
  exact ⟨⟨h.strategy, h.memory, h.unresolved, h.owner, h.owed, by rw [h.attempts], h.reports⟩, rfl⟩

theorem step_connecting (h : engine.Tried config faults attempts) (clock : Nat)
    (answer : Answer Conn) (hstage : engine.stage = .connecting attempt deadline) :
    (engine.step clock answer).1 = { engine with stage := .checking attempt deadline } := by
  rw [step, hstage]
  dsimp only
  rw [if_neg h.ne_cancelled]

theorem step_checking (h : engine.Tried config faults attempts) {clock : Nat}
    {answer : Answer Conn} {fate : Fate Conn}
    (hstage : engine.stage = .checking attempt deadline)
    (hgives : fate.Gives (deadline ≤ clock) answer) :
    (engine.step clock answer).1 =
        { engine with stage := .concluding attempt (fate.result config.connectTimeout) } ∨
      clock < deadline ∧
        (engine.step clock answer).1 = { engine with stage := .connecting attempt deadline } := by
  rw [step, hstage]
  cases answer with
  | connection connection =>
      obtain rfl : fate = .connection connection := hgives
      exact .inl rfl
  | fault fault =>
      obtain rfl : fate = .fault fault := hgives
      exact .inl rfl
  | crash => exact hgives.elim
  | pending =>
      dsimp only
      by_cases hlate : deadline ≤ clock
      · obtain rfl : fate = .silence := hgives hlate
        rw [if_pos hlate, h.connectTimeout_eq]
        exact .inl rfl
      · rw [if_neg hlate]
        exact .inr ⟨Nat.lt_of_not_le hlate, rfl⟩

theorem step_failed (h : engine.Tried config faults attempts) (clock : Nat)
    (answer : Answer Conn) (hstage : engine.stage = .concluding (faults.length + 1) (.error fault))
    (hfew : faults.length < UInt32.size) (hunspent : config.spends faults.length = false)
    (hdouble : (config.delay faults.length).double?.isSome = true) :
    let after := (engine.step clock answer).1
    after.Tried config (faults ++ [fault]) attempts ∧
      after.state = .scheduled (faults.length + 2) (config.delay faults.length) ∧
      after.stage =
        .resting (faults.length + 2) (clock + (config.delay faults.length).millisUp) := by
  have hschedule : engine.strategy.schedule engine.memory =
      (.after (config.delay faults.length), config.after (faults.length + 1)) := by
    rw [h.strategy, h.memory]
    exact BackoffConfig.schedule_after hfew hunspent hdouble
  rw [step, hstage]
  dsimp only
  rw [fail, h.unresolved, if_neg Bool.false_ne_true, hschedule]
  refine ⟨⟨h.strategy, ?_, rfl, h.owner, h.owed, h.attempts, ?_⟩, rfl, rfl⟩
  · rw [List.length_append, List.length_singleton]
    rfl
  · rw [warnings_append, ← h.reports]
    rfl

/-- With the retries spent, the failure is that of the engine. -/
theorem step_surrendered (h : engine.Tried config faults attempts) (clock : Nat)
    (answer : Answer Conn) (hstage : engine.stage = .concluding (faults.length + 1) (.error fault))
    (hfew : faults.length < UInt32.size) (hspent : config.spends faults.length = true) :
    let after := (engine.step clock answer).1
    after.stage = .over ∧ after.attempts = attempts ∧
      after.reports = warnings faults ++ [surrender (faults.length + 1) fault] ∧
      after.state = .failed ∧
      after.seen? .take = some (.error (.exhausted (faults.length + 1) fault)) := by
  have hschedule : engine.strategy.schedule engine.memory =
      (.giveUp, config.after faults.length) := by
    rw [h.strategy, h.memory]
    exact BackoffConfig.schedule_after_of_spends hfew hspent
  rw [step, hstage]
  dsimp only
  rw [fail, h.unresolved, if_neg Bool.false_ne_true, hschedule]
  simp [report, refuse, h.owed, h.owner, h.reports, h.attempts, seen?, take?, surrender]

theorem step_connected (h : engine.Tried config faults attempts) (clock : Nat)
    (answer : Answer Conn) {connection : Conn}
    (hstage : engine.stage = .concluding attempt (.ok connection)) :
    let after := (engine.step clock answer).1
    after.stage = .over ∧ after.attempts = attempts ∧ after.reports = warnings faults ∧
      after.state = .connected ∧ after.seen? .take = some (.ok connection) := by
  rw [step, hstage]
  dsimp only
  rw [complete]
  simp [h.unresolved, h.owed, h.owner, h.reports, h.attempts, seen?, take?]

theorem step_resting (h : engine.Tried config faults attempts) (clock : Nat)
    (answer : Answer Conn) (hstage : engine.stage = .resting attempt deadline) :
    (engine.step clock answer).1 =
      if deadline ≤ clock then { engine with stage := .starting attempt } else engine := by
  rw [step, hstage]
  dsimp only
  rw [if_neg h.ne_cancelled]
  split <;> rfl

end Tried

/-! ### From attempt to attempt -/

namespace Stint

variable {stint : Stint Conn} {fates : Nat → Fate Conn} {faults : List Fault}
  {attempts attempt turn deadline : Nat}

theorem engine_succ (stint : Stint Conn) (turn : Nat) :
    stint.engine (turn + 1) =
      ((stint.engine turn).step (stint.clock turn) (stint.answer turn)).1 := rfl

theorem engine_of_over (hstage : (stint.engine turn).stage = .over) {later : Nat}
    (hle : turn ≤ later) : stint.engine later = stint.engine turn := by
  induction later, hle using Nat.le_induction with
  | base => rfl
  | succ later _ ih => rw [engine_succ, ih, step, hstage]

theorem tried_zero (stint : Stint Conn) :
    (stint.engine 0).Tried stint.config [] 0 ∧ (stint.engine 0).stage = .starting 1 :=
  ⟨⟨rfl, rfl, rfl, rfl, rfl, rfl, rfl⟩, rfl⟩

theorem begins (h : (stint.engine turn).Tried stint.config faults attempts)
    (hstage : (stint.engine turn).stage = .starting attempt) :
    ∃ deadline, (stint.engine (turn + 2)).Tried stint.config faults (attempts + 1) ∧
      (stint.engine (turn + 2)).stage = .checking attempt deadline := by
  obtain ⟨hstarted, hcalling⟩ :=
    h.step_starting (stint.clock turn) (stint.answer turn) hstage
  exact ⟨_, hstarted.step_calling _ _ hcalling⟩

/-- An attempt comes to its result, at the latest when its time is up. The induction is on the turns
that are left until then; every second one looks for an answer. -/
theorem concludes (hfollows : stint.Follows fates)
    (h : (stint.engine turn).Tried stint.config faults attempts)
    (hstage : (stint.engine turn).stage = .checking attempt deadline) :
    ∃ later, (stint.engine later).Tried stint.config faults attempts ∧
      (stint.engine later).stage =
        .concluding attempt ((fates attempt).result stint.config.connectTimeout) := by
  obtain ⟨last, hlast⟩ := stint.clock_unbounded deadline
  generalize hleft : last - turn = left
  induction left using Nat.strong_induction_on generalizing turn with
  | _ left ih =>
      obtain hconcluded | ⟨hearly, hpending⟩ :=
        h.step_checking hstage (hfollows turn attempt deadline hstage)
      · refine ⟨turn + 1, ?_⟩
        rw [engine_succ, hconcluded]
        exact ⟨h.moved _, rfl⟩
      · have hbefore : turn < last := by
          by_contra hbehind
          have hlate := stint.clock_mono (Nat.le_of_not_lt hbehind)
          omega
        have hnext : stint.engine (turn + 2) =
            { stint.engine turn with stage := .checking attempt deadline } := by
          rw [engine_succ, engine_succ, hpending, (h.moved _).step_connecting _ _ rfl]
        have htried : (stint.engine (turn + 2)).Tried stint.config faults attempts := by
          rw [hnext]
          exact h.moved _
        exact ih (last - (turn + 2)) (by omega) htried (by rw [hnext]) rfl

/-- A rest ends at the first turn at which its time is up, and nothing happens before. -/
theorem rests_until (h : (stint.engine turn).Tried stint.config faults attempts)
    (hstage : (stint.engine turn).stage = .resting attempt deadline) :
    ∃ woken, turn ≤ woken ∧ deadline ≤ stint.clock woken ∧
      (∀ earlier, turn ≤ earlier → earlier < woken → stint.clock earlier < deadline) ∧
      (∀ earlier, turn ≤ earlier → earlier ≤ woken → stint.engine earlier = stint.engine turn) ∧
      stint.engine (woken + 1) = { stint.engine turn with stage := .starting attempt } := by
  have hends : ∃ woken, turn ≤ woken ∧ deadline ≤ stint.clock woken := by
    obtain ⟨last, hlast⟩ := stint.clock_unbounded deadline
    exact ⟨max turn last, le_max_left _ _, hlast.trans (stint.clock_mono (le_max_right _ _))⟩
  obtain ⟨hle, hdue⟩ := Nat.find_spec hends
  have hearly : ∀ earlier, turn ≤ earlier → earlier < Nat.find hends →
      stint.clock earlier < deadline := by
    intro earlier hturn hearlier
    by_contra hlate
    exact Nat.find_min hends hearlier ⟨hturn, Nat.le_of_not_lt hlate⟩
  have hsame : ∀ earlier, turn ≤ earlier → earlier ≤ Nat.find hends →
      stint.engine earlier = stint.engine turn := by
    intro earlier hturn
    induction earlier, hturn using Nat.le_induction with
    | base => exact fun _ => rfl
    | succ earlier hturn ih =>
        intro hearlier
        have hclock := hearly earlier hturn hearlier
        rw [engine_succ, ih (Nat.le_of_succ_le hearlier), h.step_resting _ _ hstage,
          if_neg (Nat.not_le_of_lt hclock)]
  refine ⟨Nat.find hends, hle, hdue, hearly, hsame, ?_⟩
  rw [engine_succ, hsame _ hle (Nat.le_refl _), h.step_resting _ _ hstage, if_pos hdue]

/-- A failure that may be retried: the engine rests, and then it is where it was, one failure
further. -/
theorem retries (h : (stint.engine turn).Tried stint.config faults attempts) {fault : Fault}
    (hstage : (stint.engine turn).stage = .concluding (faults.length + 1) (.error fault))
    (hfew : faults.length < UInt32.size) (hunspent : stint.config.spends faults.length = false)
    (hdouble : (stint.config.delay faults.length).double?.isSome = true) :
    stint.Rests faults.length ∧
      ∃ later, (stint.engine later).Tried stint.config (faults ++ [fault]) attempts ∧
        (stint.engine later).stage = .starting ((faults ++ [fault]).length + 1) := by
  obtain ⟨hfailed, hscheduled, hresting⟩ :=
    h.step_failed (stint.clock turn) (stint.answer turn) hstage hfew hunspent hdouble
  rw [← engine_succ] at hfailed hscheduled hresting
  obtain ⟨woken, hle, hdue, hearly, hsame, hwoken⟩ := rests_until hfailed hresting
  refine ⟨⟨turn, woken, hle, ⟨fault, hstage⟩, ?_, hearly, hdue, ?_⟩, woken + 1, ?_, ?_⟩
  · intro earlier hturn hearlier
    rw [hsame earlier hturn hearlier, hscheduled]
  · rw [hwoken]
  · rw [hwoken]
    exact hfailed.moved _
  · rw [hwoken, List.length_append, List.length_singleton]

/-! ### The end -/

/-- How an engine ends that has made one more attempt than there are faults. -/
def Ends (stint : Stint Conn) (faults : List Fault) (last : Except Fault Conn) : Prop :=
  ∃ turn, ∀ later ≥ turn,
    let engine := stint.engine later
    engine.stage = .over ∧ engine.attempts = faults.length + 1 ∧
      match last with
      | .ok connection =>
        engine.reports = warnings faults ∧ engine.state = .connected ∧
          engine.seen? .take = some (.ok connection)
      | .error fault =>
        engine.reports = warnings faults ++ [surrender (faults.length + 1) fault] ∧
          engine.state = .failed ∧
          engine.seen? .take = some (.error (.exhausted (faults.length + 1) fault))

theorem ends (h : (stint.engine turn).Tried stint.config faults (faults.length + 1))
    {last : Except Fault Conn}
    (hstage : (stint.engine turn).stage = .concluding (faults.length + 1) last)
    (hfew : faults.length < UInt32.size)
    (hspent : last.toOption = none → stint.config.spends faults.length = true) :
    stint.Ends faults last := by
  refine ⟨turn + 1, ?_⟩
  intro later hlater
  cases last with
  | ok connection =>
      have hend := h.step_connected (stint.clock turn) (stint.answer turn) hstage
      rw [← engine_succ] at hend
      rw [engine_of_over hend.1 hlater]
      exact hend
  | error fault =>
      have hend :=
        h.step_surrendered (stint.clock turn) (stint.answer turn) hstage hfew (hspent rfl)
      rw [← engine_succ] at hend
      rw [engine_of_over hend.1 hlater]
      exact hend

/-- From the start of an attempt on. The induction is on the retries that are left. -/
theorem runs_out {most : Nat} (hmost : stint.config.maxRetries = some most)
    (hfew : most < UInt32.size)
    (hdoubles : ∀ place < most, (stint.config.delay place).double?.isSome = true)
    (hfollows : stint.Follows fates)
    (h : (stint.engine turn).Tried stint.config faults faults.length)
    (hstage : (stint.engine turn).stage = .starting (faults.length + 1))
    (hwithin : faults.length ≤ most) (hfails : Fails stint.config.connectTimeout fates faults)
    (hrests : ∀ place < faults.length, stint.Rests place) :
    ∃ faults, faults.length ≤ most ∧ Fails stint.config.connectTimeout fates faults ∧
      (∀ place < faults.length, stint.Rests place) ∧
      let last := (fates (faults.length + 1)).result stint.config.connectTimeout
      (last.toOption = none → faults.length = most) ∧ stint.Ends faults last := by
  generalize hleft : most - faults.length = left
  induction left generalizing faults turn with
  | zero =>
      obtain ⟨deadline, hbegun, hchecking⟩ := begins h hstage
      obtain ⟨later, hconcluded, hresult⟩ := concludes hfollows hbegun hchecking
      have hspent : stint.config.spends faults.length = true := by
        rw [BackoffConfig.spends_eq hmost, decide_eq_true_eq]
        omega
      exact ⟨faults, hwithin, hfails, hrests, fun _ => by omega,
        ends hconcluded hresult (Nat.lt_of_le_of_lt hwithin hfew) fun _ => hspent⟩
  | succ left ih =>
      obtain ⟨deadline, hbegun, hchecking⟩ := begins h hstage
      obtain ⟨later, hconcluded, hresult⟩ := concludes hfollows hbegun hchecking
      cases hlast : (fates (faults.length + 1)).result stint.config.connectTimeout with
      | ok connection =>
          rw [hlast] at hresult
          refine ⟨faults, hwithin, hfails, hrests, ?_⟩
          dsimp only
          rw [hlast]
          exact ⟨nofun, ends hconcluded hresult (Nat.lt_of_le_of_lt hwithin hfew) nofun⟩
      | error fault =>
          rw [hlast] at hresult
          have hunspent : stint.config.spends faults.length = false := by
            rw [BackoffConfig.spends_eq hmost, decide_eq_false_iff_not]
            omega
          obtain ⟨hrest, next, htried, hstarting⟩ :=
            retries hconcluded hresult (by omega) hunspent (hdoubles faults.length (by omega))
          have hlength : (faults ++ [fault]).length = faults.length + 1 := by
            rw [List.length_append, List.length_singleton]
          rw [← hlength] at htried
          refine ih htried hstarting (by omega) (hfails.append hlast) ?_ (by omega)
          rw [hlength]
          intro place hplace
          rw [Nat.lt_succ_iff_lt_or_eq] at hplace
          obtain hlt | rfl := hplace
          · exact hrests place hlt
          · exact hrest

/-- **As many attempts as the budget allows.** Take an engine with a backoff that may retry `most`
times, fewer than `2 ^ 32 - 1`, and can double its delays so often. Somebody waits for it, nobody
cancels it, and its attempts meet whatever fates, silence being a timeout. There are at most `most`
faults before the attempt that counts, and between any two attempts the engine rests for the delay
of that number. With a connection the engine ends connected; with a fault only when all retries are
used, and then it fails. It has made one attempt more than there were faults, and published a
warning with the code of each of them; a failed engine has published the last failure as an error,
and hands it over with the number of the attempts. -/
theorem retry_budget (stint : Stint Conn) (fates : Nat → Fate Conn) {most : Nat}
    (hmost : stint.config.maxRetries = some most) (hfew : most < UInt32.size - 1)
    (hdoubles : ∀ place < most, (stint.config.delay place).double?.isSome = true)
    (hfollows : stint.Follows fates) :
    (∃ faults, faults.length ≤ most ∧ Fails stint.config.connectTimeout fates faults ∧
      (∀ place < faults.length, stint.Rests place) ∧
      let last := (fates (faults.length + 1)).result stint.config.connectTimeout
      (last.toOption = none → faults.length = most) ∧ stint.Ends faults last) ∧
    (timedOut stint.config.connectTimeout).errorCode = .timedOut := by
  obtain ⟨htried, hstage⟩ := stint.tried_zero
  exact ⟨runs_out hmost (by omega) hdoubles hfollows htried hstage (Nat.zero_le most) nofun nofun,
    rfl⟩

def secondTry : Stint Nat where
  config := { BackoffConfig.default with maxRetries := some 1 }
  clock turn := 20000 * turn
  answer turn := if turn < 5 then .fault (.plain .connectionRefused) else .connection 7
  clock_mono := fun _ _ hle => Nat.mul_le_mul_left 20000 hle
  clock_unbounded := fun time => ⟨time, by omega⟩

theorem retry_budget_of_secondTry :
    ∃ turn, ∀ later ≥ turn, (secondTry.engine later).attempts = 2 ∧
      (secondTry.engine later).state = .connected := by
  let fates (attempt : Nat) : Fate Nat :=
    if attempt = 1 then .fault (.plain .connectionRefused) else .connection 7
  have hends : (secondTry.engine 9).stage = .over := rfl
  have hfollows : secondTry.Follows fates := by
    intro turn attempt deadline hstage
    by_cases hearly : turn < 9
    · interval_cases turn <;> cases hstage <;> rfl
    · have hover : (secondTry.engine turn).stage = .over := by
        rw [engine_of_over hends (Nat.le_of_not_lt hearly), hends]
      rw [hover] at hstage
      cases hstage
  obtain ⟨⟨faults, hwithin, -, -, hlast, turn, hend⟩, -⟩ :=
    retry_budget secondTry fates rfl (by decide) (by decide) hfollows
  obtain hnone | hone : faults.length = 0 ∨ faults.length = 1 := by omega
  · rw [hnone] at hlast
    cases hlast rfl
  · rw [hone] at hend
    exact ⟨turn, fun later hlater => ⟨(hend later hlater).2.1, (hend later hlater).2.2.2.1⟩⟩

end Stint

end Engine

end SessionMux
