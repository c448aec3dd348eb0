import Mathlib.Algebra.Ring.Nat
import Mathlib.Data.List.Range
import SessionMux.Settings.Load

/-!
# The delays of a backoff that doubles

Every delay is worked out from the one before. Whatever the calls, the delays that were returned
since the last success are the first ones of the configuration, and the next one stands by
(`Backoff.Sound`). The retries are counted beside it. As long as the counter does not start over,
the count is the number of these delays (`Backoff.Counted`).
-/

namespace SessionMux

namespace BackoffConfig

/-- The delay with a number, counted from zero, as long as the ones before can be doubled. -/
def delay (config : BackoffConfig) : Nat → Span
  | 0 => config.initial
  | place + 1 => { nanos := min (2 ^ (place + 1) * config.initial.nanos) config.longest.nanos }

def spends (config : BackoffConfig) (retries : Nat) : Bool := config.maxRetries.any (· ≤ retries)

variable {config : BackoffConfig}

theorem spends_iff {retries : Nat} :
    config.spends retries = true ↔ ∃ most, config.maxRetries = some most ∧ most ≤ retries := by
  rw [spends, Option.any_eq_true]
  simp only [decide_eq_true_eq]

theorem spends_mono {retries later : Nat} (hspends : config.spends retries = true)
    (hle : retries ≤ later) : config.spends later = true := by
  rw [spends_iff] at hspends ⊢
  obtain ⟨most, hmost, hreached⟩ := hspends
  exact ⟨most, hmost, Nat.le_trans hreached hle⟩

theorem double?_eq_some {span doubled : Span} (hdouble : span.double? = some doubled) :
    doubled.nanos = 2 * span.nanos := by
  rw [Span.double?] at hdouble
  split at hdouble
  · cases hdouble
    rfl
  · cases hdouble

theorem double?_isSome_iff {span : Span} :
    span.double?.isSome = true ↔ 2 * span.nanos < Span.bound := by
  rw [Span.double?]
  split <;> simp_all

/-- Capping at every step is the same as capping once. -/
theorem delay_succ {place : Nat} {doubled : Span}
    (hdouble : (config.delay place).double? = some doubled) :
    doubled.min config.longest = config.delay (place + 1) := by
  have hnanos := double?_eq_some hdouble
  rw [Span.min, delay, hnanos]
  congr 1
  cases place with
  | zero => rfl
  | succ place =>
      have hpow : 2 ^ (place + 1 + 1) * config.initial.nanos =
          2 * (2 ^ (place + 1) * config.initial.nanos) := by
        rw [Nat.pow_succ', Nat.mul_assoc]
      rw [delay, hpow]
      generalize 2 ^ (place + 1) * config.initial.nanos = uncapped
      change min (2 * min uncapped _) _ = _
      omega

theorem delay_le_longest {place : Nat} (hlater : 0 < place) :
    (config.delay place).nanos ≤ config.longest.nanos := by
  obtain ⟨before, rfl⟩ := Nat.exists_eq_succ_of_ne_zero hlater.ne'
  exact Nat.min_le_right _ _

theorem delay_mono {place later : Nat} (hplace : 0 < place) (hle : place ≤ later) :
    (config.delay place).nanos ≤ (config.delay later).nanos := by
  obtain ⟨before, rfl⟩ := Nat.exists_eq_succ_of_ne_zero hplace.ne'
  obtain ⟨last, rfl⟩ := Nat.exists_eq_succ_of_ne_zero (by omega : later ≠ 0)
  have hpow : 2 ^ (before + 1) * config.initial.nanos ≤ 2 ^ (last + 1) * config.initial.nanos := by
    apply Nat.mul_le_mul_right
    exact Nat.pow_le_pow_right Nat.two_pos hle
  change min _ _ ≤ min _ _
  omega

/-- A first delay within the limit is no exception. -/
theorem initial_le_delay (hinitial : config.initial.nanos ≤ config.longest.nanos) (place : Nat) :
    config.initial.nanos ≤ (config.delay place).nanos := by
  cases place with
  | zero => exact Nat.le_refl _
  | succ place =>
      have hpow : config.initial.nanos ≤ 2 ^ (place + 1) * config.initial.nanos :=
        Nat.le_mul_of_pos_left _ (Nat.two_pow_pos _)
      change _ ≤ min _ _
      omega

theorem double?_delay_isSome (hinitial : config.initial.double?.isSome = true)
    (hlongest : config.longest.double?.isSome = true) (place : Nat) :
    (config.delay place).double?.isSome = true := by
  cases place with
  | zero => exact hinitial
  | succ place =>
      rw [double?_isSome_iff] at hlongest ⊢
      exact Nat.lt_of_le_of_lt (Nat.mul_le_mul_left 2 (delay_le_longest (Nat.succ_pos place)))
        hlongest

end BackoffConfig

def Retry.delay? : Retry → Option Span
  | after delay => some delay
  | _ => none

namespace Backoff

open BackoffConfig

inductive Call
  | failed
  | succeeded

structure Streak where
  backoff : Backoff
  decided : List Retry

namespace Streak

def fresh (config : BackoffConfig) : Streak where
  backoff := create config
  decided := []

def follow (streak : Streak) : Call → Streak
  | .failed =>
    { backoff := streak.backoff.schedule.2
      decided := streak.decided ++ [streak.backoff.schedule.1] }
  | .succeeded =>
    { backoff := streak.backoff.succeed
      decided := [] }

def given (streak : Streak) : List Span := streak.decided.filterMap Retry.delay?

end Streak

/-! ### The delays since the last success -/

variable {config : BackoffConfig} {streak : Streak}

/-- **What a strategy decides after a failed attempt**, and what it remembers. -/
theorem schedule_cases (backoff : Backoff) :
    backoff.isExhausted = true ∧ backoff.schedule = (.giveUp, backoff) ∨
    backoff.isExhausted = false ∧ backoff.nextDelay.double? = none ∧
      backoff.schedule = (.overflow, { backoff with counter := backoff.counter + 1 }) ∨
    backoff.isExhausted = false ∧ ∃ doubled, backoff.nextDelay.double? = some doubled ∧
      backoff.schedule = (.after backoff.nextDelay,
        { backoff with
          counter := backoff.counter + 1
          nextDelay := doubled.min backoff.config.longest }) := by
  rw [schedule]
  cases backoff.isExhausted with
  | true => exact .inl ⟨rfl, rfl⟩
  | false =>
      rw [if_neg Bool.false_ne_true]
      dsimp only
      cases backoff.nextDelay.double? with
      | none => exact .inr (.inl ⟨rfl, rfl, rfl⟩)
      | some doubled => exact .inr (.inr ⟨rfl, doubled, rfl, rfl⟩)

theorem given_append (backoff : Backoff) (decided : List Retry) (retry : Retry) :
    ({ backoff, decided := decided ++ [retry] } : Streak).given =
      ({ backoff, decided } : Streak).given ++ retry.delay?.toList := by
  rw [Streak.given, Streak.given, List.filterMap_append]
  cases retry <;> rfl

/-- Nothing but a delay changes what was given. -/
theorem given_same (streak : Streak) (backoff : Backoff) {retry : Retry}
    (hnone : retry.delay? = none) :
    ({ backoff, decided := streak.decided ++ [retry] } : Streak).given = streak.given := by
  rw [given_append, hnone]
  exact List.append_nil _

theorem given_after (streak : Streak) (backoff : Backoff) (delay : Span) :
    ({ backoff, decided := streak.decided ++ [.after delay] } : Streak).given =
      streak.given ++ [delay] := given_append ..

structure Sound (config : BackoffConfig) (streak : Streak) : Prop where
  config_eq : streak.backoff.config = config
  given : streak.given = (List.range streak.given.length).map config.delay
  next : streak.backoff.nextDelay = config.delay streak.given.length
  overflow : .overflow ∈ streak.decided → (config.delay streak.given.length).double? = none

theorem sound_fresh (config : BackoffConfig) : Sound config (.fresh config) where
  config_eq := rfl
  given := rfl
  next := rfl
  overflow := nofun

/-- A decision that is no delay leaves what was given and what stands by. -/
theorem Sound.same {backoff : Backoff} {retry : Retry} (h : Sound config streak)
    (hconfig : backoff.config = config) (hnext : backoff.nextDelay = streak.backoff.nextDelay)
    (hnone : retry.delay? = none)
    (hoverflow : retry = .overflow → streak.backoff.nextDelay.double? = none) :
    Sound config { backoff, decided := streak.decided ++ [retry] } := by
  have hgiven := given_same streak backoff hnone
  refine ⟨hconfig, ?_, ?_, ?_⟩
  · rw [hgiven]
    exact h.given
  · rw [hgiven, ← h.next]
    exact hnext
  · rw [hgiven, List.mem_append, List.mem_singleton]
    rintro (hmem | heq)
    · exact h.overflow hmem
    · rw [← h.next]
      exact hoverflow heq.symm

theorem Sound.failed (h : Sound config streak) : Sound config (streak.follow .failed) := by
  rw [Streak.follow]
  obtain ⟨-, hschedule⟩ | ⟨-, hdouble, hschedule⟩ | ⟨-, doubled, hdouble, hschedule⟩ :=
    streak.backoff.schedule_cases <;> rw [hschedule]
  · exact h.same h.config_eq rfl rfl nofun
  · exact h.same h.config_eq rfl rfl fun _ => hdouble
  · rw [h.next] at hdouble
    refine ⟨h.config_eq, ?_, ?_, ?_⟩
    · rw [given_after, List.length_append, List.length_singleton, List.range_succ, List.map_append,
        ← h.given, h.next, List.map_singleton]
    · rw [given_after, List.length_append, List.length_singleton, ← delay_succ hdouble,
        ← h.config_eq]
    · rw [List.mem_append, List.mem_singleton]
      rintro (hmem | hlast)
      · rw [h.overflow hmem] at hdouble
        cases hdouble
      · cases hlast

theorem Sound.doubles (h : Sound config streak)
    (hdoubles : ∀ place, (config.delay place).double?.isSome = true) :
    streak.backoff.nextDelay.double? ≠ none := by
  rw [h.next, ← Option.isSome_iff_ne_none]
  exact hdoubles _

/-- The count of the retries, while it is below `2 ^ 32`. -/
structure Counted (config : BackoffConfig) (streak : Streak) : Prop where
  retries : streak.backoff.retries = streak.given.length
  gaveUp : .giveUp ∈ streak.decided → config.spends streak.given.length = true
  length : .giveUp ∉ streak.decided → streak.decided.length = streak.given.length

theorem counted_fresh (config : BackoffConfig) : Counted config (.fresh config) where
  retries := rfl
  gaveUp := nofun
  length := fun _ => rfl

theorem Counted.isExhausted_eq (h : Counted config streak) (hsound : Sound config streak) :
    streak.backoff.isExhausted = config.spends streak.given.length := by
  rw [isExhausted, hsound.config_eq, h.retries, spends]

theorem Counted.failed (h : Counted config streak) (hsound : Sound config streak)
    (hdoubles : ∀ place, (config.delay place).double?.isSome = true)
    (hfew : (streak.follow .failed).given.length < UInt32.size) :
    Counted config (streak.follow .failed) := by
  have hexhausted := h.isExhausted_eq hsound
  rw [Streak.follow] at hfew ⊢
  obtain ⟨hspent, hschedule⟩ | ⟨-, hdouble, -⟩ | ⟨hunspent, doubled, -, hschedule⟩ :=
    streak.backoff.schedule_cases
  · rw [hschedule]
    have hgiven : ({ streak with decided := streak.decided ++ [.giveUp] } : Streak).given =
        streak.given := given_same streak _ rfl
    refine ⟨?_, ?_, ?_⟩
    · rw [hgiven]
      exact h.retries
    · rw [hgiven, ← hexhausted]
      exact fun _ => hspent
    · exact fun hnever => absurd (List.mem_append_right _ (List.mem_singleton_self _)) hnever
  · exact absurd hdouble (hsound.doubles hdoubles)
  · have hnever : .giveUp ∉ streak.decided := by
      intro hmem
      rw [hexhausted, h.gaveUp hmem] at hunspent
      cases hunspent
    rw [hschedule] at hfew ⊢
    rw [given_after, List.length_append, List.length_singleton, ← h.retries] at hfew
    refine ⟨?_, ?_, ?_⟩
    · rw [given_after, List.length_append, List.length_singleton, ← h.retries,
        Backoff.retries, UInt32.toNat_add]
      exact Nat.mod_eq_of_lt hfew
    · rw [List.mem_append, List.mem_singleton]
      rintro (hmem | hlast)
      · exact absurd hmem hnever
      · cases hlast
    · intro _
      rw [given_after, List.length_append, List.length_append, h.length hnever,
        List.length_singleton, List.length_singleton]

/-- An attempt that succeeds starts anew. -/
theorem follow_succeeded (h : streak.backoff.config = config) :
    streak.follow .succeeded = .fresh config := by
  rw [Streak.follow, succeed, h, Streak.fresh]

theorem follow_run {motive : Streak → Prop} (hfresh : motive (.fresh config))
    (hstep : ∀ streak call, motive streak → motive (streak.follow call)) (calls : List Call) :
    motive (calls.foldl Streak.follow (.fresh config)) := by
  induction calls using List.reverseRecOn with
  | nil => exact hfresh
  | append_singleton calls call ih =>
      rw [List.foldl_append]
      exact hstep _ call ih

theorem sound_run (config : BackoffConfig) (calls : List Call) :
    Sound config (calls.foldl Streak.follow (.fresh config)) := by
  refine follow_run (sound_fresh config) ?_ calls
  intro streak call h
  cases call with
  | failed => exact h.failed
  | succeeded => exact follow_succeeded h.config_eq ▸ sound_fresh config

/-- The count is right as long as fewer than `2 ^ 32` delays were returned since the last success,
whatever was counted before. -/
theorem counted_run (hdoubles : ∀ place, (config.delay place).double?.isSome = true)
    (calls : List Call) :
    let streak := calls.foldl Streak.follow (.fresh config)
    streak.given.length < UInt32.size → Counted config streak := by
  have hrun := follow_run
    (motive := fun streak =>
      Sound config streak ∧ (streak.given.length < UInt32.size → Counted config streak))
    ⟨sound_fresh config, fun _ => counted_fresh config⟩ ?_ calls
  · exact hrun.2
  · rintro streak call ⟨hsound, hcounted⟩
    cases call with
    | failed =>
        refine ⟨hsound.failed, fun hfew => ?_⟩
        have hgrows : streak.given.length ≤ (streak.follow .failed).given.length := by
          rw [Streak.follow, given_append, List.length_append]
          exact Nat.le_add_right _ _
        exact (hcounted (Nat.lt_of_le_of_lt hgrows hfew)).failed hsound hdoubles hfew
    | succeeded =>
        rw [follow_succeeded hsound.config_eq]
        exact ⟨sound_fresh config, fun _ => counted_fresh config⟩

theorem pairwise_delays (places : List Nat) (hsorted : places.Pairwise (· < ·))
    (hpositive : ∀ place ∈ places, 0 < place) :
    (places.map config.delay).Pairwise fun before after => before.nanos ≤ after.nanos := by
  rw [List.pairwise_map]
  refine hsorted.imp_of_mem ?_
  intro before after hbefore _ hlt
  exact delay_mono (hpositive before hbefore) (Nat.le_of_lt hlt)

/-- **The delays double up to the limit.** Take any configuration whose initial and longest delay
can be doubled, and any calls that return fewer than `2 ^ 32` delays since the last success. After
as many failed attempts since then as `place` says, the backoff gives up exactly if there may be no
more retries than that, and else returns the initial delay, doubled as often and capped at the
longest one, where the initial delay itself is not capped. It counts the delays that it returned
since the last success. When it gives up it is left as it was, and it gives up again until an
attempt succeeds. -/
theorem delays_double (config : BackoffConfig) (hinitial : config.initial.double?.isSome = true)
    (hlongest : config.longest.double?.isSome = true) (calls : List Call)
    (hfew : (calls.foldl Streak.follow (.fresh config)).given.length < UInt32.size) :
    let streak := calls.foldl Streak.follow (.fresh config)
    let place := streak.decided.length
    (streak.backoff.schedule.1 = .giveUp ↔ ∃ most, config.maxRetries = some most ∧ most ≤ place) ∧
      (streak.backoff.schedule.1 ≠ .giveUp → streak.backoff.schedule.1 =
        .after (if place = 0 then config.initial
          else { nanos := min (2 ^ place * config.initial.nanos) config.longest.nanos })) ∧
      streak.backoff.retries = streak.given.length ∧
      (streak.backoff.schedule.1 = .giveUp → streak.backoff.schedule.2 = streak.backoff) ∧
      (.giveUp ∈ streak.decided → streak.backoff.schedule.1 = .giveUp) := by
  intro streak place
  have hdoubles := double?_delay_isSome hinitial hlongest
  have h : Sound config streak := sound_run config calls
  have hcounted : Counted config streak := counted_run hdoubles calls hfew
  have hspends : streak.backoff.isExhausted = config.spends place := by
    rw [hcounted.isExhausted_eq h]
    by_cases hmem : .giveUp ∈ streak.decided
    · have hspent := hcounted.gaveUp hmem
      rw [hspent, spends_mono hspent (List.length_filterMap_le _ _)]
    · rw [← hcounted.length hmem]
  have hgaveUp (hmem : .giveUp ∈ streak.decided) : streak.backoff.isExhausted = true := by
    rw [hcounted.isExhausted_eq h]
    exact hcounted.gaveUp hmem
  rw [← spends_iff, ← hspends]
  obtain ⟨hspent, hschedule⟩ | ⟨-, hdouble, -⟩ | ⟨hunspent, doubled, -, hschedule⟩ :=
    streak.backoff.schedule_cases
  · rw [hschedule]
    exact ⟨⟨fun _ => hspent, fun _ => rfl⟩, fun hgoesOn => absurd rfl hgoesOn, hcounted.retries,
      fun _ => rfl, fun _ => rfl⟩
  · exact absurd hdouble (h.doubles hdoubles)
  · have hplace : place = streak.given.length := by
      refine hcounted.length fun hmem => ?_
      rw [hgaveUp hmem] at hunspent
      cases hunspent
    rw [hschedule, hunspent]
    refine ⟨⟨nofun, nofun⟩, fun _ => ?_, hcounted.retries, nofun, fun hmem => ?_⟩
    · rw [h.next, ← hplace]
      cases place with
      | zero => rfl
      | succ before => rfl
    · rw [hgaveUp hmem] at hunspent
      cases hunspent

/-- The backoff doubles its delay once, starts again after a success, and gives up after three
retries. -/
theorem delays_double_of_relapse :
    let config := { BackoffConfig.default with longest := .ofSeconds 3, maxRetries := some 3 }
    let calls : List Call := [.failed, .failed, .succeeded, .failed, .failed, .failed]
    let streak := calls.foldl Streak.follow (.fresh config)
    streak.given = [.ofSeconds 1, .ofSeconds 2, .ofSeconds 3] ∧ streak.backoff.retries = 3 ∧
      streak.backoff.schedule.1 = .giveUp := by
  intro config calls streak
  have hgiven : streak.given = [.ofSeconds 1, .ofSeconds 2, .ofSeconds 3] := by decide +kernel
  have hlength : streak.decided.length = 3 := by decide +kernel
  have hfew : streak.given.length < UInt32.size := by
    rw [hgiven]
    decide
  obtain ⟨hgivesUp, -, hretries, -⟩ := delays_double config (by decide) (by decide) calls hfew
  exact ⟨hgiven, hretries.trans (congrArg List.length hgiven),
    hgivesUp.mpr ⟨3, rfl, hlength.symm.le⟩⟩

/-- **Delays are bounded but for the first one, and fail only where they cannot be doubled.** Take
any configuration and any calls. Since the last success, the first delay is the initial one, and the
later ones stay within the longest delay and never decrease. If the initial delay is within the
longest one, this is so from the first delay on. If both can be doubled, nothing fails. -/
theorem delays_bounded (config : BackoffConfig) (calls : List Call) :
    let streak := calls.foldl Streak.follow (.fresh config)
    (∀ first ∈ streak.given.head?, first = config.initial) ∧
      ((∀ delay ∈ streak.given.tail, delay.nanos ≤ config.longest.nanos) ∧
        streak.given.tail.Pairwise fun before after => before.nanos ≤ after.nanos) ∧
      (config.initial.nanos ≤ config.longest.nanos →
        (∀ delay ∈ streak.given, delay.nanos ≤ config.longest.nanos) ∧
          streak.given.Pairwise fun before after => before.nanos ≤ after.nanos) ∧
      (.overflow ∈ streak.decided →
        config.initial.double? = none ∨ config.longest.double? = none) := by
  intro streak
  have h : Sound config streak := sound_run config calls
  have hgiven := h.given
  generalize streak.given.length = count at hgiven
  have htail : (∀ delay ∈ streak.given.tail, delay.nanos ≤ config.longest.nanos) ∧
      streak.given.tail.Pairwise fun before after => before.nanos ≤ after.nanos := by
    cases count with
    | zero =>
        rw [hgiven]
        exact ⟨nofun, .nil⟩
    | succ count =>
        rw [hgiven, List.range_succ_eq_map, List.map_cons, List.tail_cons]
        have hpositive : ∀ place ∈ (List.range count).map Nat.succ, 0 < place := by
          intro place hmem
          obtain ⟨before, -, rfl⟩ := List.mem_map.mp hmem
          exact Nat.succ_pos before
        constructor
        · intro delay hmem
          obtain ⟨place, hplace, rfl⟩ := List.mem_map.mp hmem
          exact delay_le_longest (hpositive place hplace)
        · apply pairwise_delays _ _ hpositive
          rw [List.pairwise_map]
          exact List.pairwise_lt_range.imp Nat.succ_lt_succ
  have hhead : ∀ first ∈ streak.given.head?, first = config.initial := by
    rw [hgiven]
    cases count with
    | zero => nofun
    | succ count =>
        rw [List.range_succ_eq_map, List.map_cons, List.head?_cons]
        intro first hfirst
        exact (Option.some.inj hfirst).symm
  refine ⟨hhead, htail, ?_, ?_⟩
  · intro hinitial
    cases hcases : streak.given with
    | nil => exact ⟨nofun, .nil⟩
    | cons first rest =>
        rw [hcases] at hhead htail
        obtain rfl := hhead first rfl
        rw [List.forall_mem_cons, List.pairwise_cons]
        refine ⟨⟨hinitial, htail.1⟩, ?_, htail.2⟩
        intro delay hmem
        have hdelay : delay ∈ streak.given := by
          rw [hcases]
          exact List.mem_cons_of_mem _ hmem
        rw [hgiven] at hdelay
        obtain ⟨place, -, rfl⟩ := List.mem_map.mp hdelay
        exact initial_le_delay hinitial place
  · intro hmem
    have hnone := h.overflow hmem
    apply Decidable.byContradiction
    intro hdoubled
    rw [not_or, ← ne_eq, ← ne_eq, Option.ne_none_iff_isSome, Option.ne_none_iff_isSome] at hdoubled
    have hsome := double?_delay_isSome hdoubled.1 hdoubled.2 streak.given.length
    rw [hnone] at hsome
    cases hsome

/-- Settings under which the first delay is longer than the longest one, and the next one is shorter
than the first; and settings under which no delay comes about. -/
theorem limit_overstepped :
    let decided (content : String) : Option (Span × List Retry) :=
      (Settings.load (some content.toUTF8) []).toOption.map fun settings =>
        let config := settings.manager.backoff
        (config.longest, ([.failed, .failed].foldl Streak.follow (.fresh config)).decided)
    decided "reconnect: \x7binitial_backoff: 60s\x7d" =
        some (.ofSeconds 30, [.after (.ofSeconds 60), .after (.ofSeconds 30)]) ∧
      decided ("reconnect: \x7binitial_backoff: 9223372036854775808s, " ++
          "max_backoff: 9223372036854775808s\x7d") =
        some (.ofSeconds 9223372036854775808, [.overflow, .overflow]) := by
  exact ⟨by decide +kernel, by decide +kernel⟩

end Backoff

end SessionMux
