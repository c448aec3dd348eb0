import Mathlib.Data.List.Chain
import SessionMux.Proofs.Monitor.Alarms

/-!
# The errors of a device, window by window

A tracker has a counter and the start of the current window for each device. The errors since the
device was cleared or its channel was created fall into windows, each of a fixed length, which begin
one after the other (`History.Windows`). The count of a device is that of the last window, and
nothing once that window is over (`Lookout.errorCount_windowed`). So it misses errors that came in
the last while, but belong to a window that is over (`Lookout.error_missed`).
-/

namespace SessionMux

/-- How errors fall into windows, each given by its start and the times of its errors. The first one
starts when the channel was created, or else with the first error; each later one starts with the
first error that comes later than `window` after the start of the one before. -/
structure History.Windows (history : History) (window : Nat) (windows : List (Nat × List Nat)) :
    Prop where
  errors : windows.flatMap (·.2) = history.times
  within : ∀ current ∈ windows, ∀ time ∈ current.2,
    current.1 ≤ time ∧ time ≤ current.1 + window
  chained : windows.IsChain fun earlier later => earlier.1 + window < later.1
  first : windows.head?.map (·.1) = history.renewed.or history.times.head?
  later : ∀ current ∈ windows.tail, current.2.head? = some current.1

namespace History.Windows

variable {history : History} {window time : Nat} {front windows : List (Nat × List Nat)}
  {current : Nat × List Nat}

theorem empty (window : Nat) : History.empty.Windows window [] where
  errors := rfl
  within := List.forall_mem_nil _
  chained := .nil
  first := rfl
  later := List.forall_mem_nil _

/-- The first error of all. -/
theorem begins (window time : Nat) (alarm : Alarm) :
    (History.empty.add time alarm).Windows window [(time, [time])] where
  errors := rfl
  within := by simp
  chained := .singleton _
  first := rfl
  later := List.forall_mem_nil _

/-- A channel was created. -/
theorem renews (hsome : history.alarms ≠ []) (window time : Nat) :
    (history.renew time).Windows window [(time, [])] where
  errors := rfl
  within := by simp
  chained := .singleton _
  first := by rw [History.renew, if_neg hsome]; rfl
  later := List.forall_mem_nil _

/-- Once there is a window, more errors do not change where the first one starts. -/
theorem first_append (h : history.Windows window (front ++ [current])) (more : List Nat) :
    history.renewed.or (history.times ++ more).head? =
      (front ++ [current]).head?.map (·.1) := by
  have hfirst := h.first
  rw [hfirst]
  cases hrenewed : history.renewed with
  | some start => rfl
  | none =>
      cases htimes : history.times with
      | nil =>
          rw [hrenewed, htimes] at hfirst
          cases front <;> cases hfirst
      | cons => rfl

/-- An error comes while the current window lasts. -/
theorem stays (h : history.Windows window (front ++ [current])) (alarm : Alarm)
    (hstart : current.1 ≤ time) (hlasts : time ≤ current.1 + window) :
    (history.add time alarm).Windows window (front ++ [(current.1, current.2 ++ [time])]) where
  errors := by
    have herrors := h.errors
    rw [List.flatMap_append, List.flatMap_singleton] at herrors ⊢
    rw [← List.append_assoc, herrors]
    rfl
  within := by
    have hwithin := h.within
    rw [List.forall_mem_append, List.forall_mem_singleton] at hwithin ⊢
    refine ⟨hwithin.1, ?_⟩
    rw [List.forall_mem_append, List.forall_mem_singleton]
    exact ⟨hwithin.2, hstart, hlasts⟩
  chained := by
    have hchained := h.chained
    rw [List.isChain_append] at hchained ⊢
    exact ⟨hchained.1, .singleton _, by simpa using hchained.2.2⟩
  first := by
    rw [History.add, h.first_append [time]]
    cases front <;> rfl
  later := by
    have hlater := h.later
    cases front with
    | nil => exact List.forall_mem_nil _
    | cons earliest front =>
        rw [List.cons_append, List.tail_cons, List.forall_mem_append,
          List.forall_mem_singleton] at hlater ⊢
        exact ⟨hlater.1, by rw [List.head?_append, hlater.2, Option.some_or]⟩

/-- An error comes after the current window. -/
theorem moves_on (h : history.Windows window (front ++ [current])) (alarm : Alarm)
    (hover : current.1 + window < time) :
    (history.add time alarm).Windows window (front ++ [current] ++ [(time, [time])]) where
  errors := by
    rw [List.flatMap_append, h.errors]
    rfl
  within := by
    rw [List.forall_mem_append, List.forall_mem_singleton]
    exact ⟨h.within, by simp⟩
  chained := by
    rw [List.isChain_append]
    exact ⟨h.chained, .singleton _, by simpa using hover⟩
  first := by
    rw [History.add, h.first_append [time]]
    cases front <;> rfl
  later := by
    have hlater := h.later
    rw [List.tail_append_of_ne_nil (by simp), List.forall_mem_append, List.forall_mem_singleton]
    exact ⟨hlater, rfl⟩

/-- The errors of the first window are those that come before it is over. -/
theorem takeWhile_times (h : history.Windows window (current :: windows)) :
    history.times.takeWhile (· ≤ current.1 + window) = current.2 ∧
      history.times.dropWhile (· ≤ current.1 + window) = windows.flatMap (·.2) := by
  have hin (time : Nat) (hmem : time ∈ current.2) : decide (time ≤ current.1 + window) = true :=
    decide_eq_true (h.within current List.mem_cons_self time hmem).2
  have hout : (windows.flatMap (·.2)).takeWhile (· ≤ current.1 + window) = [] ∧
      (windows.flatMap (·.2)).dropWhile (· ≤ current.1 + window) = windows.flatMap (·.2) := by
    cases windows with
    | nil => exact ⟨rfl, rfl⟩
    | cons next windows =>
        have hnext := h.later next List.mem_cons_self
        have hlate : ¬ next.1 ≤ current.1 + window :=
          Nat.not_le.mpr (List.isChain_cons_cons.mp h.chained).1
        obtain ⟨start, _ | ⟨time, times⟩⟩ := next
        · cases hnext
        · obtain rfl : time = start := Option.some.inj hnext
          simp [hlate]
  rw [← h.errors, List.flatMap_cons, List.takeWhile_append_of_pos hin,
    List.dropWhile_append_of_pos hin, hout.1, hout.2, List.append_nil]
  exact ⟨rfl, rfl⟩

/-- The later windows are those of the later errors. -/
theorem tail (h : history.Windows window (current :: windows)) :
    ({ history with renewed := none, times := windows.flatMap (·.2) } : History).Windows window
      windows where
  errors := rfl
  within other hmem := h.within other (List.mem_cons_of_mem _ hmem)
  chained := (List.isChain_cons.mp h.chained).2
  first := by
    cases windows with
    | nil => rfl
    | cons next windows =>
        rw [Option.none_or, List.flatMap_cons, List.head?_append,
          h.later next List.mem_cons_self]
        rfl
  later other hmem := h.later other (List.mem_of_mem_tail hmem)

/-- There is but one way for errors to fall into windows. -/
theorem unique {others : List (Nat × List Nat)} (h : history.Windows window windows)
    (hother : history.Windows window others) : others = windows := by
  induction windows generalizing history others with
  | nil =>
      have hnone := hother.first.trans h.first.symm
      cases others with
      | nil => rfl
      | cons other others => cases hnone
  | cons current windows ih =>
      have hsome := hother.first.trans h.first.symm
      cases others with
      | nil => cases hsome
      | cons other others =>
          have hstart : other.1 = current.1 := Option.some.inj hsome
          obtain ⟨herrors, hrest⟩ := h.takeWhile_times
          obtain ⟨hsame, hsameRest⟩ := hother.takeWhile_times
          rw [hstart] at hsame hsameRest
          have htail := hother.tail
          rw [← hsameRest, hrest] at htail
          rw [ih h.tail htail, Prod.ext hstart (hsame.symm.trans herrors)]

end History.Windows

inductive DeviceAlarms.Counts (window time : Nat) : Option DeviceAlarms → History → Prop
  | unknown : Counts window time none .empty
  | known {entry : DeviceAlarms} {history : History} (front : List (Nat × List Nat))
      (errors : List Nat) (hsome : history.alarms ≠ [])
      (hwindows : history.Windows window (front ++ [(entry.windowStart, errors)]))
      (hcount : entry.count = UInt32.ofNat errors.length) (hstart : entry.windowStart ≤ time) :
      Counts window time (some entry) history

namespace DeviceAlarms

variable {kept? : Option DeviceAlarms} {history : History} {window capacity time : Nat}

theorem Counts.passes (h : Counts window time kept? history) (milliseconds : Nat) :
    Counts window (time + milliseconds) kept? history := by
  cases h with
  | unknown => exact .unknown
  | known front errors hsome hwindows hcount hstart =>
      exact .known front errors hsome hwindows hcount (Nat.le_add_right_of_le hstart)

theorem Counts.count (h : Counts window time kept? history) (alarm : Alarm) :
    Counts window time (some (counted kept? window capacity time alarm))
      (history.add time alarm) := by
  have hsome : (history.add time alarm).alarms ≠ [] := by simp [History.add]
  cases h with
  | unknown =>
      refine .known [] [time] hsome ?_ ?_ ?_
      all_goals simp [counted, tick, keep, History.Windows.begins]
  | known front errors _ hwindows hcount hstart =>
      rw [counted, Option.getD_some, tick]
      split
      · rename_i hover
        exact .known _ [time] hsome (hwindows.moves_on alarm (by dsimp only; omega)) rfl le_rfl
      · rename_i hlasts
        have hstays := hwindows.stays alarm hstart (by dsimp only; omega)
        exact .known _ (errors ++ [time]) hsome hstays (by simp [keep, hcount]) hstart

theorem Counts.after (h : Counts window time kept? history) (move : Lookout.Move) :
    Counts window time (DeviceAlarms.after kept? window capacity time move)
      (history.after time move) := by
  cases move with
  | observe event =>
      rw [DeviceAlarms.after, History.after]
      split
      · cases h with
        | unknown => exact .unknown
        | known _ _ hsome => exact .known [] [] hsome (.renews hsome window time) rfl le_rfl
      · cases event.raises? with
        | none => exact h
        | some alarm => exact h.count alarm
  | record device alarm => exact h.count alarm
  | clear device => exact .unknown
  | advance milliseconds => exact h

end DeviceAlarms

namespace History

/-- The errors that came at most `window` ago. -/
def lately (times : List Nat) (window now : Nat) : List Nat := times.filter (now ≤ · + window)

theorem lately_append (earlier later : List Nat) (window now : Nat) :
    lately (earlier ++ later) window now = lately earlier window now ++ lately later window now :=
  List.filter_append earlier later

theorem lately_eq_self {times : List Nat} {window now : Nat}
    (h : ∀ time ∈ times, now ≤ time + window) : lately times window now = times :=
  List.filter_eq_self.mpr fun time hmem => decide_eq_true (h time hmem)

def past (windows : List (Nat × List Nat)) (window now : Nat) : List Nat :=
  (windows.filter (·.1 + window < now)).flatMap (·.2)

theorem past_eq_errors {windows : List (Nat × List Nat)} {window now : Nat}
    (h : ∀ one ∈ windows, one.1 + window < now) : past windows window now = windows.flatMap (·.2) :=
  congrArg _ (List.filter_eq_self.mpr fun one hmem => decide_eq_true (h one hmem))

theorem past_append (earlier later : List (Nat × List Nat)) (window now : Nat) :
    past (earlier ++ later) window now = past earlier window now ++ past later window now := by
  rw [past, List.filter_append, List.flatMap_append]
  rfl

/-- Only the last window may still last. -/
theorem Windows.over {history : History} {front : List (Nat × List Nat)} {current : Nat × List Nat}
    {window now : Nat} (h : history.Windows window (front ++ [current]))
    (hstart : current.1 ≤ now) :
    ∀ earlier ∈ front, earlier.1 + window < now := by
  intro earlier hearlier
  have htrans : IsTrans (Nat × List Nat) fun one other => one.1 + window < other.1 :=
    ⟨fun _ _ _ hone hother => by omega⟩
  have hpairwise := h.chained.pairwise
  have hbefore := (List.pairwise_append.mp hpairwise).2.2 earlier hearlier current (by simp)
  omega

end History

theorem DeviceAlarms.Counts.windowed {kept? : Option DeviceAlarms} {history : History}
    {window now : Nat} (h : Counts window now kept? history) :
    ∃ windows, (∀ other, history.Windows window other ↔ other = windows) ∧
      let lasting := windows.getLast?.elim 0 fun current =>
        if now ≤ current.1 + window then current.2.length else 0
      (kept?.elim 0 fun entry =>
        if now - entry.windowStart ≤ window then entry.count.toNat else 0) =
          lasting % UInt32.size ∧
      lasting + (History.lately (History.past windows window now) window now).length =
        (History.lately history.times window now).length := by
  cases h with
  | unknown =>
      refine ⟨[], fun other => ⟨(History.Windows.empty window).unique, fun h => ?_⟩, rfl, rfl⟩
      exact h ▸ .empty window
  | @known entry _ front errors hsome hwindows hcount hstart =>
      refine ⟨front ++ [(entry.windowStart, errors)],
        fun other => ⟨hwindows.unique, fun h => h ▸ hwindows⟩, ?_⟩
      dsimp only
      have hfront := hwindows.over hstart
      have htimes := hwindows.errors
      rw [List.flatMap_append, List.flatMap_singleton] at htimes
      rw [Option.elim_some, List.getLast?_append, List.getLast?_singleton, Option.some_or,
        Option.elim_some, History.past_append, History.past_eq_errors hfront, ← htimes,
        History.lately_append, History.lately_append, List.length_append, List.length_append]
      by_cases hlasts : now ≤ entry.windowStart + window
      · have hpast : History.past [(entry.windowStart, errors)] window now = [] := by
          rw [History.past, List.filter_cons_of_neg (by simp; omega)]
          rfl
        have herrors : ∀ time ∈ errors, now ≤ time + window := by
          intro time htime
          have hbegun := (hwindows.within (entry.windowStart, errors) (by simp) time htime).1
          dsimp only at hbegun
          omega
        rw [if_pos hlasts, if_pos (by omega), hpast, History.lately_eq_self herrors, hcount]
        exact ⟨UInt32.toNat_ofNat', Nat.add_comm _ _⟩
      · have hpast : History.past [(entry.windowStart, errors)] window now = errors := by
          rw [History.past_eq_errors (by simp; omega), List.flatMap_singleton]
        rw [if_neg hlasts, if_neg (by omega), hpast, Nat.zero_add]
        exact ⟨rfl, rfl⟩

namespace Lookout

/-- Right after an error, its window lasts. -/
theorem errorCount_record (lookout : Lookout) (device : String) (alarm : Alarm) :
    (lookout.move (.record device alarm)).tracker.errorCount lookout.clock device =
      (lookout.tracker.record lookout.clock device alarm).2 := by
  have hlasts (entry : DeviceAlarms) (window now : Nat) :
      now - (entry.tick window now).windowStart ≤ window := by
    unfold DeviceAlarms.tick
    split
    · simp
    · rename_i hlasts
      exact Nat.not_lt.mp hlasts
  rw [AlarmTracker.errorCount_eq, kept?_move_of_eq lookout rfl, AlarmTracker.record_eq]
  exact if_pos (hlasts _ _ _)

theorem counts_run (limit window : Nat) (moves : List Move) (device : String) :
    let lookout := moves.foldl Lookout.move (create limit window)
    DeviceAlarms.Counts window lookout.clock (lookout.tracker.kept? device)
      (History.ofRun device moves) :=
  related_run (motive := DeviceAlarms.Counts window)
    (fun _ milliseconds _ _ h => h.passes milliseconds) (fun _ _ _ move h => h.after move) moves
    rfl rfl .unknown

theorem window_run (limit window : Nat) (moves : List Move) :
    (moves.foldl Lookout.move (create limit window)).tracker.window = window :=
  ((create limit window).fixed_run moves).1

/-- **The error count of a device** is how many errors there are in the last of its windows, up to
multiples of `2 ^ 32`, and 0 once that window is over. What the window lacks of the errors that came
in the last while are those of them that belong to windows that are over. The count that is returned
with a new error is the same one, that error included. -/
theorem errorCount_windowed (limit window : Nat) (moves : List Move) (device : String) :
    let lookout := moves.foldl Lookout.move (create limit window)
    let now := lookout.clock
    let history := History.ofRun device moves
    ∃ windows, (∀ other, history.Windows window other ↔ other = windows) ∧
      let lasting := windows.getLast?.elim 0 fun current =>
        if now ≤ current.1 + window then current.2.length else 0
      lookout.tracker.errorCount now device = lasting % UInt32.size ∧
      lasting + (History.lately (History.past windows window now) window now).length =
        (History.lately history.times window now).length ∧
      ∀ alarm, (lookout.tracker.record now device alarm).2 =
        (lookout.move (.record device alarm)).tracker.errorCount now device := by
  intro lookout now history
  have hwindow : lookout.tracker.window = window := window_run limit window moves
  have hcount := AlarmTracker.errorCount_eq lookout.tracker now device
  rw [hwindow] at hcount
  obtain ⟨windows, hwindows, hlast, hmissed⟩ := (counts_run limit window moves device).windowed
  exact ⟨windows, hwindows, hcount.trans hlast, hmissed,
    fun alarm => (errorCount_record lookout device alarm).symm⟩

/-- A window of 30 s that starts with an error: 35 s later it is over, and a second error that came
15 s ago is not counted. -/
theorem error_missed :
    let error : Alarm :=
      { errorId := default, session := some 1, report := default, raised := default }
    let moves : List Move :=
      [.record "dev" error, .advance 20000, .record "dev" error, .advance 15000]
    let lookout := moves.foldl Lookout.move (create 10 30000)
    lookout.tracker.errorCount lookout.clock "dev" = 0 ∧
      (History.lately (History.ofRun "dev" moves).times 30000 lookout.clock).length = 1 := by
  decide

end Lookout

end SessionMux
