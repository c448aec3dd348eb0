import Mathlib.Data.List.DropRight
import Mathlib.Data.List.Nodup
import SessionMux.Monitor.Alarm
import SessionMux.Proofs.Channel.Sessions

/-!
# The alarms of a device

A `Lookout` follows an alarm tracker through everything that can happen to it. What has been
reported about one device is its `History`, which is read off the run and knows no tracker. The
tracker keeps the last errors of that history, as many as it has room for (`Lookout.alarms_kept`);
for any other device a move is nothing (`Lookout.kept?_move_of_ne`).
-/

namespace SessionMux

def Event.raises? (event : Event) : Option Alarm :=
  match event.change with
  | .channelError report =>
    some { errorId := event.errorId, session := none, report, raised := event.stamp }
  | .sessionError session report =>
    some { errorId := event.errorId, session := some session, report, raised := event.stamp }
  | .channelCreate .. | .channelClose | .sessionCreate .. | .sessionClose _
  | .sessionTransaction .. => none

theorem Event.alarm?_eq (event : Event) : event.alarm? = event.raises? := by
  unfold alarm? raises?
  cases event.change <;> rfl

structure Lookout where
  tracker : AlarmTracker
  clock : Nat

namespace Lookout

inductive Move
  | observe (event : Event)
  | record (device : String) (alarm : Alarm)
  | clear (device : String)
  | advance (milliseconds : Nat)

def create (limit window : Nat) : Lookout := { tracker := .create limit window, clock := 0 }

def move (lookout : Lookout) : Move → Lookout
  | .observe event => { lookout with tracker := lookout.tracker.observe lookout.clock event }
  | .record device alarm =>
    { lookout with tracker := (lookout.tracker.record lookout.clock device alarm).1 }
  | .clear device => { lookout with tracker := (lookout.tracker.clear device).1 }
  | .advance milliseconds => { lookout with clock := lookout.clock + milliseconds }

namespace Move

def device? : Move → Option String
  | observe event => some event.device
  | record device _ | clear device => some device
  | advance _ => none

def clock (before : Nat) : Move → Nat
  | advance milliseconds => before + milliseconds
  | observe _ | record .. | clear _ => before

end Move

end Lookout

/-! ### What has been reported about a device -/

structure History where
  /-- The errors since the device was cleared last, oldest first. -/
  alarms : List Alarm
  /-- When its channel was created last since then, if there had been errors before. -/
  renewed : Option Nat
  /-- When the errors since both came, oldest first. -/
  times : List Nat

namespace History

def empty : History := { alarms := [], renewed := none, times := [] }

def add (history : History) (time : Nat) (alarm : Alarm) : History :=
  { history with alarms := history.alarms ++ [alarm], times := history.times ++ [time] }

def renew (history : History) (time : Nat) : History :=
  { history with renewed := if history.alarms = [] then none else some time, times := [] }

def after (history : History) (time : Nat) : Lookout.Move → History
  | .observe event =>
    match event.change with
    | .channelCreate .. => history.renew time
    | _ => event.raises?.elim history (history.add time)
  | .record _ alarm => history.add time alarm
  | .clear _ => empty
  | .advance _ => history

def follow (history : History) (device : String) (time : Nat) : List Lookout.Move → History
  | [] => history
  | move :: moves =>
    let next := if move.device? = some device then history.after time move else history
    next.follow device (move.clock time) moves

def ofRun (device : String) (moves : List Lookout.Move) : History := empty.follow device 0 moves

end History

/-! ### The entry of a device -/

namespace AlarmTracker

variable {tracker : AlarmTracker} {device other : String} {entry : DeviceAlarms}

def kept? (tracker : AlarmTracker) (device : String) : Option DeviceAlarms :=
  tracker.devices.lookup device

theorem kept?_put (tracker : AlarmTracker) (device other : String) (entry : DeviceAlarms) :
    (tracker.put device entry).kept? other =
      if other = device then some entry else tracker.kept? other := by
  rw [put, kept?, lookup_cons, lookup_filter_ne]
  by_cases heq : other = device
  · rw [if_pos heq, if_pos heq]
  · rw [if_neg heq, if_neg heq, if_neg heq]
    rfl

theorem kept?_clear (tracker : AlarmTracker) (device other : String) :
    (tracker.clear device).1.kept? other =
      if other = device then none else tracker.kept? other :=
  lookup_filter_ne device other tracker.devices

theorem mem_deviceNames_iff : device ∈ tracker.deviceNames ↔ tracker.kept? device ≠ none := by
  rw [deviceNames, kept?, Ne, List.lookup_eq_none_iff]
  simp only [List.mem_map, bne_iff_ne, not_forall, not_not]
  constructor
  · rintro ⟨entry, hmem, rfl⟩
    exact ⟨entry, hmem, rfl⟩
  · rintro ⟨entry, hmem, heq⟩
    exact ⟨entry, hmem, heq.symm⟩

theorem nodup_put (h : tracker.deviceNames.Nodup) (device : String) (entry : DeviceAlarms) :
    (tracker.put device entry).deviceNames.Nodup := by
  have hothers : ((tracker.devices.filter (·.1 ≠ device)).map (·.1)).Nodup :=
    h.sublist (List.filter_sublist.map _)
  refine hothers.cons fun hmem => ?_
  obtain ⟨kept, hkept, heq⟩ := List.mem_map.mp hmem
  exact absurd heq (by simpa using (List.mem_filter.mp hkept).2)

theorem nodup_clear (h : tracker.deviceNames.Nodup) (device : String) :
    (tracker.clear device).1.deviceNames.Nodup :=
  h.sublist (List.filter_sublist.map _)

theorem alarms_eq (tracker : AlarmTracker) (device : String) :
    tracker.alarms device = (tracker.kept? device).elim [] (·.recent) := by
  rw [alarms, kept?]
  cases tracker.devices.lookup device <;> rfl

theorem errorCount_eq (tracker : AlarmTracker) (now : Nat) (device : String) :
    tracker.errorCount now device = (tracker.kept? device).elim 0 fun entry =>
      if now - entry.windowStart ≤ tracker.window then entry.count.toNat else 0 := by
  rw [errorCount, kept?]
  cases tracker.devices.lookup device <;> rfl

end AlarmTracker

def DeviceAlarms.counted (kept? : Option DeviceAlarms) (window capacity now : Nat)
    (alarm : Alarm) : DeviceAlarms :=
  ((kept?.getD { recent := [], count := 0, windowStart := now }).tick window now).keep capacity
    alarm

def DeviceAlarms.after (kept? : Option DeviceAlarms) (window capacity now : Nat) :
    Lookout.Move → Option DeviceAlarms
  | .observe event =>
    match event.change with
    | .channelCreate .. => kept?.map fun entry => { entry with count := 0, windowStart := now }
    | _ => event.raises?.elim kept? fun alarm => some (counted kept? window capacity now alarm)
  | .record _ alarm => some (counted kept? window capacity now alarm)
  | .clear _ => none
  | .advance _ => kept?

namespace AlarmTracker

variable {tracker : AlarmTracker}

theorem record_eq (tracker : AlarmTracker) (now : Nat) (device : String) (alarm : Alarm) :
    tracker.record now device alarm =
      let entry := DeviceAlarms.counted (tracker.kept? device) tracker.window tracker.capacity now
        alarm
      (tracker.put device entry, entry.count.toNat) := rfl

theorem observe_eq (tracker : AlarmTracker) (now : Nat) (event : Event) :
    tracker.observe now event =
      match event.change with
      | .channelCreate .. => (tracker.kept? event.device).elim tracker fun entry =>
          tracker.put event.device { entry with count := 0, windowStart := now }
      | _ => event.raises?.elim tracker fun alarm =>
          (tracker.record now event.device alarm).1 := by
  unfold observe Event.raises? kept?
  rw [Event.alarm?_eq, Event.raises?]
  cases event.change with
  | channelCreate => cases tracker.devices.lookup event.device <;> rfl
  | channelClose | channelError | sessionCreate | sessionClose | sessionError
  | sessionTransaction => rfl

end AlarmTracker

namespace Lookout

variable {lookout : Lookout} {device : String} {move : Move}

/-- A move is nothing to the entry of a device that it is not about. -/
theorem kept?_move_of_ne (lookout : Lookout) (hdevice : move.device? ≠ some device) :
    (lookout.move move).tracker.kept? device = lookout.tracker.kept? device := by
  have hput (changed : String) (hchanged : changed ≠ device) (entry : DeviceAlarms) :
      (lookout.tracker.put changed entry).kept? device =
        lookout.tracker.kept? device := by
    rw [AlarmTracker.kept?_put, if_neg hchanged.symm]
  cases move with
  | observe event =>
      have hother : event.device ≠ device := fun heq => hdevice (congrArg some heq)
      rw [Lookout.move, AlarmTracker.observe_eq]
      split
      · cases lookout.tracker.kept? event.device with
        | none => rfl
        | some entry => exact hput _ hother _
      · cases event.raises? with
        | none => rfl
        | some alarm => exact hput _ hother _
  | record changed alarm => exact hput _ (fun heq => hdevice (congrArg some heq)) _
  | clear changed =>
      have hother : device ≠ changed := fun heq => hdevice (congrArg some heq.symm)
      rw [Lookout.move, AlarmTracker.kept?_clear, if_neg hother]
  | advance milliseconds => rfl

/-- **What a move does to the entry of the device that it is about.** -/
theorem kept?_move_of_eq (lookout : Lookout) (hdevice : move.device? = some device) :
    (lookout.move move).tracker.kept? device =
      DeviceAlarms.after (lookout.tracker.kept? device) lookout.tracker.window
        lookout.tracker.capacity lookout.clock move := by
  have hput (entry : DeviceAlarms) :
      (lookout.tracker.put device entry).kept? device = some entry := by
    rw [AlarmTracker.kept?_put, if_pos rfl]
  cases move with
  | observe event =>
      obtain rfl : event.device = device := Option.some.inj hdevice
      rw [Lookout.move, AlarmTracker.observe_eq, DeviceAlarms.after]
      split
      · cases hentry : lookout.tracker.kept? event.device with
        | none => exact hentry
        | some entry => exact hput _
      · cases event.raises? with
        | none => rfl
        | some alarm => exact hput _
  | record changed alarm =>
      obtain rfl : changed = device := Option.some.inj hdevice
      exact hput _
  | clear changed =>
      obtain rfl : changed = device := Option.some.inj hdevice
      rw [Lookout.move, AlarmTracker.kept?_clear, if_pos rfl, DeviceAlarms.after]
  | advance milliseconds => cases hdevice

theorem fixed_move (lookout : Lookout) (move : Move) :
    (lookout.move move).tracker.window = lookout.tracker.window ∧
      (lookout.move move).tracker.capacity = lookout.tracker.capacity ∧
      (lookout.move move).clock = move.clock lookout.clock := by
  cases move with
  | observe event =>
      rw [Lookout.move, AlarmTracker.observe_eq]
      split
      · cases lookout.tracker.kept? event.device <;> exact ⟨rfl, rfl, rfl⟩
      · cases event.raises? <;> exact ⟨rfl, rfl, rfl⟩
  | record | clear | advance => exact ⟨rfl, rfl, rfl⟩

theorem fixed_run (lookout : Lookout) (moves : List Move) :
    (moves.foldl Lookout.move lookout).tracker.window = lookout.tracker.window ∧
      (moves.foldl Lookout.move lookout).tracker.capacity = lookout.tracker.capacity := by
  induction moves generalizing lookout with
  | nil => exact ⟨rfl, rfl⟩
  | cons move moves ih =>
      obtain ⟨hwindow, hcapacity, -⟩ := lookout.fixed_move move
      rw [List.foldl_cons]
      exact ⟨(ih _).1.trans hwindow, (ih _).2.trans hcapacity⟩

/-- **One device at a time.** What is said of the time, the entry of a device and its history holds
after every run, if it holds at first, survives the passing of time, and survives the moves that are
about the device. -/
theorem related_run {motive : Nat → Option DeviceAlarms → History → Prop} {window capacity : Nat}
    (hpasses : ∀ time milliseconds kept? history, motive time kept? history →
      motive (time + milliseconds) kept? history)
    (hmoves : ∀ time kept? history (move : Move), motive time kept? history →
      motive time (DeviceAlarms.after kept? window capacity time move)
        (history.after time move))
    (moves : List Move) (hwindow : lookout.tracker.window = window)
    (hcapacity : lookout.tracker.capacity = capacity) {history : History}
    (h : motive lookout.clock (lookout.tracker.kept? device) history) :
    let last := moves.foldl Lookout.move lookout
    motive last.clock (last.tracker.kept? device)
      (history.follow device lookout.clock moves) := by
  induction moves generalizing lookout history with
  | nil => exact h
  | cons move moves ih =>
      obtain ⟨hsameWindow, hsameCapacity, hclock⟩ := lookout.fixed_move move
      rw [History.follow, ← hclock]
      refine ih (hsameWindow.trans hwindow) (hsameCapacity.trans hcapacity) ?_
      by_cases hdevice : move.device? = some device
      · have hstill : (lookout.move move).clock = lookout.clock := by
          rw [hclock]
          cases move with
          | observe | record | clear => rfl
          | advance => cases hdevice
        rw [if_pos hdevice, kept?_move_of_eq lookout hdevice, hstill, hwindow, hcapacity]
        exact hmoves _ _ _ _ h
      · rw [if_neg hdevice, kept?_move_of_ne lookout hdevice, hclock]
        cases move with
        | observe | record | clear => exact h
        | advance milliseconds => exact hpasses _ _ _ _ h

end Lookout

/-! ### What a tracker keeps of a history -/

/-- An entry has the last errors of a history, and there is none as long as there is no error. -/
inductive DeviceAlarms.Recalls (capacity : Nat) : Option DeviceAlarms → History → Prop
  | unknown {history : History} (hnone : history.alarms = []) : Recalls capacity none history
  | known {entry : DeviceAlarms} {history : History} (hsome : history.alarms ≠ [])
      (hrecent : entry.recent = history.alarms.rtake capacity) :
      Recalls capacity (some entry) history

namespace DeviceAlarms

variable {entry : DeviceAlarms} {kept? : Option DeviceAlarms} {history : History}
  {window capacity now : Nat}

theorem recent_tick (entry : DeviceAlarms) (window now : Nat) :
    (entry.tick window now).recent = entry.recent := by
  unfold tick
  split <;> rfl

/-- The oldest error makes room for a new one. -/
theorem recent_keep (hcapacity : 1 ≤ capacity) {alarms : List Alarm}
    (hrecent : entry.recent = alarms.rtake capacity) (alarm : Alarm) :
    (entry.keep capacity alarm).recent = (alarms ++ [alarm]).rtake capacity := by
  have hlength : entry.recent.length = min capacity alarms.length := by
    rw [hrecent, List.rtake, List.length_drop]
    omega
  simp only [keep]
  rw [List.rtake, List.length_append, List.length_singleton,
    List.drop_append_of_le_length (by omega)]
  congr 1
  split
  · rename_i hfull
    rw [hrecent, List.rtake, List.drop_drop]
    congr 1
    omega
  · rw [hrecent, List.rtake]
    congr 1
    omega

theorem Recalls.count (h : Recalls capacity kept? history) (hcapacity : 1 ≤ capacity)
    (time : Nat) (alarm : Alarm) :
    Recalls capacity (some (counted kept? window capacity now alarm))
      (history.add time alarm) := by
  refine .known (by simp [History.add]) (recent_keep hcapacity ?_ alarm)
  rw [recent_tick]
  cases h with
  | unknown hnone =>
      rw [hnone, List.rtake_nil]
      rfl
  | known hsome hrecent => exact hrecent

theorem Recalls.after (h : Recalls capacity kept? history) (hcapacity : 1 ≤ capacity)
    (time : Nat) (move : Lookout.Move) :
    Recalls capacity (DeviceAlarms.after kept? window capacity time move)
      (history.after time move) := by
  cases move with
  | observe event =>
      rw [DeviceAlarms.after, History.after]
      split
      · cases h with
        | unknown hnone => exact .unknown hnone
        | known hsome hrecent => exact .known hsome hrecent
      · cases event.raises? with
        | none => exact h
        | some alarm => exact h.count hcapacity time alarm
  | record device alarm => exact h.count hcapacity time alarm
  | clear device => exact .unknown rfl
  | advance milliseconds => exact h

end DeviceAlarms

namespace Lookout

theorem recalls_run (limit window : Nat) (moves : List Move) (device : String) :
    DeviceAlarms.Recalls (max limit 1)
      ((moves.foldl Lookout.move (create limit window)).tracker.kept? device)
      (History.ofRun device moves) :=
  related_run (motive := fun _ kept? history =>
      DeviceAlarms.Recalls (max limit 1) kept? history)
    (fun _ _ _ _ h => h) (fun time _ _ move h => h.after (Nat.le_max_right _ _) time move) moves
    rfl rfl (.unknown rfl)

theorem nodup_move {lookout : Lookout} (h : lookout.tracker.deviceNames.Nodup) (move : Move) :
    (lookout.move move).tracker.deviceNames.Nodup := by
  cases move with
  | observe event =>
      rw [Lookout.move, AlarmTracker.observe_eq]
      split
      · cases lookout.tracker.kept? event.device with
        | none => exact h
        | some entry => exact AlarmTracker.nodup_put h _ _
      · cases event.raises? with
        | none => exact h
        | some alarm => exact AlarmTracker.nodup_put h _ _
  | record device alarm => exact AlarmTracker.nodup_put h _ _
  | clear device => exact AlarmTracker.nodup_clear h device
  | advance milliseconds => exact h

theorem nodup_run {lookout : Lookout} (h : lookout.tracker.deviceNames.Nodup)
    (moves : List Move) : (moves.foldl Lookout.move lookout).tracker.deviceNames.Nodup := by
  induction moves generalizing lookout with
  | nil => exact h
  | cons move moves ih => exact ih (nodup_move h move)

/-- **The alarms of a device** are the last errors of its history since it was cleared, at least one
and at most `limit` of them, oldest first, after any moves about any devices. A move that is about
another device changes neither them nor the count at any time. The devices that are listed, each of
them once, are those that have alarms, and to clear a device tells whether it has. -/
theorem alarms_kept (limit window : Nat) (moves : List Move) (device : String) :
    let lookout := moves.foldl Lookout.move (create limit window)
    let tracker := lookout.tracker
    tracker.alarms device = (History.ofRun device moves).alarms.rtake (max limit 1) ∧
      (∀ move : Move, move.device? ≠ some device →
        (lookout.move move).tracker.alarms device = tracker.alarms device ∧
          ∀ now, (lookout.move move).tracker.errorCount now device =
            tracker.errorCount now device) ∧
      tracker.deviceNames.Nodup ∧
      (device ∈ tracker.deviceNames ↔ tracker.alarms device ≠ []) ∧
      ((tracker.clear device).2 = true ↔ tracker.alarms device ≠ []) := by
  intro lookout tracker
  have hrecalls := recalls_run limit window moves device
  change DeviceAlarms.Recalls _ (tracker.kept? device) _ at hrecalls
  have hlisted : tracker.kept? device ≠ none ↔ tracker.alarms device ≠ [] := by
    rw [AlarmTracker.alarms_eq]
    generalize tracker.kept? device = kept? at hrecalls
    cases hrecalls with
    | unknown hnone => simp
    | known hsome hrecent =>
        simp only [ne_eq, reduceCtorEq, not_false_eq_true, Option.elim_some, true_iff]
        rw [hrecent, List.rtake, List.drop_eq_nil_iff]
        have hlength := List.length_pos_iff.mpr hsome
        omega
  have hbegun : (create limit window).tracker.deviceNames.Nodup := List.nodup_nil
  refine ⟨?_, fun move hmove => ?_, nodup_run hbegun moves,
    AlarmTracker.mem_deviceNames_iff.trans hlisted, ?_⟩
  · rw [AlarmTracker.alarms_eq]
    generalize tracker.kept? device = kept? at hrecalls
    cases hrecalls with
    | unknown hnone => rw [hnone, List.rtake_nil, Option.elim_none]
    | known hsome hrecent => exact hrecent
  · have hentry := lookout.kept?_move_of_ne hmove
    refine ⟨?_, fun now => ?_⟩
    · rw [AlarmTracker.alarms_eq, AlarmTracker.alarms_eq, hentry]
    · rw [AlarmTracker.errorCount_eq, AlarmTracker.errorCount_eq, hentry,
        (lookout.fixed_move move).1]
  · rw [← hlisted, ← Option.isSome_iff_ne_none]
    rfl

end Lookout

end SessionMux
