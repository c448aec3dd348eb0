import SessionMux.Monitor.Event

/-!
Alarms: for each device the most recent errors, and how many came in the current window. A window
starts at its first error or at the creation of a channel, and ends when the next error comes later
than its length after its start.
-/

namespace SessionMux

structure Alarm where
  errorId : Uuid
  /-- None for an error of the channel itself. -/
  session : Option UInt32
  report : ErrorReport
  raised : Stamp
  deriving Repr, DecidableEq, Inhabited

structure DeviceAlarms where
  /-- Oldest first. -/
  recent : List Alarm
  /-- Counts the errors of the current window. It starts over at `2 ^ 32`. -/
  count : UInt32
  windowStart : Nat
  deriving Repr, DecidableEq, Inhabited

structure AlarmTracker where
  /-- How many alarms a device may have. -/
  capacity : Nat
  window : Nat
  devices : List (String × DeviceAlarms)
  deriving Repr, DecidableEq, Inhabited

def Event.alarm? (event : Event) : Option Alarm :=
  event.change.report?.map fun report =>
    { errorId := event.errorId, session := event.change.session?, report, raised := event.stamp }

namespace DeviceAlarms

/-- Counts an error at time `now`, in the current window or as the first of a new one. -/
def tick (entry : DeviceAlarms) (window now : Nat) : DeviceAlarms :=
  if now - entry.windowStart > window then { entry with count := 1, windowStart := now }
  else { entry with count := entry.count + 1 }

/-- Keeps an alarm; the oldest one makes room for it. -/
def keep (entry : DeviceAlarms) (capacity : Nat) (alarm : Alarm) : DeviceAlarms :=
  let recent := if entry.recent.length = capacity then entry.recent.drop 1 else entry.recent
  { entry with recent := recent ++ [alarm] }

end DeviceAlarms

namespace AlarmTracker

def create (limit window : Nat) : AlarmTracker :=
  { capacity := max limit 1, window, devices := [] }

def put (tracker : AlarmTracker) (device : String) (entry : DeviceAlarms) : AlarmTracker :=
  { tracker with devices := (device, entry) :: tracker.devices.filter (·.1 ≠ device) }

def record (tracker : AlarmTracker) (now : Nat) (device : String) (alarm : Alarm) :
    AlarmTracker × Nat :=
  let entry := (tracker.devices.lookup device).getD { recent := [], count := 0, windowStart := now }
  let entry := (entry.tick tracker.window now).keep tracker.capacity alarm
  (tracker.put device entry, entry.count.toNat)

/-- Takes in an event: an error is recorded, and a new channel starts a fresh window. -/
def observe (tracker : AlarmTracker) (now : Nat) (event : Event) : AlarmTracker :=
  match event.alarm? with
  | some alarm => (tracker.record now event.device alarm).1
  | none =>
    match event.change, tracker.devices.lookup event.device with
    | .channelCreate .., some entry =>
      tracker.put event.device { entry with count := 0, windowStart := now }
    | _, _ => tracker

def alarms (tracker : AlarmTracker) (device : String) : List Alarm :=
  ((tracker.devices.lookup device).map (·.recent)).getD []

/-- The errors of a device in its current window, none once that window is over. -/
def errorCount (tracker : AlarmTracker) (now : Nat) (device : String) : Nat :=
  match tracker.devices.lookup device with
  | some entry => if now - entry.windowStart ≤ tracker.window then entry.count.toNat else 0
  | none => 0

def clear (tracker : AlarmTracker) (device : String) : AlarmTracker × Bool :=
  ({ tracker with devices := tracker.devices.filter (·.1 ≠ device) },
    (tracker.devices.lookup device).isSome)

def deviceNames (tracker : AlarmTracker) : List String := tracker.devices.map (·.1)

end AlarmTracker

end SessionMux
