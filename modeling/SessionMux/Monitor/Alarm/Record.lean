import SessionMux.Monitor.Alarm
import SessionMux.Monitor.Event.Record

/-!
Alarms as records.
-/

namespace SessionMux

def Alarm.toDatum (alarm : Alarm) : Datum :=
  .record (alarm.report.toFields alarm.errorId ++
    [("session_id", .ofOption (fun session => .nat session.toNat) alarm.session),
      ("raised_at", .text alarm.raised.text)])

end SessionMux
