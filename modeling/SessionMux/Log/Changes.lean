import SessionMux.Log.Line
import SessionMux.Monitor.Event

/-!
What is logged of the events of channels and sessions.
-/

namespace SessionMux

namespace Event

def logFields (message : String) (more : List (String × LogValue)) : List (String × LogValue) :=
  ("component", .plain "monitor") :: more ++ [("message", .described message)]

def describeReport (report : ErrorReport) : String :=
  s!"{report.code.text} [{report.level.word}] {report.message}"

/-- What is logged of an event. Errors are logged only where that is asked for. -/
def logRecord? (event : Event) (logErrors : Bool) : Option LogRecord :=
  let device := event.device
  let failed (text : String) : Option LogRecord :=
    let id := ("error_id", LogValue.described event.errorId.text)
    if logErrors then some { level := .warn, fields := logFields text [id] } else none
  let logged (level : LogLevel) (text : String) : Option LogRecord :=
    some { level, fields := logFields text [] }
  match event.change with
  | .channelCreate callHome transport =>
    logged .info s!"Channel to {device} created ({transport.name}, call_home={callHome})"
  | .channelClose => logged .info s!"Channel to {device} closed"
  | .channelError report => failed s!"Channel error on {device}: {describeReport report}"
  | .sessionCreate session port =>
    logged .info s!"Session {session} on {device} opened for port {port}"
  | .sessionClose session => logged .info s!"Session {session} on {device} closed"
  | .sessionError session report =>
    failed s!"Session {session} error on {device}: {describeReport report}"
  | .sessionTransaction session bytesIn bytesOut =>
    logged .trace s!"Session {session} on {device}: in={bytesIn} out={bytesOut}"

end Event

end SessionMux
