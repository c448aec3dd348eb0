import SessionMux.Command.Service
import SessionMux.Log.Filter

/-!
The command: it reads its arguments, the settings and the environment, and says what the service
sets out to do.
-/

open SessionMux

def settingNames : List String :=
  ["USC_PLUGIN_PORT", "USC_AGENT_PORT", "USC_MAX_ERROR_NUMBER", "USC_MAX_THREAD_NUMBER",
    "USC_SECURITY_ROOT"]

def readEnvironment (names : List String) : IO Environment := do
  let found ← names.mapM fun name => return (← IO.getEnv name).map (name, ·)
  return found.filterMap id

def readFile? (path : String) : IO (Option ByteArray) := do
  try
    return some (← IO.FS.readBinFile path)
  catch _ =>
    return none

def serve (arguments : Arguments) : IO UInt32 := do
  let style := LogStyle.forTerminal "usc" (← IO.getEnv "TERM")
  let log (level : LogLevel) (message : String) : IO Unit :=
    IO.print (style.line "-" { level, fields := [("message", .described message)] })
  if (LogFilter.choose? (← IO.getEnv "RUST_LOG") arguments.logLevel).isNone then
    log .error s!"invalid log level {arguments.logLevel}"
    return 1
  let content ← readFile? arguments.config
  let environment ← readEnvironment settingNames
  let service := do
    let settings ← (Settings.load content environment).mapError Settings.Invalid.message
    Service.plan arguments settings
  match service with
  | .error message =>
    log .error message
    return 1
  | .ok service =>
    service.announcements.forM (log .info)
    return 0

def main (arguments : List String) : IO UInt32 := do
  match Arguments.ofList arguments with
  | .ok arguments => serve arguments
  | .error error =>
    IO.eprintln error.message
    return 2
