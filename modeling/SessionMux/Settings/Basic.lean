import SessionMux.Manager.Config
import SessionMux.Wire.Frame

/-!
The settings of the service, their defaults, and what they must satisfy.
-/

namespace SessionMux

structure DialSettings where
  backoff : BackoffConfig
  reconnectOnDrop : Bool
  deriving Repr, DecidableEq

structure SecuritySettings where
  enabled : Bool
  /-- The directory of the files that are named without one. -/
  root : String
  certFile : String
  keyFile : String
  caFile : String
  deriving Repr, DecidableEq

structure Settings where
  pluginPort : UInt16
  /-- The port of a device that is dialled, when none is given. -/
  agentPort : UInt16
  /-- How many of the latest errors are kept for a device. -/
  maxErrors : Nat
  workers : Nat
  maxPayload : Nat
  logErrorEvents : Bool
  /-- How long an error is kept. -/
  errorWindow : Span
  dial : DialSettings
  security : SecuritySettings
  deriving Repr, DecidableEq

def DialSettings.default : DialSettings where
  backoff := .default
  reconnectOnDrop := true

/-- The name of a file, in the directory `root` unless it begins at the root of all files or no
directory is given. -/
def SecuritySettings.resolve (security : SecuritySettings) (file : String) : String :=
  if file.toList.head? = some '/' || security.root.isEmpty then file
  else if security.root.toList.getLast? = some '/' then security.root ++ file
  else security.root ++ "/" ++ file

def SecuritySettings.default : SecuritySettings where
  enabled := false
  root := ""
  certFile := ""
  keyFile := ""
  caFile := ""

namespace Settings

def default : Settings where
  pluginPort := 1068
  agentPort := 1069
  maxErrors := 100
  workers := 4
  maxPayload := Frame.defaultMaxPayload
  logErrorEvents := true
  errorWindow := .ofSeconds 60
  dial := .default
  security := .default

inductive Invalid
  | noWorkers
  | noPayload
  deriving Repr, DecidableEq

def Invalid.message : Invalid → String
  | noWorkers => "max_thread_number must be at least 1"
  | noPayload => "max_payload must be at least 1"

def validate (settings : Settings) : Except Invalid Settings :=
  if settings.workers = 0 then .error .noWorkers
  else if settings.maxPayload = 0 then .error .noPayload
  else .ok settings

def manager (settings : Settings) : ManagerConfig where
  maxPayload := settings.maxPayload
  backoff := settings.dial.backoff
  reconnectOnDrop := settings.dial.reconnectOnDrop

end Settings

end SessionMux
