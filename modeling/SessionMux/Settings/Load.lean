import SessionMux.Settings.Document

/-!
The settings with which the service starts: those of the file, where the file can be read and
understood, with the variables of the environment in the place of some.
-/

namespace SessionMux

abbrev Environment := List (String × String)

namespace Environment

/-- The unsigned number that a variable holds. One that holds anything else is passed over. -/
def number? (environment : Environment) (name : String) (bound : Nat) : Option Nat := do
  (Text.readUnsigned bound (← environment.lookup name)).toOption

def port? (environment : Environment) (name : String) : Option UInt16 :=
  (environment.number? name UInt16.size).map UInt16.ofNat

end Environment

namespace Settings

def override (settings : Settings) (environment : Environment) : Settings :=
  { settings with
    pluginPort := (environment.port? "USC_PLUGIN_PORT").getD settings.pluginPort
    agentPort := (environment.port? "USC_AGENT_PORT").getD settings.agentPort
    maxErrors := (environment.number? "USC_MAX_ERROR_NUMBER" UInt64.size).getD settings.maxErrors
    workers := (environment.number? "USC_MAX_THREAD_NUMBER" UInt64.size).getD settings.workers
    security :=
      { settings.security with
        root := (environment.lookup "USC_SECURITY_ROOT").getD settings.security.root } }

/-- The settings of a file. They are the default ones when there is no file, when its bytes are no
text, or when the text is no document with settings. -/
def ofFile (content : Option ByteArray) : Settings :=
  ((content.bind String.fromUTF8?).bind ofText?).getD default

def load (content : Option ByteArray) (environment : Environment) : Except Invalid Settings :=
  ((ofFile content).override environment).validate

end Settings

end SessionMux
