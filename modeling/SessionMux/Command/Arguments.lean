import SessionMux.Command.ForwardRule
import SessionMux.Monitor.Transport

/-!
The arguments of the command. An option's value stands behind an equals sign or in the next
argument; it is looked at only when the next option or the end of the arguments shows that nothing
more belongs to it. Nothing but options is accepted.
-/

namespace SessionMux

structure Arguments where
  config : String
  logLevel : String
  /-- The port on which devices call home, in the place of the one in the settings. -/
  pluginPort : Option UInt16
  noCallHome : Bool
  /-- The transport of the channels to devices that are dialled. -/
  transport : Option Transport
  connect : List String
  forward : List ForwardRule
  /-- The name by which an encrypted device is addressed. -/
  serverName : Option String
  deriving Repr, DecidableEq

def Arguments.default : Arguments where
  config := "usc.yaml"
  logLevel := "info"
  pluginPort := none
  noCallHome := false
  transport := none
  connect := []
  forward := []
  serverName := none

inductive ArgumentsError
  /-- The argument is no option, and no option waits for it. -/
  | unknown (text : String)
  /-- An option has no value, or an empty one where that is not allowed. -/
  | noValue (option : String)
  | badValue (option value : String)
  | repeated (option : String)
  | unneededValue (option : String)
  | helpRequested
  | versionRequested
  deriving Repr, DecidableEq

namespace ArgumentsError

def kind : ArgumentsError → String
  | unknown _ => "UnknownArgument"
  | noValue _ => "InvalidValue"
  | badValue .. => "ValueValidation"
  | repeated _ => "ArgumentConflict"
  | unneededValue _ => "TooManyValues"
  | helpRequested => "DisplayHelp"
  | versionRequested => "DisplayVersion"

def message : ArgumentsError → String
  | unknown text => s!"unexpected argument {Text.quote text}"
  | noValue option => s!"a value is required for --{option}"
  | badValue option value => s!"invalid value {Text.quote value} for --{option}"
  | repeated option => s!"--{option} cannot be used multiple times"
  | unneededValue option => s!"--{option} takes no value"
  | helpRequested => "help requested"
  | versionRequested => "version requested"

end ArgumentsError

inductive ValueOption
  | config
  | logLevel
  | pluginPort
  | transport
  | connect
  | forward
  | serverName
  deriving Repr, DecidableEq

namespace ValueOption

def all : List ValueOption :=
  [config, logLevel, pluginPort, transport, connect, forward, serverName]

def name : ValueOption → String
  | config => "config"
  | logLevel => "log-level"
  | pluginPort => "plugin-port"
  | transport => "transport"
  | connect => "connect"
  | forward => "forward"
  | serverName => "tls-sni"

def isRepeatable : ValueOption → Bool
  | connect | forward => true
  | _ => false

/-- Reads a port, with a sign in front or without. -/
def readPort? (text : String) : Option UInt16 :=
  match text.toList with
  | '-' :: '+' :: _ => none
  | '-' :: digits =>
    match Text.readUnsigned (UInt64.size / 2 + 1) (String.ofList digits) with
    | .ok 0 => some 0
    | _ => none
  | _ => (Text.readUnsigned UInt16.size text).toOption.map UInt16.ofNat

def enter (option : ValueOption) (value : String) (arguments : Arguments) :
    Except ArgumentsError Arguments :=
  let refused := ArgumentsError.badValue option.name value
  match option with
  | config =>
    if value.isEmpty then .error (.noValue option.name) else .ok { arguments with config := value }
  | logLevel => .ok { arguments with logLevel := value }
  | pluginPort =>
    match readPort? value with
    | none => .error refused
    | some port => .ok { arguments with pluginPort := some port }
  | transport =>
    match Transport.ofText value with
    | .error _ => .error refused
    | .ok known => .ok { arguments with transport := some known }
  | connect => .ok { arguments with connect := arguments.connect ++ [value] }
  | forward =>
    match ForwardRule.ofText value with
    | .error _ => .error refused
    | .ok rule => .ok { arguments with forward := arguments.forward ++ [rule] }
  | serverName => .ok { arguments with serverName := some value }

end ValueOption

/-- An option that was met and not looked at yet. -/
structure PendingOption where
  option : ValueOption
  value : Option String
  deriving Repr, DecidableEq

structure ArgumentsReader where
  arguments : Arguments
  given : List ValueOption
  pending : Option PendingOption
  ended : Bool
  deriving Repr, DecidableEq

namespace ArgumentsReader

def start : ArgumentsReader :=
  { arguments := .default, given := [], pending := none, ended := false }

def accept (reader : ArgumentsReader) (option : ValueOption) (value : String) :
    Except ArgumentsError ArgumentsReader :=
  if reader.given.contains option && !option.isRepeatable then .error (.repeated option.name)
  else
    (option.enter value reader.arguments).map fun arguments =>
      { reader with arguments, given := option :: reader.given }

def resolve (reader : ArgumentsReader) : Except ArgumentsError ArgumentsReader :=
  match reader.pending with
  | none => .ok reader
  | some { option, value := none } => .error (.noValue option.name)
  | some { option, value := some value } => { reader with pending := none }.accept option value

def isFlag (name : String) : Bool := ["no-call-home", "help", "version"].contains name

def readLong (reader : ArgumentsReader) (name : String) (attached : Option String) :
    Except ArgumentsError ArgumentsReader := do
  match ValueOption.all.find? (·.name = name), attached with
  | some option, some value => (← reader.resolve).accept option value
  | some option, none => return { ← reader.resolve with pending := some { option, value := none } }
  | none, attached =>
    if !isFlag name then throw (.unknown ("--" ++ name))
    else if attached.isSome then throw (.unneededValue name)
    else
      let reader ← reader.resolve
      if name = "help" then throw .helpRequested
      else if name = "version" then throw .versionRequested
      else if reader.arguments.noCallHome then throw (.repeated name)
      else return { reader with arguments := { reader.arguments with noCallHome := true } }

def readValue (reader : ArgumentsReader) (text : String) :
    Except ArgumentsError ArgumentsReader :=
  match reader.pending with
  | some { option, value := none } =>
    .ok { reader with pending := some { option, value := some text } }
  | _ => .error (.unknown text)

def read (reader : ArgumentsReader) (argument : String) :
    Except ArgumentsError ArgumentsReader := do
  if reader.ended then throw (.unknown argument)
  match argument.toList with
  | ['-', '-'] => return { reader with ended := true }
  | '-' :: '-' :: text =>
    match ForwardRule.splitFirst? '=' text with
    | some (name, value) => reader.readLong (String.ofList name) (some (String.ofList value))
    | none => reader.readLong (String.ofList text) none
  | '-' :: letter :: _ =>
    if letter = 'h' then reader.readLong "help" none
    else if letter = 'V' then reader.readLong "version" none
    else throw (.unknown argument)
  | _ => reader.readValue argument

end ArgumentsReader

def Arguments.ofList (arguments : List String) : Except ArgumentsError Arguments := do
  return (← (← arguments.foldlM ArgumentsReader.read .start).resolve).arguments

end SessionMux
