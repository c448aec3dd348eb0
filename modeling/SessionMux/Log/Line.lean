import SessionMux.Text.Number
import SessionMux.Text.Quoted

/-!
Lines of the log: `[time] [component] [LEVEL] message field=value`. The columns in front of the
message are of a fixed width, and have colors where the terminal shows them.
-/

namespace SessionMux

inductive LogLevel
  | error
  | warn
  | info
  | debug
  | trace
  deriving Repr, DecidableEq, Inhabited

namespace LogLevel

def all : List LogLevel := [error, warn, info, debug, trace]

def name : LogLevel → String
  | error => "ERROR"
  | warn => "WARN"
  | info => "INFO"
  | debug => "DEBUG"
  | trace => "TRACE"

def ofName? (name : String) : Option LogLevel := all.find? (·.name = name)

def color : LogLevel → String
  | error => "\x1b[91m"
  | warn => "\x1b[93m"
  | info => "\x1b[32m"
  | debug | trace => "\x1b[90m"

end LogLevel

inductive LogValue
  /-- A text that is given as such. -/
  | plain (text : String)
  /-- The description of a value, which has quotes around it where the value is a text. -/
  | described (text : String)
  deriving Repr, DecidableEq

def LogValue.text : LogValue → String
  | plain text | described text => text

/-- Something to be logged. Of its fields, `message` and `component` have places of their own in a
line, and the others follow in order. -/
structure LogRecord where
  level : LogLevel
  fields : List (String × LogValue)
  deriving Repr, DecidableEq

namespace LogRecord

def last? (record : LogRecord) (name : String) : Option LogValue :=
  record.fields.reverse.lookup name

def message (record : LogRecord) : String := ((record.last? "message").map LogValue.text).getD ""

def component? (record : LogRecord) : Option String :=
  (record.last? "component").map fun
    | .plain text => text
    | .described text =>
      let inner := text.toList.dropWhile (· = '"')
      String.ofList (inner.reverse.dropWhile (· = '"')).reverse

def details (record : LogRecord) : String :=
  let others := record.fields.filter fun field => field.1 ≠ "message" && field.1 ≠ "component"
  String.join (others.map fun field => s!" {field.1}={field.2.text}")

end LogRecord

structure LogStyle where
  service : String
  colored : Bool
  deriving Repr, DecidableEq

namespace LogStyle

/-- A style for a terminal of a type. Without a type, or with the type `dumb`, there are no
colors. -/
def forTerminal (service : String) (terminal : Option String) : LogStyle :=
  { service, colored := terminal.any (· ≠ "dumb") }

def componentWidth : Nat := 16

/-- The component column: the service, and the component behind a hyphen if there is one. A longer
name is cut, with an ellipsis at its end. -/
def componentColumn (style : LogStyle) (component : Option String) : String :=
  let name := style.service ++ (component.elim "" ("-" ++ ·))
  if name.length > componentWidth then
    String.ofList (name.toList.take (componentWidth - 1)) ++ "…"
  else Text.padRight componentWidth name

def reset : String := "\x1b[0m"

def cyan : String := "\x1b[36m"

def line (style : LogStyle) (time : String) (record : LogRecord) : String :=
  let code (text : String) : String := if style.colored then text else ""
  code cyan ++ "[" ++ time ++ "] [" ++ style.componentColumn record.component? ++ "] [" ++
    code record.level.color ++ Text.padRight 5 record.level.name ++ code reset ++ code cyan ++
    "] " ++ code reset ++ record.message ++ record.details ++ "\n"

end LogStyle

end SessionMux
