import SessionMux.Log.Line
import SessionMux.Text.Blank

/-!
Which records are logged. A filter is a list of directives, each of which names a level for what
comes from one part of the program, possibly only inside a span with certain fields. The directives
come from the environment if it has any that can be read; otherwise a level is given for the parts
of this program.
-/

namespace SessionMux

/-- The least important level that passes; `none` lets nothing pass. -/
abbrev LogThreshold := Option LogLevel

namespace LogThreshold

/-- All thresholds; the place in the list is the number of the threshold. -/
def all : List LogThreshold := none :: LogLevel.all.map some

def name (threshold : LogThreshold) : String :=
  threshold.elim "off" fun level => level.name.map Char.toLower

def ofText? (text : String) : Option LogThreshold :=
  let named := all.find? fun threshold => threshold.name = text.map Char.toLower
  match Text.readUnsigned UInt64.size text with
  | .ok number => all[number]?
  | .error _ => named

end LogThreshold

/-- A field that a span must have, with a value or with any. -/
structure SpanField where
  name : String
  value : Option String
  deriving Repr, DecidableEq

namespace SpanField

def canonical (text : String) : String :=
  match Text.readUnsigned UInt64.size text, text.toList with
  | .ok number, _ => toString number
  | .error _, '-' :: digits =>
    match Text.readUnsigned (UInt64.size / 2 + 1) (String.ofList digits) with
    | .ok number => if digits.head? = some '+' then text else toString (-(number : Int))
    | .error _ => text
  | .error _, _ => text

/-- Reads a field: what stands behind a second equals sign does not count. -/
def ofText (text : String) : SpanField :=
  match text.splitOn "=" with
  | name :: value :: _ => { name, value := some (canonical value) }
  | _ => { name := text, value := none }

def text (field : SpanField) : String :=
  field.value.elim field.name fun value => field.name ++ "=" ++ value

end SpanField

structure LogDirective where
  /-- The part of the program, or all of it. -/
  target : Option String
  span : Option String
  fields : List SpanField
  threshold : LogThreshold
  deriving Repr, DecidableEq

namespace LogDirective

def ofThreshold (threshold : LogThreshold) : LogDirective :=
  { target := none, span := none, fields := [], threshold }

def text (directive : LogDirective) : String :=
  let fields := directive.fields.map SpanField.text
  let inner :=
    (directive.span.getD "") ++
      (if fields.isEmpty then "" else "\x7b" ++ ",".intercalate fields ++ "\x7d")
  let span := if directive.span.isSome || !fields.isEmpty then "[" ++ inner ++ "]" else ""
  let scope := directive.target.getD "" ++ span
  (if directive.target.isSome || !span.isEmpty then scope ++ "=" else "") ++
    directive.threshold.name

/-- Whether two rules are about the same records, so that the later one replaces the other. -/
def sameScope (directive other : LogDirective) : Bool :=
  directive.target = other.target && directive.span = other.span && directive.fields = other.fields

def holdsOutside (directive : LogDirective) : Bool :=
  directive.span.isNone && directive.fields.all (·.value.isNone)

def holdsInside (directive : LogDirective) : Bool :=
  directive.span.isSome || !directive.fields.isEmpty

inductive Part
  | start
  /-- A level or a target, from the given character on. -/
  | word (since : Nat)
  | span (since : Nat)
  | field (since : Nat)
  | fieldsEnd
  | spanEnd
  | level (since : Nat)
  | complete
  deriving Repr, DecidableEq

/-- The threshold of a text behind an equals sign. Without a text all levels pass. -/
def thresholdOf? (text : String) : Option LogThreshold :=
  if text.isEmpty then some (some .trace) else LogThreshold.ofText? text

/-- A word alone is a level if it can be one, and otherwise a target of which all levels pass. -/
def ofWord (directive : LogDirective) (word : String) : LogDirective :=
  match thresholdOf? word with
  | some threshold => { directive with threshold, target := none }
  | none => { directive with threshold := some .trace, target := some word }

def beginsWord (c : Char) : Bool :=
  c = '-' || c = ':' || c = '_' || c.isAlphanum ||
    (c.toNat ≥ 0x80 && !Text.isBlank c && !Text.isInvisible c)

def step (text : List Char) (state : LogDirective × Part) (place : Nat) (c : Char) :
    Option (LogDirective × Part) :=
  let (directive, part) := state
  let since (start : Nat) : String := String.ofList ((text.take place).drop start)
  match part with
  | .start =>
    if c = '[' then some (directive, .span (place + 1))
    else if beginsWord c then some (directive, .word place)
    else none
  | .word start =>
    if c = '=' then some ({ directive with target := some (since start) }, .level (place + 1))
    else if c = '[' then some ({ directive with target := some (since start) }, .span (place + 1))
    else if c = ',' then some (directive.ofWord (String.ofList (text.drop start)), .complete)
    else some (directive, part)
  | .span start =>
    if c = ']' then some ({ directive with span := some (since start) }, .spanEnd)
    else if c = '\x7b' then
      let span := if (since start).isEmpty then none else some (since start)
      some ({ directive with span }, .field (place + 1))
    else some (directive, part)
  | .field start =>
    if c = '\x7d' || c = ',' then
      if (since start).isEmpty then none
      else
        some ({ directive with fields := directive.fields ++ [.ofText (since start)] },
          if c = ',' then .field (place + 1) else .fieldsEnd)
    else some (directive, part)
  | .fieldsEnd => if c = ']' then some (directive, .spanEnd) else none
  | .spanEnd => if c = '=' then some (directive, .level (place + 1)) else none
  | .level start =>
    if c = ',' then
      (thresholdOf? (since start)).map fun threshold =>
        ({ directive with threshold }, .complete)
    else some (directive, part)
  | .complete => none

def read (text : List Char) (state : LogDirective × Part) (place : Nat) :
    List Char → Option (LogDirective × Part)
  | [] => some state
  | c :: rest => do read text (← step text state place c) (place + 1) rest

/-- Reads a rule: `level`, `target`, `target=level`, and `target[span]=level`, where fields in
braces may stand behind the name of the span. Blanks at the ends do not count as characters to be
read, but the parts are cut from the text that has them. -/
def ofText? (text : String) : Option LogDirective := do
  let text := text.toList
  let (directive, part) ←
    read text (.ofThreshold (some .trace), .start) 0 (Text.trim text)
  match part with
  | .word start => return directive.ofWord (String.ofList (text.drop start))
  | .level start =>
    return { directive with threshold := ← thresholdOf? (String.ofList (text.drop start)) }
  | .spanEnd | .complete => return directive
  | _ => none

end LogDirective

structure LogFilter where
  directives : List LogDirective
  deriving Repr, DecidableEq

namespace LogFilter

/-- Adds a rule, in the place of one for the same records. -/
def add (filter : LogFilter) (directive : LogDirective) : LogFilter :=
  { directives := filter.directives.filter (!·.sameScope directive) ++ [directive] }

def ofDirectives (directives : List LogDirective) : LogFilter :=
  directives.foldl add { directives := [] }

def ofText? (text : String) : Option LogFilter := do
  let parts := (text.splitOn ",").filter (!·.isEmpty)
  return ofDirectives (← parts.mapM LogDirective.ofText?)

def targets : List String := ["usc", "usc_wire", "usc_session", "usc_monitor"]

/-- The filter for a level: it holds for the parts of this program, and elsewhere what is worth to
know is logged. -/
def ofLevel? (level : String) : Option LogFilter := do
  let directives ← targets.mapM fun target => LogDirective.ofText? (target ++ "=" ++ level)
  return ofDirectives (.ofThreshold (some .info) :: directives)

def choose? (environment : Option String) (level : String) : Option LogFilter :=
  (environment.bind ofText?).orElse fun _ => ofLevel? level

/-- The text of a filter: first the rules that hold outside of spans, then those about spans. A rule
that only asks for fields to be there is among both. -/
def text (filter : LogFilter) : String :=
  let outside := filter.directives.filter LogDirective.holdsOutside
  let inside := filter.directives.filter LogDirective.holdsInside
  ",".intercalate ((outside ++ inside).map LogDirective.text)

end LogFilter

end SessionMux
