import SessionMux.Settings.Basic
import SessionMux.Time.SpanText
import SessionMux.Yaml.Node

/-!
Settings from a document. A setting that the document does not name keeps its default, and what the
document names besides the settings is passed over. There is a result only if every setting that is
named can be read.
-/

namespace SessionMux

namespace Yaml

/-- A node that is no alias: the node itself, or the one for which it stands. -/
def Document.follow? (document : Document) : Node → Option Node
  | .alias number => document.resolve? number
  | node => some node

def Document.textOf? (document : Document) (node : Node) : Option String := do
  match ← document.follow? node with
  | .scalar text .. => return text
  | _ => none

/-- The entries of a mapping, under the texts of their keys. An empty scalar is an empty mapping. -/
def Document.entriesOf? (document : Document) (node : Node) : Option (List (String × Node)) := do
  match ← document.follow? node with
  | .mapping entries =>
    entries.mapM fun (key, value) => return (← document.textOf? key, value)
  | .scalar "" .plain _ => return []
  | _ => none

def commonTag (name : String) : String := "tag:yaml.org,2002:" ++ name

/-- Whether a scalar can be more than a text: a plain one, or a literal block with a tag. -/
def isTyped (style : ScalarStyle) (tag : Option String) (name : String) : Bool :=
  style = .plain || (style = .literal && tag = some (commonTag name))

def digitIn? (base : Nat) (c : Char) : Option Nat := (Text.hexValue? c).filter (· < base)

def ofDigitsIn? (base : Nat) (digits : List Char) : Option Nat :=
  if digits.isEmpty then none
  else digits.foldlM (fun value digit => (digitIn? base digit).map (value * base + ·)) 0

/-- The number that a scalar writes. Besides decimal numbers without a zero in front there are
hexadecimal, octal and binary ones. -/
def unsigned? (text : String) : Option Nat :=
  let digits :=
    match text.toList with
    | '+' :: rest => rest
    | digits => digits
  match digits with
  | '0' :: 'x' :: rest => ofDigitsIn? 16 rest
  | '0' :: 'o' :: rest => ofDigitsIn? 8 rest
  | '0' :: 'b' :: rest => ofDigitsIn? 2 rest
  | '0' :: _ :: _ => none
  | digits => ofDigitsIn? 10 digits

def boolean? (text : String) : Option Bool :=
  if ["true", "True", "TRUE"].contains text then some true
  else if ["false", "False", "FALSE"].contains text then some false
  else none

def isNull (text : String) : Bool := ["null", "Null", "NULL", "~"].contains text

def Document.numberOf? (document : Document) (bound : Nat) (node : Node) : Option Nat := do
  match ← document.follow? node with
  | .scalar text style tag =>
    if isTyped style tag "int" then (unsigned? text).filter (· < bound) else none
  | _ => none

def Document.booleanOf? (document : Document) (node : Node) : Option Bool := do
  match ← document.follow? node with
  | .scalar text style tag => if isTyped style tag "bool" then boolean? text else none
  | _ => none

def Document.optionOf? {α : Type} (document : Document) (read : Node → Option α) (node : Node) :
    Option (Option α) := do
  match ← document.follow? node with
  | .scalar text .plain none =>
    if text.isEmpty || isNull text then return none else return some (← read node)
  | .scalar text .plain (some tag) =>
    if tag = commonTag "null" then (if isNull text then return none else failure)
    else return some (← read node)
  | _ => return some (← read node)

def Document.spanOf? (document : Document) (node : Node) : Option Span := do
  Span.ofText? (← document.textOf? node)

/-- The entries that have one of some names, if no two have the same. -/
def Document.fieldsOf? (document : Document) (names : List String) (node : Node) :
    Option (List (String × Node)) := do
  let fields := (← document.entriesOf? node).filter fun field => names.contains field.1
  if (fields.map Prod.fst).Nodup then return fields else none

def readField {α : Type} (fields : List (String × Node)) (name : String)
    (read : Node → Option α) (default : α) : Option α :=
  match fields.lookup name with
  | none => some default
  | some node => read node

end Yaml

open Yaml

def DialSettings.ofNode? (document : Document) (node : Node) : Option DialSettings := do
  let fields ← document.fieldsOf?
    ["connect_timeout", "initial_backoff", "max_backoff", "max_retries", "reconnect_on_drop"] node
  let start := DialSettings.default
  let connectTimeout ←
    readField fields "connect_timeout" document.spanOf? start.backoff.connectTimeout
  let initial ← readField fields "initial_backoff" document.spanOf? start.backoff.initial
  let longest ← readField fields "max_backoff" document.spanOf? start.backoff.longest
  let maxRetries ←
    readField fields "max_retries" (document.optionOf? (document.numberOf? UInt32.size))
      start.backoff.maxRetries
  let reconnectOnDrop ←
    readField fields "reconnect_on_drop" document.booleanOf? start.reconnectOnDrop
  return { backoff := { connectTimeout, initial, longest, maxRetries }, reconnectOnDrop }

def SecuritySettings.ofNode? (document : Document) (node : Node) : Option SecuritySettings := do
  let fields ← document.fieldsOf? ["enabled", "root", "cert_file", "key_file", "ca_file"] node
  let start := SecuritySettings.default
  let enabled ← readField fields "enabled" document.booleanOf? start.enabled
  let root ← readField fields "root" document.textOf? start.root
  let certFile ← readField fields "cert_file" document.textOf? start.certFile
  let keyFile ← readField fields "key_file" document.textOf? start.keyFile
  let caFile ← readField fields "ca_file" document.textOf? start.caFile
  return { enabled, root, certFile, keyFile, caFile }

def Settings.ofNode? (document : Document) (node : Node) : Option Settings := do
  let fields ← document.fieldsOf?
    ["plugin_port", "agent_port", "max_error_number", "max_thread_number", "max_payload",
      "log_error_events", "error_window", "reconnect", "security"] node
  let start := Settings.default
  let port (node : Node) : Option UInt16 := (document.numberOf? UInt16.size node).map UInt16.ofNat
  let number := document.numberOf? UInt64.size
  let pluginPort ← readField fields "plugin_port" port start.pluginPort
  let agentPort ← readField fields "agent_port" port start.agentPort
  let maxErrors ← readField fields "max_error_number" number start.maxErrors
  let workers ← readField fields "max_thread_number" number start.workers
  let maxPayload ← readField fields "max_payload" number start.maxPayload
  let logErrorEvents ←
    readField fields "log_error_events" document.booleanOf? start.logErrorEvents
  let errorWindow ← readField fields "error_window" document.spanOf? start.errorWindow
  let dial ← readField fields "reconnect" (DialSettings.ofNode? document) start.dial
  let security ← readField fields "security" (SecuritySettings.ofNode? document) start.security
  return { pluginPort, agentPort, maxErrors, workers, maxPayload, logErrorEvents, errorWindow,
           dial, security }

def Settings.ofText? (text : String) : Option Settings := do
  let document ← Document.ofText? text
  Settings.ofNode? document document.root

end SessionMux
