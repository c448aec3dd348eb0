import SessionMux.Yaml.Token

/-!
From the text of a stream of documents to its tokens. Blocks are told by indentation, so a lexer
remembers the indentations of the blocks that are open. That something was the key of a mapping
shows only at the colon behind it, so a lexer also remembers where the last thing began that may
turn out to be a key.
-/

namespace SessionMux.Yaml

/-- Where something begins that may turn out to be a key. -/
structure KeyStart where
  /-- The number of tokens in front of it. -/
  token : Nat
  index : Nat
  line : Nat
  column : Nat
  /-- Whether nothing else than a key can stand there. -/
  required : Bool

structure Lexer where
  cursor : Cursor
  /-- The indentation of the innermost open block, -1 outside of all. -/
  indent : Int
  /-- The indentations around it, innermost first. -/
  outer : List Int
  /-- How many flow collections are open. -/
  flow : Nat
  keyAllowed : Bool
  /-- The possible keys, one for each open flow collection and one for the blocks around them. -/
  keys : List (Option KeyStart)
  tokens : List Token

namespace Lexer

/-- Before the first token. A mark of byte order is passed over, but takes up a column. -/
def start (text : List Char) : Lexer where
  cursor :=
    let cursor := Cursor.start text
    if cursor.isAt '\ufeff' then cursor.skip 1 else cursor
  indent := -1
  outer := []
  flow := 0
  keyAllowed := true
  keys := [none]
  tokens := []

def inFlow (lexer : Lexer) : Bool := lexer.flow > 0

def emit (lexer : Lexer) (token : Token) : Lexer := { lexer with tokens := lexer.tokens ++ [token] }

def emitSign (lexer : Lexer) (token : Token) (length : Nat) : Lexer :=
  { lexer with cursor := lexer.cursor.skip length }.emit token

/-! ### Indentation -/

/-- Opens a block if the column lies beyond the indentation. Its token goes behind the first
`place` tokens. -/
def openBlock (lexer : Lexer) (column place : Nat) (token : Token) : Lexer :=
  if !lexer.inFlow && lexer.indent < column then
    { lexer with
      indent := column
      outer := lexer.indent :: lexer.outer
      tokens := lexer.tokens.insertIdx place token }
  else lexer

/-- The indentation that is left when the blocks beyond a column are closed, the ones around it, and
how many blocks that are. -/
def dedent (column indent : Int) : List Int → Int × List Int × Nat
  | [] => (indent, [], 0)
  | around :: outer =>
    if indent > column then
      let (indent, outer, count) := dedent column around outer
      (indent, outer, count + 1)
    else (indent, around :: outer, 0)

def closeBlocks (lexer : Lexer) (column : Int) : Lexer :=
  if lexer.inFlow then lexer
  else
    let (indent, outer, count) := dedent column lexer.indent lexer.outer
    { lexer with indent, outer, tokens := lexer.tokens ++ List.replicate count .blockEnd }

/-! ### Possible keys -/

/-- Forgets the innermost possible key. One that was required has failed. -/
def dropKey (lexer : Lexer) : Option Lexer :=
  match lexer.keys with
  | some key :: keys => if key.required then none else some { lexer with keys := none :: keys }
  | _ => some lexer

def noteKey (lexer : Lexer) : Option Lexer :=
  if !lexer.keyAllowed then some lexer
  else
    lexer.dropKey.map fun lexer =>
      let key : KeyStart :=
        { token := lexer.tokens.length
          index := lexer.cursor.index
          line := lexer.cursor.line
          column := lexer.cursor.column
          required := !lexer.inFlow && lexer.indent = lexer.cursor.column }
      { lexer with keys := some key :: lexer.keys.drop 1 }

/-- Forgets the possible keys that began on another line or too long ago. -/
def dropStaleKeys (lexer : Lexer) : Option Lexer := do
  let cursor := lexer.cursor
  let keys ← lexer.keys.mapM fun
    | some key =>
      if key.line < cursor.line || key.index + 1024 < cursor.index then
        (if key.required then none else some none)
      else some (some key)
    | none => some none
  return { lexer with keys }

/-! ### One token -/

def fetchDirective (lexer : Lexer) : Option Lexer := do
  let lexer ← (lexer.closeBlocks (-1)).dropKey
  let (token, cursor) ← readDirective (lexer.cursor.skip 1)
  return { lexer with cursor, keyAllowed := false }.emit token

def fetchMarker (lexer : Lexer) (token : Token) : Option Lexer := do
  let lexer ← (lexer.closeBlocks (-1)).dropKey
  return { lexer with keyAllowed := false }.emitSign token 3

def fetchOpen (lexer : Lexer) (token : Token) : Option Lexer := do
  let lexer ← lexer.noteKey
  return { lexer with
    flow := lexer.flow + 1, keys := none :: lexer.keys, keyAllowed := true }.emitSign token 1

def fetchClose (lexer : Lexer) (token : Token) : Option Lexer := do
  let lexer ← lexer.dropKey
  let keys := if lexer.inFlow then lexer.keys.drop 1 else lexer.keys
  return { lexer with flow := lexer.flow - 1, keys, keyAllowed := false }.emitSign token 1

def fetchComma (lexer : Lexer) : Option Lexer := do
  let lexer ← lexer.dropKey
  return { lexer with keyAllowed := true }.emitSign .comma 1

/-- Begins an entry with a sign of its own, which opens a block where it stands deeper. -/
def fetchEntry (lexer : Lexer) (block token : Token) (keyAllowed : Bool) : Option Lexer := do
  if !lexer.inFlow && !lexer.keyAllowed then none
  let lexer ← (lexer.openBlock lexer.cursor.column lexer.tokens.length block).dropKey
  return { lexer with keyAllowed }.emitSign token 1

/-- A colon: what was a possible key is one now. -/
def fetchValue (lexer : Lexer) : Option Lexer :=
  match lexer.keys with
  | some key :: keys =>
    let lexer := { lexer with tokens := lexer.tokens.insertIdx key.token .key }
    let lexer := lexer.openBlock key.column key.token .blockMapping
    some ({ lexer with keys := none :: keys, keyAllowed := false }.emitSign .value 1)
  | _ =>
    if !lexer.inFlow && !lexer.keyAllowed then none
    else
      let lexer := lexer.openBlock lexer.cursor.column lexer.tokens.length .blockMapping
      some ({ lexer with keyAllowed := !lexer.inFlow }.emitSign .value 1)

def fetchAnchor (lexer : Lexer) (token : String → Token) : Option Lexer := do
  let lexer ← lexer.noteKey
  let (name, cursor) ← readAnchor (lexer.cursor.skip 1)
  return { lexer with cursor, keyAllowed := false }.emit (token name)

def fetchTag (lexer : Lexer) : Option Lexer := do
  let lexer ← lexer.noteKey
  let (token, cursor) ← readTag lexer.inFlow lexer.cursor
  return { lexer with cursor, keyAllowed := false }.emit token

def fetchBlock (lexer : Lexer) (style : ScalarStyle) : Option Lexer := do
  let lexer ← lexer.dropKey
  let (text, cursor) ← readBlock (style = .literal) lexer.indent (lexer.cursor.skip 1)
  return { lexer with cursor, keyAllowed := true }.emit (.scalar (String.ofList text) style)

def fetchQuoted (lexer : Lexer) (style : ScalarStyle) : Option Lexer := do
  let lexer ← lexer.noteKey
  let opened := lexer.cursor.skip 1
  let (text, cursor) ← readQuoted (style = .singleQuoted) [] (opened.rest.length + 1) opened
  return { lexer with cursor, keyAllowed := false }.emit (.scalar (String.ofList text) style)

def fetchPlain (lexer : Lexer) : Option Lexer := do
  let lexer ← lexer.noteKey
  let plain ← readPlain lexer.inFlow (lexer.indent + 1) [] .none (lexer.cursor.rest.length + 1)
    lexer.cursor
  return { lexer with cursor := plain.behind, keyAllowed := plain.broken }.emit
    (.scalar (String.ofList plain.text) .plain)

def signs : List Char :=
  ['-', '?', ':', ',', '[', ']', '{', '}', '#', '&', '*', '!', '|', '>', '\'', '"', '%', '@',
    '\x60']

def beginsPlain (inFlow : Bool) (c : Char) (next : Option Char) : Bool :=
  !(isBlank c || isBreak c || signs.contains c) || (c = '-' && !next.any isBlank) ||
    (!inFlow && (c = '?' || c = ':') && !endsWord next)

def fetch (lexer : Lexer) (c : Char) : Option Lexer :=
  let cursor := lexer.cursor
  let alone := endsWord (cursor.peek 1)
  if cursor.column = 0 && c = '%' then lexer.fetchDirective
  else if cursor.isAtMarker '-' then lexer.fetchMarker .documentStart
  else if cursor.isAtMarker '.' then lexer.fetchMarker .documentEnd
  else if c = '[' then lexer.fetchOpen .openSequence
  else if c = '{' then lexer.fetchOpen .openMapping
  else if c = ']' then lexer.fetchClose .closeSequence
  else if c = '}' then lexer.fetchClose .closeMapping
  else if c = ',' then lexer.fetchComma
  else if c = '-' && alone then lexer.fetchEntry .blockSequence .dash true
  else if c = '?' && (lexer.inFlow || alone) then
    lexer.fetchEntry .blockMapping .key (!lexer.inFlow)
  else if c = ':' && (lexer.inFlow || alone) then lexer.fetchValue
  else if c = '*' then lexer.fetchAnchor .alias
  else if c = '&' then lexer.fetchAnchor .anchor
  else if c = '!' then lexer.fetchTag
  else if c = '|' && !lexer.inFlow then lexer.fetchBlock .literal
  else if c = '>' && !lexer.inFlow then lexer.fetchBlock .folded
  else if c = '\'' then lexer.fetchQuoted .singleQuoted
  else if c = '"' then lexer.fetchQuoted .doubleQuoted
  else if beginsPlain lexer.inFlow c (cursor.peek 1) then lexer.fetchPlain
  else none

/-! ### All tokens -/

/-- Goes to where the next token begins: over blanks, comments and line ends. A tab is no blank
where a key may begin. -/
def toNext (lexer : Lexer) : Nat → Lexer
  | 0 => lexer
  | fuel + 1 =>
    let tabs := lexer.inFlow || !lexer.keyAllowed
    let cursor := lexer.cursor.skipWhile fun c => c = ' ' || (tabs && c = '\t')
    let cursor := if cursor.isAt '#' then cursor.skipLine else cursor
    if cursor.isAtBreak then
      toNext
        { lexer with
          cursor := cursor.skipBreak.2
          keyAllowed := lexer.keyAllowed || !lexer.inFlow } fuel
    else { lexer with cursor }

def run (lexer : Lexer) : Nat → Option (List Token)
  | 0 => none
  | fuel + 1 => do
    let lexer ← (lexer.toNext (lexer.cursor.rest.length + 1)).dropStaleKeys
    match lexer.cursor.next? with
    | none =>
      let lexer ← (lexer.closeBlocks (-1)).dropKey
      return lexer.tokens
    | some c => run (← (lexer.closeBlocks lexer.cursor.column).fetch c) fuel

end Lexer

def Token.ofText? (text : String) : Option (List Token) :=
  let text := text.toList
  if text.all isAllowed then (Lexer.start text).run (text.length + 1) else none

end SessionMux.Yaml
