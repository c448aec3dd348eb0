import SessionMux.Text.Number
import SessionMux.Yaml.Cursor

/-!
Scalars: plain, quoted, and as blocks. Each reader starts where the scalar begins and returns its
text and the place behind it, or nothing when the text there is no such scalar.
-/

namespace SessionMux.Yaml

inductive ScalarStyle
  | plain
  | singleQuoted
  | doubleQuoted
  | literal
  | folded
  deriving Repr, DecidableEq

structure Gap where
  /-- The blanks, when there is no line end. -/
  blanks : List Char
  /-- The first line end. -/
  first : List Char
  /-- The line ends after the first. -/
  later : List Char
  broken : Bool

namespace Gap

def none : Gap := { blanks := [], first := [], later := [], broken := false }

/-- What a gap contributes to the scalar: a single line end becomes a blank, of several the first
is left out. -/
def fold (gap : Gap) : List Char :=
  if !gap.broken then gap.blanks
  else if gap.first = ['\n'] then (if gap.later.isEmpty then [' '] else gap.later)
  else gap.first ++ gap.later

/-- Reads a gap. In a plain scalar no tab may stand where the line is not indented by `indent`. -/
def read (indent : Int) (gap : Gap) : Nat → Cursor → Option (Gap × Cursor)
  | 0, cursor => some (gap, cursor)
  | fuel + 1, cursor =>
    if cursor.isAtBlank then
      if gap.broken && cursor.column < indent && cursor.isAt '\t' then .none
      else if gap.broken then read indent gap fuel (cursor.skip 1)
      else
        let blanks := gap.blanks ++ cursor.next?.toList
        read indent { gap with blanks } fuel (cursor.skip 1)
    else if cursor.isAtBreak then
      let (line, cursor) := cursor.skipBreak
      if gap.broken then read indent { gap with later := gap.later ++ line } fuel cursor
      else read indent { gap with blanks := [], first := line, broken := true } fuel cursor
    else some (gap, cursor)

end Gap

/-! ### Plain scalars -/

/-- A word of a plain scalar. In a flow collection no colon may stand in front of its
punctuation. -/
def plainWord (inFlow : Bool) : List Char → Option (List Char)
  | [] => some []
  | c :: rest =>
    if isBlank c || isBreak c then some []
    else if inFlow && c = ':' && rest.head?.any [',', '?', '[', ']', '{', '}'].contains then none
    else if c = ':' && endsWord rest.head? then some []
    else if inFlow && [',', '[', ']', '{', '}'].contains c then some []
    else (plainWord inFlow rest).map (c :: ·)

/-- What a plain scalar is made of: its text, the place behind it, and whether a line end was read
after its last word. -/
structure PlainScalar where
  text : List Char
  behind : Cursor
  broken : Bool

def readPlain (inFlow : Bool) (indent : Int) (text : List Char) (gap : Gap) :
    Nat → Cursor → Option PlainScalar
  | 0, cursor => some { text, behind := cursor, broken := gap.broken }
  | fuel + 1, cursor =>
    if cursor.isAtAnyMarker || cursor.isAt '#' then
      some { text, behind := cursor, broken := gap.broken }
    else
      match plainWord inFlow cursor.rest with
      | none => none
      | some word =>
        let text := if word.isEmpty then text else text ++ gap.fold ++ word
        let gap := if word.isEmpty then gap else Gap.none
        let cursor := cursor.skip word.length
        if !(cursor.isAtBlank || cursor.isAtBreak) then
          some { text, behind := cursor, broken := gap.broken }
        else
          match gap.read indent (cursor.rest.length + 1) cursor with
          | none => none
          | some (gap, cursor) =>
            if !inFlow && cursor.column < indent then
              some { text, behind := cursor, broken := gap.broken }
            else readPlain inFlow indent text gap fuel cursor

/-! ### Quoted scalars -/

def shortEscape? : Char → Option Nat
  | '0' => some 0
  | 'a' => some 7
  | 'b' => some 8
  | 't' => some 9
  | '\t' => some 9
  | 'n' => some 10
  | 'v' => some 11
  | 'f' => some 12
  | 'r' => some 13
  | 'e' => some 27
  | ' ' => some 32
  | '"' => some 34
  | '/' => some 47
  | '\\' => some 92
  | 'N' => some 0x85
  | '_' => some 0xa0
  | 'L' => some 0x2028
  | 'P' => some 0x2029
  | _ => none

def escapeDigits? : Char → Option Nat
  | 'x' => some 2
  | 'u' => some 4
  | 'U' => some 8
  | _ => none

/-- Reads what follows a backslash: the character, and how many characters were read. -/
def readEscape : List Char → Option (Char × Nat)
  | [] => none
  | c :: rest =>
    match shortEscape? c, escapeDigits? c with
    | some code, _ => some (Char.ofNat code, 1)
    | none, some count => do
      let digits := rest.take count
      let code ← Text.ofHex? digits
      if digits.length < count || (0xd800 ≤ code && code ≤ 0xdfff) || code > 0x10ffff then none
      return (Char.ofNat code, count + 1)
    | none, none => none

structure QuotedWord where
  text : List Char
  behind : Cursor
  /-- Whether the word ended with a line end that was escaped. -/
  broken : Bool

def readQuotedWord (single : Bool) (text : List Char) : Nat → Cursor → Option QuotedWord
  | 0, cursor => some { text, behind := cursor, broken := false }
  | fuel + 1, cursor =>
    match cursor.rest with
    | [] => some { text, behind := cursor, broken := false }
    | c :: rest =>
      if isBlank c || isBreak c then some { text, behind := cursor, broken := false }
      else if single then
        if c = '\'' then
          if rest.head? = some '\'' then
            readQuotedWord single (text ++ ['\'']) fuel (cursor.skip 2)
          else some { text, behind := cursor, broken := false }
        else readQuotedWord single (text ++ [c]) fuel (cursor.skip 1)
      else if c = '"' then some { text, behind := cursor, broken := false }
      else if c = '\\' then
        if rest.head?.any isBreak then
          some { text, behind := (cursor.skip 1).skipBreak.2, broken := true }
        else
          match readEscape rest with
          | none => none
          | some (escaped, count) =>
            readQuotedWord single (text ++ [escaped]) fuel (cursor.skip (count + 1))
      else readQuotedWord single (text ++ [c]) fuel (cursor.skip 1)

def readQuoted (single : Bool) (text : List Char) : Nat → Cursor → Option (List Char × Cursor)
  | 0, _ => none
  | fuel + 1, cursor =>
    if cursor.isAtAnyMarker || cursor.isAtEnd then none
    else
      match readQuotedWord single [] (cursor.rest.length + 1) cursor with
      | none => none
      | some word =>
        let text := text ++ word.text
        if word.behind.isAt (if single then '\'' else '"') then
          some (text, word.behind.skip 1)
        else
          let gap := { Gap.none with broken := word.broken }
          match gap.read 0 (word.behind.rest.length + 1) word.behind with
          | none => none
          | some (gap, cursor) =>
            readQuoted single (text ++ gap.fold) fuel cursor

/-! ### Block scalars -/

inductive Chomping
  /-- One is kept. -/
  | clip
  /-- None is kept. -/
  | strip
  /-- All are kept. -/
  | keep
  deriving Repr, DecidableEq

def Chomping.ofSign? : Char → Option Chomping
  | '+' => some keep
  | '-' => some strip
  | _ => none

/-- Reads the signs in front of a block: chomping and indentation, in either order. -/
def readBlockSigns (cursor : Cursor) : Option (Chomping × Nat × Cursor) :=
  let chomping (cursor : Cursor) : Option Chomping := cursor.next?.bind Chomping.ofSign?
  let digit (cursor : Cursor) : Option Nat :=
    (cursor.next?.filter Text.isDigit).map Text.digitValue
  match chomping cursor, digit cursor with
  | some sign, _ =>
    let cursor := cursor.skip 1
    match digit cursor with
    | some 0 => none
    | some count => some (sign, count, cursor.skip 1)
    | none => some (sign, 0, cursor)
  | none, some 0 => none
  | none, some count =>
    let cursor := cursor.skip 1
    match chomping cursor with
    | some sign => some (sign, count, cursor.skip 1)
    | none => some (.clip, count, cursor)
  | none, none => some (.clip, 0, cursor)

/-- Reads empty lines and the indentation of the line behind them. Where `indent` is zero it is not
known yet; `widest` is then the widest indentation seen so far. -/
def readBlockBreaks (indent : Nat) (breaks : List Char) (widest : Nat) :
    Nat → Cursor → Option (List Char × Nat × Cursor)
  | 0, cursor => some (breaks, widest, cursor)
  | fuel + 1, cursor =>
    let spaces := (cursor.rest.takeWhile (· = ' ')).length
    let cursor := cursor.skip (if indent = 0 then spaces else min spaces (indent - cursor.column))
    let widest := max widest cursor.column
    if (indent = 0 || cursor.column < indent) && cursor.isAt '\t' then none
    else if !cursor.isAtBreak then some (breaks, widest, cursor)
    else
      let (line, cursor) := cursor.skipBreak
      readBlockBreaks indent (breaks ++ line) widest fuel cursor

structure Block where
  text : List Char
  /-- The line end of the last line. -/
  leading : List Char
  /-- The line ends of the empty lines behind it. -/
  trailing : List Char
  /-- Whether the last line began with a blank. -/
  blank : Bool

def Block.upTo (block : Block) (isLiteral blank : Bool) : List Char :=
  let leading :=
    if !isLiteral && block.leading.head? = some '\n' && !block.blank && !blank then
      (if block.trailing.isEmpty then [' '] else [])
    else block.leading
  block.text ++ leading ++ block.trailing

def readBlockLines (isLiteral : Bool) (indent : Nat) (block : Block) :
    Nat → Cursor → Option (Block × Cursor)
  | 0, cursor => some (block, cursor)
  | fuel + 1, cursor =>
    if cursor.column ≠ indent || cursor.isAtEnd then some (block, cursor)
    else
      let text := block.upTo isLiteral cursor.isAtBlank
      let line := cursor.rest.takeWhile fun c => !isBreak c
      let (leading, behind) := (cursor.skip line.length).skipBreak
      match readBlockBreaks indent [] 0 (behind.rest.length + 1) behind with
      | none => none
      | some (trailing, _, behind) =>
        readBlockLines isLiteral indent
          { text := text ++ line, leading, trailing, blank := cursor.isAtBlank } fuel behind

/-- Reads a block scalar from behind its first sign. `parent` is the indentation around it. -/
def readBlock (isLiteral : Bool) (parent : Int) (cursor : Cursor) :
    Option (List Char × Cursor) := do
  let (chomping, increment, cursor) ← readBlockSigns cursor
  let cursor := cursor.skipWhile isBlank
  let cursor := if cursor.isAt '#' then cursor.skipLine else cursor
  if !(cursor.isAtEnd || cursor.isAtBreak) then none
  let cursor := cursor.skipBreak.2
  let known := if increment = 0 then 0 else parent.toNat + increment
  let (trailing, widest, cursor) ← readBlockBreaks known [] 0 (cursor.rest.length + 1) cursor
  let indent := if known = 0 then max widest (max (parent + 1).toNat 1) else known
  let (block, cursor) ← readBlockLines isLiteral indent
    { text := [], leading := [], trailing, blank := false } (cursor.rest.length + 1) cursor
  let ending :=
    match chomping with
    | .strip => []
    | .clip => block.leading
    | .keep => block.leading ++ block.trailing
  return (block.text ++ ending, cursor)

end SessionMux.Yaml
