import SessionMux.Yaml.Scalar

/-!
The tokens of a document, and the readers of those that are more than a sign.
-/

namespace SessionMux.Yaml

inductive Token
  | version (major minor : Nat)
  /-- Gives tags that begin with `handle` another beginning. -/
  | handle (handle start : String)
  | documentStart
  | documentEnd
  | blockSequence
  | blockMapping
  /-- A block ends because its indentation does. -/
  | blockEnd
  | openSequence
  | closeSequence
  | openMapping
  | closeMapping
  | dash
  | comma
  | key
  | value
  | alias (name : String)
  | anchor (name : String)
  | tag (handle suffix : String)
  | scalar (text : String) (style : ScalarStyle)
  deriving Repr, DecidableEq

def readName (cursor : Cursor) : String × Cursor :=
  let name := cursor.rest.takeWhile isNameChar
  (String.ofList name, cursor.skip name.length)

def readAnchor (cursor : Cursor) : Option (String × Cursor) :=
  let (name, behind) := readName cursor
  let ends := endsWord behind.next? ||
    behind.next?.any ['?', ':', ',', ']', '}', '%', '@', '\x60'].contains
  if name.isEmpty || !ends then none else some (name, behind)

/-! ### Tags -/

/-- Reads the handle of a tag: an exclamation mark, and a name with a second one behind it. Without
the second one the name still belongs to what was read. -/
def readHandle (cursor : Cursor) : Option (List Char × Cursor) :=
  if !cursor.isAt '!' then none
  else
    let name := (cursor.skip 1).rest.takeWhile isNameChar
    let behind := cursor.skip (1 + name.length)
    if behind.isAt '!' then some ('!' :: name ++ ['!'], behind.skip 1)
    else some ('!' :: name, behind)

/-- Whether a character may stand in a tag; in some places brackets and commas may not. -/
def isTagChar (brackets : Bool) (c : Char) : Bool :=
  isNameChar c ||
    [';', '/', '?', ':', '@', '&', '=', '+', '$', '.', '!', '~', '*', '\'', '(', ')', '%'].contains
      c ||
    (brackets && [',', '[', ']'].contains c)

def encodedWidth? (first : Nat) : Option Nat :=
  if first < 0x80 then some 1
  else if 0xc0 ≤ first && first < 0xe0 then some 2
  else if 0xe0 ≤ first && first < 0xf0 then some 3
  else if 0xf0 ≤ first && first < 0xf8 then some 4
  else none

def percentByte? : List Char → Option Nat
  | '%' :: high :: low :: _ => Text.ofHex? [high, low]
  | _ => none

def readPercent (text : List Char) : Option (List Char × Nat) := do
  let width ← encodedWidth? (← percentByte? text)
  let bytes ← (List.range width).mapM fun place => percentByte? (text.drop (3 * place))
  let decoded ← String.fromUTF8? ⟨(bytes.map UInt8.ofNat).toArray⟩
  return (decoded.toList, 3 * width)

def readTagText (brackets : Bool) (text : List Char) : Nat → Cursor → Option (List Char × Cursor)
  | 0, cursor => some (text, cursor)
  | fuel + 1, cursor =>
    match cursor.next? with
    | none => some (text, cursor)
    | some c =>
      if !isTagChar brackets c then some (text, cursor)
      else if c = '%' then
        match readPercent cursor.rest with
        | none => none
        | some (decoded, count) =>
          readTagText brackets (text ++ decoded) fuel (cursor.skip count)
      else readTagText brackets (text ++ [c]) fuel (cursor.skip 1)

def readTag (inFlow : Bool) (cursor : Cursor) : Option (Token × Cursor) := do
  let fuel := cursor.rest.length + 1
  let (token, behind) ←
    if cursor.peek 1 = some '<' then do
      let (suffix, behind) ← readTagText true [] fuel (cursor.skip 2)
      if suffix.isEmpty || !behind.isAt '>' then none
      pure (Token.tag "" (String.ofList suffix), behind.skip 1)
    else do
      let (handle, behind) ← readHandle cursor
      if handle.length > 1 && handle.getLast? = some '!' then do
        let (suffix, behind) ← readTagText false [] fuel behind
        if suffix.isEmpty then none
        pure (Token.tag (String.ofList handle) (String.ofList suffix), behind)
      else do
        let (suffix, behind) ← readTagText false (handle.drop 1) fuel behind
        if suffix.isEmpty then pure (Token.tag "" "!", behind)
        else pure (Token.tag "!" (String.ofList suffix), behind)
  if (inFlow && behind.isAt ',') || endsWord behind.next? then return (token, behind) else none

/-! ### Directives -/

def readVersionNumber (cursor : Cursor) : Option (Nat × Cursor) :=
  let digits := cursor.rest.takeWhile Text.isDigit
  if digits.isEmpty || digits.length > 9 then none
  else some (Text.ofDigits digits, cursor.skip digits.length)

def readDirectiveText (name : String) (cursor : Cursor) : Option (Token × Cursor) := do
  let cursor' := cursor.skipWhile isBlank
  if name = "YAML" then
    let (major, cursor) ← readVersionNumber cursor'
    if !cursor.isAt '.' then none
    let (minor, cursor) ← readVersionNumber (cursor.skip 1)
    return (.version major minor, cursor)
  else if name = "TAG" then
    let (handle, cursor) ← readHandle cursor'
    if handle ≠ ['!'] && (handle.length = 1 || handle.getLast? ≠ some '!') then none
    if !cursor.isAtBlank then none
    let (start, cursor) ←
      readTagText true [] (cursor.rest.length + 1) (cursor.skipWhile isBlank)
    if start.isEmpty || !endsWord cursor.next? then none
    return (.handle (String.ofList handle) (String.ofList start), cursor)
  else none

def readDirective (cursor : Cursor) : Option (Token × Cursor) := do
  let (name, cursor) := readName cursor
  if name.isEmpty || !endsWord cursor.next? then none
  let (token, cursor) ← readDirectiveText name cursor
  let cursor := cursor.skipWhile isBlank
  let cursor := if cursor.isAt '#' then cursor.skipLine else cursor
  if cursor.isAtEnd || cursor.isAtBreak then return (token, cursor.skipBreak.2) else none

end SessionMux.Yaml
