/-!
A place in a text that is read: what lies ahead, and the line and column of it.
-/

namespace SessionMux.Yaml

structure Cursor where
  rest : List Char
  /-- Characters behind. -/
  index : Nat
  line : Nat
  column : Nat
  deriving Repr

def isBreak (c : Char) : Bool :=
  c = '\n' || c = '\r' || c.toNat = 0x85 || c.toNat = 0x2028 || c.toNat = 0x2029

def isBlank (c : Char) : Bool := c = ' ' || c = '\t'

/-- Whether a word ends before what lies ahead: at a blank, a line's end or the end of the text. -/
def endsWord : Option Char → Bool
  | none => true
  | some c => isBlank c || isBreak c

def isNameChar (c : Char) : Bool :=
  ('0' ≤ c && c ≤ '9') || ('a' ≤ c && c ≤ 'z') || ('A' ≤ c && c ≤ 'Z') || c = '_' || c = '-'

def isAllowed (c : Char) : Bool :=
  let n := c.toNat
  n = 9 || n = 10 || n = 13 || (0x20 ≤ n && n ≤ 0x7e) || n = 0x85 || (0xa0 ≤ n && n ≤ 0xd7ff) ||
    (0xe000 ≤ n && n ≤ 0xfffd) || 0x10000 ≤ n

namespace Cursor

def start (text : List Char) : Cursor := { rest := text, index := 0, line := 0, column := 0 }

def peek (cursor : Cursor) (offset : Nat) : Option Char := cursor.rest[offset]?

def next? (cursor : Cursor) : Option Char := cursor.rest.head?

def isAt (cursor : Cursor) (c : Char) : Bool := cursor.next? == some c

def isAtEnd (cursor : Cursor) : Bool := cursor.rest.isEmpty

def isAtBreak (cursor : Cursor) : Bool := cursor.next?.any isBreak

def isAtBlank (cursor : Cursor) : Bool := cursor.next?.any isBlank

def skip (cursor : Cursor) (count : Nat) : Cursor :=
  { cursor with
    rest := cursor.rest.drop count
    index := cursor.index + count
    column := cursor.column + count }

def skipWhile (cursor : Cursor) (property : Char → Bool) : Cursor :=
  cursor.skip (cursor.rest.takeWhile property).length

/-- Goes over the end of a line, and tells which character stands for it. There may be none. -/
def skipBreak (cursor : Cursor) : List Char × Cursor :=
  let behind (count : Nat) : Cursor :=
    { rest := cursor.rest.drop count
      index := cursor.index + count
      line := cursor.line + 1
      column := 0 }
  match cursor.rest with
  | '\r' :: '\n' :: _ => (['\n'], behind 2)
  | c :: _ =>
    if c.toNat = 0x2028 || c.toNat = 0x2029 then ([c], behind 1)
    else if isBreak c then (['\n'], behind 1)
    else ([], cursor)
  | [] => ([], cursor)

def skipLine (cursor : Cursor) : Cursor := cursor.skipWhile fun c => !isBreak c

/-- Whether a line begins here with three dashes, or three dots, alone. -/
def isAtMarker (cursor : Cursor) (c : Char) : Bool :=
  cursor.column == 0 && cursor.rest.take 3 == [c, c, c] && endsWord (cursor.peek 3)

def isAtAnyMarker (cursor : Cursor) : Bool := cursor.isAtMarker '-' || cursor.isAtMarker '.'

end Cursor

end SessionMux.Yaml
