import SessionMux.Text.Number

/-!
Universally unique identifiers: 128 bits, written as 32 hexadecimal digits in five groups.
-/

namespace SessionMux

structure Uuid where
  /-- The identifier as a number below 2 ^ 128. -/
  value : Nat
  deriving Repr, DecidableEq, Inhabited

namespace Uuid

def ofGroups? (text : List Char) : Option Uuid :=
  let hyphens := [8, 13, 18, 23]
  if text.length = 36 ∧ hyphens.all fun place => text[place]? = some '-' then
    let digits := text.zipIdx.filterMap fun (c, place) =>
      if hyphens.contains place then none else some c
    (Text.ofHex? digits).map Uuid.mk
  else
    none

/-- Reads 32 digits, or five groups of them, which may stand in braces or behind `urn:uuid:`. -/
def ofText? (text : String) : Option Uuid :=
  let chars := text.toList
  if chars.length = 32 then (Text.ofHex? chars).map Uuid.mk
  else if chars.length = 38 then
    if chars.head? = some '{' ∧ chars.getLast? = some '}' then ofGroups? (chars.drop 1).dropLast
    else none
  else if "urn:uuid:".toList.isPrefixOf chars then ofGroups? (chars.drop 9)
  else ofGroups? chars

def text (id : Uuid) : String :=
  let digits := (Text.padZeros 32 (Text.toHex id.value)).toList
  let group := fun (start size : Nat) => String.ofList ((digits.drop start).take size)
  s!"{group 0 8}-{group 8 4}-{group 12 4}-{group 16 4}-{group 20 12}"

end Uuid

end SessionMux
