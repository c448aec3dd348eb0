/-!
Numbers in text: digits, sign and padding.
-/

namespace SessionMux.Text

def isDigit (c : Char) : Bool := '0' ≤ c && c ≤ '9'

def digitValue (c : Char) : Nat := c.toNat - '0'.toNat

def ofDigits (digits : List Char) : Nat :=
  digits.foldl (fun value digit => value * 10 + digitValue digit) 0

def hexValue? (c : Char) : Option Nat :=
  if isDigit c then some (digitValue c)
  else if 'a' ≤ c && c ≤ 'f' then some (c.toNat - 'a'.toNat + 10)
  else if 'A' ≤ c && c ≤ 'F' then some (c.toNat - 'A'.toNat + 10)
  else none

def ofHex? (digits : List Char) : Option Nat :=
  digits.foldlM (fun value digit => (hexValue? digit).map (value * 16 + ·)) 0

def toHex (value : Nat) : String := String.ofList (Nat.toDigits 16 value)

def padZeros (width : Nat) (text : String) : String :=
  String.ofList (List.replicate (width - text.length) '0') ++ text

def padRight (width : Nat) (text : String) : String :=
  text ++ String.ofList (List.replicate (width - text.length) ' ')

def decimal (width value : Nat) : String := padZeros width (toString value)

inductive NumberError
  | empty
  | invalidDigit
  | tooLarge
  deriving Repr, DecidableEq

def NumberError.message : NumberError → String
  | empty => "cannot parse integer from empty string"
  | invalidDigit => "invalid digit found in string"
  | tooLarge => "number too large to fit in target type"

/-- Reads an unsigned decimal number below `bound`, with a plus sign in front or without. The
first character that is no digit and the first digit that leads out of range compete: the earlier
one is reported. -/
def readUnsigned (bound : Nat) (text : String) : Except NumberError Nat :=
  match text.toList with
  | [] => .error .empty
  | ['+'] => .error .invalidDigit
  | '+' :: digits => step 0 digits
  | digits => step 0 digits
where
  step (value : Nat) : List Char → Except NumberError Nat
    | [] => .ok value
    | c :: rest =>
      if !isDigit c then .error .invalidDigit
      else if value * 10 + digitValue c < bound then step (value * 10 + digitValue c) rest
      else .error .tooLarge

end SessionMux.Text
