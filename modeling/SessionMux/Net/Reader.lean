import SessionMux.Net.Socket

/-!
Reading internet addresses and socket addresses. Each reader takes what it reads off the front of a
text; a text is an address when nothing is left behind it.
-/

namespace SessionMux

inductive AddressError
  | ip
  | socket
  deriving Repr, DecidableEq

def AddressError.message : AddressError → String
  | ip => "invalid IP address syntax"
  | socket => "invalid socket address syntax"

namespace AddressReader

abbrev Reader (α : Type) := List Char → Option (α × List Char)

def char (expected : Char) : Reader Unit
  | c :: rest => if c = expected then some ((), rest) else none
  | [] => none

/-- Reads a decimal number below `bound`. Superfluous zeros in front make it none where
`zerosAllowed` is not set. -/
def decimal (maxDigits : Option Nat) (zerosAllowed : Bool) (bound : Nat) : Reader Nat := fun text =>
  let digits := text.takeWhile Text.isDigit
  let value := Text.ofDigits digits
  let tooLong := maxDigits.any (digits.length > ·)
  let padded := !zerosAllowed && digits.head? = some '0' && digits.length > 1
  if digits.isEmpty || tooLong || padded || value ≥ bound then none
  else some (value, text.dropWhile Text.isDigit)

def group : Reader UInt16 := fun text =>
  let digits := text.takeWhile fun c => (Text.hexValue? c).isSome
  if digits.isEmpty || digits.length > 4 then none
  else
    (Text.ofHex? digits).map fun value =>
      (UInt16.ofNat value, text.dropWhile fun c => (Text.hexValue? c).isSome)

def octet : Reader UInt8 := fun text => do
  let (value, text) ← decimal (some 3) false 256 text
  return (UInt8.ofNat value, text)

def ipv4 : Reader Ipv4 := fun text => do
  let (a, text) ← octet text
  let ((), text) ← char '.' text
  let (b, text) ← octet text
  let ((), text) ← char '.' text
  let (c, text) ← octet text
  let ((), text) ← char '.' text
  let (d, text) ← octet text
  return ({ a, b, c, d }, text)

def groupsOf (address : Ipv4) : List UInt16 :=
  [.ofNat (address.a.toNat * 256 + address.b.toNat),
    .ofNat (address.c.toNat * 256 + address.d.toNat)]

/-- Reads at most `room` groups with colons between. An older address may stand for the last two,
which the second result tells. -/
def groups (room : Nat) (first : Bool) (text : List Char) : List UInt16 × Bool × List Char :=
  match room with
  | 0 => ([], false, text)
  | room + 1 =>
    match if first then some text else (char ':' text).map (·.2) with
    | none => ([], false, text)
    | some body =>
      match if room = 0 then none else ipv4 body with
      | some (older, rest) => (groupsOf older, true, rest)
      | none =>
        match group body with
        | none => ([], false, text)
        | some (value, rest) =>
          let (later, older, rest) := groups room false rest
          (value :: later, older, rest)

def ipv6 : Reader Ipv6 := fun text => do
  let (head, older, rest) := groups 8 true text
  if head.length = 8 then return (Ipv6.ofEnds head [], rest)
  if older then none
  let ((), rest) ← char ':' rest
  let ((), rest) ← char ':' rest
  let (tail, _, rest) := groups (7 - head.length) true rest
  return (Ipv6.ofEnds head tail, rest)

def port : Reader UInt16 := fun text => do
  let ((), text) ← char ':' text
  let (value, text) ← decimal none true 65536 text
  return (UInt16.ofNat value, text)

/-- Reads a scope; where there is none it is zero. -/
def scope : List Char → UInt32 × List Char := fun text =>
  let given : Option (UInt32 × List Char) := do
    let ((), rest) ← char '%' text
    let (value, rest) ← decimal none true 4294967296 rest
    return (UInt32.ofNat value, rest)
  given.getD (0, text)

def socketV4 : Reader SocketAddress := fun text => do
  let (address, text) ← ipv4 text
  let (port, text) ← port text
  return (.v4 address port, text)

def socketV6 : Reader SocketAddress := fun text => do
  let ((), text) ← char '[' text
  let (address, text) ← ipv6 text
  let (scope, text) := scope text
  let ((), text) ← char ']' text
  let (port, text) ← port text
  return (.v6 address port 0 scope, text)

def whole {α : Type} (reader : Reader α) (text : String) : Option α :=
  match reader text.toList with
  | some (value, []) => some value
  | _ => none

end AddressReader

def IpAddress.ofText (text : String) : Except AddressError IpAddress :=
  match (AddressReader.whole AddressReader.ipv4 text).map IpAddress.v4 <|>
      (AddressReader.whole AddressReader.ipv6 text).map IpAddress.v6 with
  | some address => .ok address
  | none => .error .ip

def SocketAddress.ofText (text : String) : Except AddressError SocketAddress :=
  match AddressReader.whole AddressReader.socketV4 text <|>
      AddressReader.whole AddressReader.socketV6 text with
  | some address => .ok address
  | none => .error .socket

end SessionMux
