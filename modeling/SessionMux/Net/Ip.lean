import SessionMux.Text.Number

/-!
Internet addresses: their order, and the one text in which each is written.
-/

namespace SessionMux

structure Ipv4 where
  a : UInt8
  b : UInt8
  c : UInt8
  d : UInt8
  deriving Repr, DecidableEq, Inhabited

structure Ipv6 where
  groups : Vector UInt16 8
  deriving Repr, DecidableEq

inductive IpAddress
  | v4 (address : Ipv4)
  | v6 (address : Ipv6)
  deriving Repr, DecidableEq

namespace Ipv4

def text (address : Ipv4) : String :=
  s!"{address.a.toNat}.{address.b.toNat}.{address.c.toNat}.{address.d.toNat}"

def parts (address : Ipv4) : List Nat :=
  [address.a.toNat, address.b.toNat, address.c.toNat, address.d.toNat]

end Ipv4

namespace Ipv6

def parts (address : Ipv6) : List Nat := address.groups.toList.map UInt16.toNat

/-- The address with these groups in front and these at the end, and zeros between. -/
def ofEnds (head tail : List UInt16) : Ipv6 :=
  let groups := head ++ List.replicate (8 - head.length - tail.length) 0 ++ tail
  { groups := Vector.ofFn fun i => groups.getD i 0 }

def mapped? (address : Ipv6) : Option Ipv4 :=
  match address.parts with
  | [0, 0, 0, 0, 0, 0xffff, high, low] =>
    some
      { a := .ofNat (high / 256), b := .ofNat (high % 256)
        c := .ofNat (low / 256), d := .ofNat (low % 256) }
  | _ => none

/-- The lengths of the rows of zeros that begin at each group. -/
def zeroRuns : List Nat → List Nat
  | [] => []
  | part :: rest =>
    let runs := zeroRuns rest
    (if part = 0 then runs.headD 0 + 1 else 0) :: runs

def longestZeros (parts : List Nat) : Nat × Nat :=
  let runs := zeroRuns parts
  let length := runs.foldl max 0
  (runs.idxOf length, length)

def joined (parts : List Nat) : String := String.intercalate ":" (parts.map Text.toHex)

/-- Groups in hexadecimal, where the first of the longest rows of two zeros or more is left out. An
address that stands for an older one ends like that one. -/
def text (address : Ipv6) : String :=
  match address.mapped? with
  | some older => "::ffff:" ++ older.text
  | none =>
    let parts := address.parts
    let (start, length) := longestZeros parts
    if length > 1 then joined (parts.take start) ++ "::" ++ joined (parts.drop (start + length))
    else joined parts

end Ipv6

namespace IpAddress

def text : IpAddress → String
  | v4 address => address.text
  | v6 address => address.text

def order : IpAddress → List Nat
  | v4 address => 0 :: address.parts
  | v6 address => 1 :: address.parts

end IpAddress

end SessionMux
