/-!
Structured values: the form in which events and settings are stored and exchanged.
-/

namespace SessionMux

/-- A structured value. The fields of a record are kept in the order in which they were written. -/
inductive Datum
  | null
  | bool (value : Bool)
  | int (value : Int)
  /-- A number that is not an integer. -/
  | fraction
  | text (value : String)
  | list (items : List Datum)
  | record (fields : List (String × Datum))
  deriving Repr, Inhabited

namespace Datum

def nat (value : Nat) : Datum := int value

def ofOption (encode : α → Datum) : Option α → Datum
  | some value => encode value
  | none => null

def bool? : Datum → Option Bool
  | bool value => some value
  | _ => none

def text? : Datum → Option String
  | text value => some value
  | _ => none

def below? (bound : Nat) : Datum → Option Nat
  | int value => if 0 ≤ value ∧ value < bound then some value.toNat else none
  | _ => none

def record? : Datum → Option (List (String × Datum))
  | record fields => some fields
  | _ => none

end Datum

end SessionMux
