/-!
Control codes carried by CONTROL frames: the signals in the life of a session.
-/

namespace SessionMux

inductive ControlCode
  | sessionOpen
  | sessionClose
  | sessionCloseAck
  /-- A number kept as it is, whether or not it has a name. -/
  | other (number : UInt16)
  deriving Repr, DecidableEq, Inhabited

namespace ControlCode

def toNumber : ControlCode → UInt16
  | sessionOpen => 1
  | sessionClose => 2
  | sessionCloseAck => 3
  | other number => number

/-- The code with this number, a named one where there is one. -/
def ofNumber (number : UInt16) : ControlCode :=
  if number = 1 then sessionOpen
  else if number = 2 then sessionClose
  else if number = 3 then sessionCloseAck
  else other number

def normalize (code : ControlCode) : ControlCode := ofNumber code.toNumber

def isNamed : ControlCode → Bool
  | other _ => false
  | _ => true

def word? : ControlCode → Option String
  | sessionOpen => some "SessionOpen"
  | sessionClose => some "SessionClose"
  | sessionCloseAck => some "SessionCloseAck"
  | other _ => none

def describe (code : ControlCode) : String :=
  code.word?.getD s!"Other({code.toNumber})"

def text : ControlCode → String
  | sessionOpen => "SESSION_OPEN(1)"
  | sessionClose => "SESSION_CLOSE(2)"
  | sessionCloseAck => "SESSION_CLOSE_ACK(3)"
  | other number => s!"OTHER({number})"

end ControlCode

end SessionMux
