import SessionMux.Fault.Errno
import SessionMux.Wire.ErrorCode

/-!
Failures of input and output, their messages, and the error codes that report them to a peer.
-/

namespace SessionMux

inductive Fault
  /-- A failure that the operating system numbered. -/
  | system (number : Int)
  /-- A failure of which only the kind is known. -/
  | plain (kind : FaultKind)
  /-- A failure with a message of its own. -/
  | custom (kind : FaultKind) (message : String)
  deriving Repr, DecidableEq, Inhabited

namespace Fault

def kind : Fault → FaultKind
  | system number => Errno.kind number
  | plain kind => kind
  | custom kind _ => kind

def message : Fault → String
  | system number => s!"{Errno.text number} (os error {number})"
  | plain kind => kind.describe
  | custom _ message => message

/-- The system's number for a failure, where it is one that fits a code. -/
def number? : Fault → Option UInt16
  | system number => if 0 ≤ number ∧ number < 65536 then some (UInt16.ofNat number.toNat) else none
  | _ => none

/-- The code that reports a failure: by kind where the kind has one, else by the system's number. -/
def errorCode (fault : Fault) : ErrorCode :=
  match fault.kind with
  | .wouldBlock => .again
  | .brokenPipe => .brokenPipe
  | .addrInUse => .addrInUse
  | .connectionAborted => .connAborted
  | .connectionReset => .connReset
  | .notConnected => .notConnected
  | .timedOut => .timedOut
  | .connectionRefused => .connRefused
  | .unexpectedEof => .shutdown
  | _ => (fault.number?.map ErrorCode.ofNumber).getD (.other 0)

end Fault

end SessionMux
