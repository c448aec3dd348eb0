import SessionMux.Monitor.Transport
import SessionMux.Monitor.Uuid
import SessionMux.Time.Stamp
import SessionMux.Wire.ErrorCode

/-!
What happens to channels and sessions: the changes that a channel reports, and the events that
record them under a device and a time.
-/

namespace SessionMux

inductive Level
  | unknown
  | warning
  | error
  | critical
  deriving Repr, DecidableEq, Inhabited

namespace Level

def all : List Level := [unknown, warning, error, critical]

def word : Level → String
  | unknown => "Unknown"
  | warning => "Warning"
  | error => "Error"
  | critical => "Critical"

def rank : Level → Nat
  | unknown => 0
  | warning => 1
  | error => 2
  | critical => 3

end Level

structure ErrorReport where
  code : ErrorCode
  level : Level
  message : String
  deriving Repr, DecidableEq, Inhabited

inductive Change
  | channelCreate (callHome : Bool) (transport : Transport)
  | channelClose
  | channelError (report : ErrorReport)
  | sessionCreate (session : UInt32) (port : UInt16)
  | sessionClose (session : UInt32)
  | sessionError (session : UInt32) (report : ErrorReport)
  | sessionTransaction (session : UInt32) (bytesIn bytesOut : Nat)
  deriving Repr, DecidableEq, Inhabited

namespace Change

def session? : Change → Option UInt32
  | sessionCreate session _ | sessionClose session | sessionError session _ => some session
  | sessionTransaction session _ _ => some session
  | channelCreate .. | channelClose | channelError _ => none

def report? : Change → Option ErrorReport
  | channelError report | sessionError _ report => some report
  | _ => none

def category (change : Change) : String :=
  if change.session?.isSome then "Session" else "Channel"

def name : Change → String
  | channelCreate .. => "channel_create"
  | channelClose => "channel_close"
  | channelError _ => "channel_error"
  | sessionCreate .. => "session_create"
  | sessionClose _ => "session_close"
  | sessionError .. => "session_error"
  | sessionTransaction .. => "session_transaction"

end Change

structure Event where
  device : String
  stamp : Stamp
  change : Change
  /-- Identifies one occurrence of an error; without meaning where the change reports none. -/
  errorId : Uuid
  deriving Repr, DecidableEq, Inhabited

end SessionMux
