/-!
Error codes carried by ERROR frames: socket failures under their errno numbers. Every 16-bit
number is a code; the numbers without a name stay as they are.
-/

namespace SessionMux

inductive ErrorCode
  | again
  | brokenPipe
  | addrInUse
  | netDown
  | netUnreachable
  | netReset
  | connAborted
  | connReset
  | isConnected
  | notConnected
  | shutdown
  | timedOut
  | connRefused
  /-- A number kept as it is, whether or not it has a name. -/
  | other (number : UInt16)
  deriving Repr, DecidableEq, Inhabited

namespace ErrorCode

def toNumber : ErrorCode → UInt16
  | again => 11
  | brokenPipe => 32
  | addrInUse => 98
  | netDown => 100
  | netUnreachable => 101
  | netReset => 102
  | connAborted => 103
  | connReset => 104
  | isConnected => 106
  | notConnected => 107
  | shutdown => 108
  | timedOut => 110
  | connRefused => 111
  | other number => number

def named : List ErrorCode :=
  [again, brokenPipe, addrInUse, netDown, netUnreachable, netReset, connAborted, connReset,
    isConnected, notConnected, shutdown, timedOut, connRefused]

def ofNumber (number : UInt16) : ErrorCode :=
  (named.find? (·.toNumber = number)).getD (other number)

def normalize (code : ErrorCode) : ErrorCode := ofNumber code.toNumber

/-- Two codes are the same failure when they have the same number. -/
def Same (first second : ErrorCode) : Prop := first.toNumber = second.toNumber

instance (first second : ErrorCode) : Decidable (Same first second) :=
  inferInstanceAs (Decidable (first.toNumber = second.toNumber))

def symbol? : ErrorCode → Option String
  | again => some "EAGAIN"
  | brokenPipe => some "EPIPE"
  | addrInUse => some "EADDRINUSE"
  | netDown => some "ENETDOWN"
  | netUnreachable => some "ENETUNREACH"
  | netReset => some "ENETRESET"
  | connAborted => some "ECONNABORTED"
  | connReset => some "ECONNRESET"
  | isConnected => some "EISCONN"
  | notConnected => some "ENOTCONN"
  | shutdown => some "ESHUTDOWN"
  | timedOut => some "ETIMEDOUT"
  | connRefused => some "ECONNREFUSED"
  | other _ => none

/-- The errno symbol of the code's number, with one symbol for all numbers without a name. -/
def symbol (code : ErrorCode) : String := code.normalize.symbol?.getD "E_OTHER"

def word? : ErrorCode → Option String
  | again => some "Again"
  | brokenPipe => some "BrokenPipe"
  | addrInUse => some "AddrInUse"
  | netDown => some "NetDown"
  | netUnreachable => some "NetUnreachable"
  | netReset => some "NetReset"
  | connAborted => some "ConnAborted"
  | connReset => some "ConnReset"
  | isConnected => some "IsConnected"
  | notConnected => some "NotConnected"
  | shutdown => some "Shutdown"
  | timedOut => some "TimedOut"
  | connRefused => some "ConnRefused"
  | other _ => none

def describe (code : ErrorCode) : String :=
  code.word?.getD s!"Other({code.toNumber})"

def text (code : ErrorCode) : String := s!"{code.toNumber}={code.symbol}"

def protocol : ErrorCode := other 71

end ErrorCode

end SessionMux
