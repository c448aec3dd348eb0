import SessionMux.Channel.Request
import SessionMux.Turn

/-!
Calls: what the application asks of a channel, as tasks that may have to wait, first for a place in
the outbound queue and then, where the call wants it, for the peer's acknowledgement.
-/

namespace SessionMux

inductive Request
  | send (session : UInt32) (payload : Bytes)
  | openSession (port : UInt16) (kind : EndpointKind)
  | closeSession (session : UInt32)
  /-- Closes a session and waits at most `timeout` milliseconds for the acknowledgement. -/
  | closeAndWait (session : UInt32) (timeout : Nat)
  | sendError (session : UInt32) (code : ErrorCode)
  deriving Repr, DecidableEq

inductive Verdict
  | acknowledged
  | forsaken
  deriving Repr, DecidableEq

inductive CallStage
  /-- Made through a handle, which does not know yet whether the channel still exists. -/
  | arriving
  | asking
  | awaiting (session : UInt32) (deadline : Nat) (verdict : Option Verdict)
  deriving Repr, DecidableEq

/-- How a call ends: with the id of the session it opened, if it opened one. -/
abbrev CallResult := Except ChannelError (Option UInt32)

namespace Call

/-- Carries out a request for which there is a place in the queue. -/
def perform (channel : Channel) (clock : Nat) (caller : Caller) (request : Request) :
    Turn CallStage CallResult × Channel :=
  match request with
  | .send id payload =>
    let (result, channel) := channel.send caller id payload
    (.ends (result.map fun () => none), channel)
  | .openSession port kind =>
    let (result, channel) := channel.openSession caller port kind
    (.ends (result.map some), channel)
  | .closeSession id =>
    let (result, channel) := channel.closeSession caller id false
    (.ends (result.map fun () => none), channel)
  | .closeAndWait id timeout =>
    match channel.closeSession caller id true with
    | (.ok (), channel) => (.goes (.awaiting id (clock + timeout) none), channel)
    | (.error error, channel) => (.ends (.error error), channel)
  | .sendError id code =>
    let (result, channel) := channel.sendError caller id code
    (.ends (result.map fun () => none), channel)

/-- Waits for the acknowledgement of a close. One that has come counts, however late it is. -/
def await (channel : Channel) (clock : Nat) (caller : Caller) (id : UInt32) (deadline : Nat) :
    Option Verdict → Turn CallStage CallResult × Channel
  | some .acknowledged => (.ends (.ok none), channel)
  | some .forsaken => (.ends (.error .closed), channel)
  | none =>
    if deadline ≤ clock then
      (.ends (.error (.closeTimeout id)), channel.stopWaiting caller id)
    else (.waits (.awaiting id deadline none), channel)

/-- Asks for a place in the outbound queue, and carries the request out when there is one. A payload
that is too long does not get that far. -/
def ask (channel : Channel) (clock : Nat) (caller : Caller) (request : Request) :
    Turn CallStage CallResult × Channel :=
  let oversize :=
    match request with
    | .send _ payload => channel.oversize? payload
    | _ => none
  match oversize with
  | some error => (.ends (.error error), channel)
  | none =>
    match channel.reserve caller with
    | (.refused, channel) => (.ends (.error .closed), channel)
    | (.waiting, channel) => (.waits .asking, channel)
    | (.granted, channel) => perform channel clock caller request

/-- One section of a call's work. `present` tells whether the channel still exists. -/
def step (channel : Channel) (present : Bool) (clock : Nat) (caller : Caller) (request : Request) :
    CallStage → Turn CallStage CallResult × Channel
  | .arriving => (if present then .goes .asking else .ends (.error .closed), channel)
  | .asking => ask channel clock caller request
  | .awaiting id deadline verdict => await channel clock caller id deadline verdict

end Call

end SessionMux
