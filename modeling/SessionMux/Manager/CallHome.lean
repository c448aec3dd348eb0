import SessionMux.Link.Security
import SessionMux.Manager.Basic

/-!
Devices that call home. A device that has an open channel is turned away, before its connection is
secured and once more after that.
-/

namespace SessionMux.Manager

/-- Whether devices may call home over a transport: only byte streams are listened to. -/
def acceptable (transport : Transport) : Except ManagerError Unit :=
  if transport.isDatagram then
    .error (.io (.custom .invalidInput s!"call home over {transport.name} is not supported"))
  else .ok ()

/-- A device calls. A listener that has seen the manager shut down accepts nobody, so this comes
about after the shutdown only where the listener saw the call first. -/
def accept (manager : Manager) (ip : IpAddress) (transport : Transport) : Manager :=
  { manager with homes := manager.homes ++ [{ ip, transport, stage := .accepted }] }

def setHome (manager : Manager) (number : Nat) (stage : ArrivalStage) : Manager :=
  { manager with homes := manager.homes.modify number ({ · with stage }) }

def handshakeTimeout (timeout : Span) : Fault :=
  .custom .timedOut s!"handshake timed out after {timeout.describe}"

/-- Makes a channel of a secured connection, unless the device has one meanwhile. -/
def register (manager : Manager) (number : Nat) (home : HomeCall) : Manager :=
  let device := Device.callingHome home.ip
  let manager := manager.setHome number (.over none)
  if (manager.get? device).isSome then manager
  else manager.addChannel device home.transport none

/-- What a connection has come to that is being secured, if it has: `answer` is what the handshake
has come to. -/
def secured? (manager : Manager) (number : Nat) (home : HomeCall) (deadline : Nat)
    (answer : Answer Unit) : Option Manager :=
  match answer with
  | .connection () => some (manager.register number home)
  | .fault fault => some (manager.setHome number (.over (some (.io fault))))
  | .crash => some (manager.setHome number (.over none))
  | .pending =>
    if deadline ≤ manager.clock then
      some (manager.setHome number
        (.over (some (.io (handshakeTimeout manager.config.backoff.connectTimeout)))))
    else none

/-- The turn of a device that calls home. `eager` settles what is seen first where both could be:
what the handshake has come to if it is set, else that the manager has shut down. -/
def stepHome (manager : Manager) (eager : Bool) (number : Nat) (answer : Answer Unit) : Manager :=
  match manager.homes[number]? with
  | none => manager
  | some home =>
    match home.stage with
    | .accepted =>
      if (manager.get? (.callingHome home.ip)).isSome then
        manager.setHome number (.over none)
      else
        manager.setHome number
          (.securing (manager.clock + manager.config.backoff.connectTimeout.millisUp))
    | .securing deadline =>
      let result := manager.secured? number home deadline answer
      let surrender :=
        if manager.shutdown then some (manager.setHome number (.over (some .shuttingDown)))
        else none
      (if eager then result.or surrender else surrender.or result).getD manager
    | .over _ => manager

end SessionMux.Manager
