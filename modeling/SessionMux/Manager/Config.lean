import SessionMux.Connect.Backoff

/-!
What a manager of channels is told at its start.
-/

namespace SessionMux

structure ManagerConfig where
  maxPayload : Nat
  backoff : BackoffConfig
  reconnectOnDrop : Bool
  deriving Repr, DecidableEq

end SessionMux
