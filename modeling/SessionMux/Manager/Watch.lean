import SessionMux.Manager.Connect

/-!
Watchers. Each waits for the end of one channel, takes that channel and no other out of the table,
and has the device dialled again where that is asked for.
-/

namespace SessionMux.Manager

/-- Takes a channel out of the table, unless another one is there for the device. -/
def forget (manager : Manager) (device : Device) (number : Nat) : Manager :=
  { manager with table := manager.table.filter (· ≠ (device, number)) }

/-- The address at which a device is dialled again: its internet address and port, of no flow and no
scope. -/
def redialAddress? (device : Device) : Option SocketAddress :=
  device.port.map (SocketAddress.ofIp device.ip)

/-- A watcher has seen the end of its channel, takes it out of the table and waits no more. -/
def unwatch (manager : Manager) (number : Nat) (managed : ManagedChannel) : Manager :=
  { manager with
    channels := manager.channels.set number { managed with watched := false } }.forget
    managed.device number

def stepWatcher (manager : Manager) (number : Nat) : Manager :=
  match manager.channels[number]? with
  | none => manager
  | some managed =>
    if !(managed.watched && managed.isClosed) then manager
    else
      let seen := manager.unwatch number managed
      match managed.redial, redialAddress? managed.device with
      | some transport, some address =>
        if seen.config.reconnectOnDrop && !seen.shutdown then seen.connect address transport
        else seen
      | _, _ => seen

end SessionMux.Manager
