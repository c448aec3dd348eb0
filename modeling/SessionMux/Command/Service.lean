import SessionMux.Command.Arguments
import SessionMux.Link.Security
import SessionMux.Settings.Load

/-!
What the service sets out to do, as the arguments and the settings have it.
-/

namespace SessionMux

structure Bridge where
  listen : SocketAddress
  device : SocketAddress
  port : UInt16
  deriving Repr, DecidableEq

structure Service where
  settings : Settings
  /-- The port on which devices call home, if they may. -/
  callHome : Option UInt16
  transport : Transport
  devices : List SocketAddress
  bridges : List Bridge
  deriving Repr, DecidableEq

namespace Service

def defaultTransport (security : SecuritySettings) : Transport :=
  if security.enabled then .tls else .tcp

/-- What the service sets out to do. The arguments have precedence over the settings. -/
def plan (arguments : Arguments) (settings : Settings) : Except String Service := do
  settings.security.check
  let devices ← arguments.connect.mapM (deviceAddress · settings.agentPort)
  let bridges ← arguments.forward.mapM fun rule =>
    return { listen := rule.listen
             device := ← deviceAddress rule.device settings.agentPort
             port := rule.port }
  return { settings
           callHome :=
             if arguments.noCallHome then none
             else some (arguments.pluginPort.getD settings.pluginPort)
           transport := arguments.transport.getD (defaultTransport settings.security)
           devices
           bridges }

def announcements (service : Service) : List String :=
  let settings := service.settings
  let summary :=
    s!"Final configuration: plugin_port={settings.pluginPort}, " ++
    s!"agent_port={settings.agentPort}, workers={settings.workers}, " ++
    s!"security={settings.security.enabled}"
  let home (port : UInt16) : String :=
    s!"Accepting {(defaultTransport settings.security).name} call-home connections on port {port}"
  let dialled (device : SocketAddress) : String :=
    s!"Dialling {device.text} over {service.transport.name}"
  let bridged (bridge : Bridge) : String :=
    s!"Forwarding {bridge.listen.text} to port {bridge.port} of {bridge.device.text}"
  summary :: service.callHome.toList.map home ++ service.devices.map dialled ++
    service.bridges.map bridged

end Service

end SessionMux
