import SessionMux.Host.Request

/-!
What has happened to a host since it was looked at last.
-/

namespace SessionMux

def Connection.writtenSince (connection last : Connection) : List Bytes :=
  connection.written.drop last.written.length

namespace Host

def isOver (host : Host) (caller : Caller) : Bool := (host.outcome? caller).isSome

/-- Whether the physical connection was released: its reader and its writer have ended. -/
def isReleased (host : Host) : Bool := host.isOver 0 && host.isOver 1

def changesSince (host last : Host) : List Change :=
  host.channel.changes.drop last.channel.changes.length

def incomingSince (host last : Host) : List (UInt32 × UInt16) :=
  let created := host.channel.endpoints.drop last.channel.endpoints.length
  (created.filter fun endpoint => endpoint.inbound && endpoint.kind = .queue).map fun endpoint =>
    (endpoint.session, endpoint.port)

def messagesSince (host last : Host) : List (UInt32 × List Message) :=
  let told := host.channel.endpoints.mapIdx fun number endpoint =>
    let before := last.channel.endpoints[number]?.elim 0 (·.told.length)
    let heard := endpoint.kind = .queue && endpoint.listening
    (endpoint.session, if heard then endpoint.told.drop before else [])
  told.filter fun entry => !entry.2.isEmpty

end Host

end SessionMux
