import SessionMux.Host.Basic

/-!
The turns of a host's tasks, and the scheduler that lets them take turns until none is ready. A task
whose turn it is goes on as long as it can; tasks take their turns in the order in which they became
ready.
-/

namespace SessionMux.Host

def stepReply (channel : Channel) (caller : Caller) (frame : Frame) : Turn Job Outcome × Channel :=
  match channel.reserve caller with
  | (.refused, channel) => (.ends .done, channel)
  | (.waiting, channel) => (.waits (.reply frame), channel)
  | (.granted, channel) => (.ends .done, channel.fill caller frame)

/-- One section of a job's work, before its signals are heeded. `eager` settles what comes first
where two things could: the input on a connection if it is set. -/
def stepJob (host : Host) (eager : Bool) (caller : Caller) : Job → Turn Job Outcome × Host
  | .call request stage =>
    let (turn, channel) := Call.step host.channel host.present host.clock caller request stage
    (turn.map (.call request) .ofCall, { host with channel })
  | .reply frame =>
    let (turn, channel) := stepReply host.channel caller frame
    (turn, { host with channel })
  | .awaitClose => (if host.channel.closed then .ends .closed else .waits .awaitClose, host)
  | .readStream buffer =>
    let (turn, channel, wire) :=
      StreamReader.step host.reception.answer eager host.channel host.wire buffer
    (turn.map .readStream fun () => .done, { host with channel, wire })
  | .writeStream writer =>
    let (turn, channel, wire) := writer.step host.channel host.wire
    (turn.map .writeStream fun () => .done, { host with channel, wire })
  | .readDatagrams =>
    let (turn, channel, wire) :=
      DatagramReader.step host.reception.answer eager host.channel host.wire
    (turn.map (fun () => .readDatagrams) fun () => .done, { host with channel, wire })
  | .writeDatagrams writer =>
    let (turn, channel, wire) := writer.step host.channel host.wire
    (turn.map .writeDatagrams fun () => .done, { host with channel, wire })
  | .forward client forward =>
    match host.clients[client]? with
    | none => (.ends .aborted, host)
    | some connection =>
      let (turn, channel, connection) := forward.step eager host.channel caller connection
      (turn.map (.forward client) .ofForward,
        { host with channel, clients := host.clients.set client connection })

/-- One section of a task's work, and whether the task can go on at once. -/
def turn (host : Host) (eager : Bool) (caller : Caller) : Host × Bool :=
  match host.tasks[caller]? with
  | some (.working job true) => (host.finish caller job .aborted, false)
  | some (.working job false) =>
    match host.stepJob eager caller job with
    | (.waits next, host) =>
      ({ host with tasks := host.tasks.set caller (.working next false) }.settleChannel
        host.channel, false)
    | (.goes next, host) =>
      ({ host with tasks := host.tasks.set caller (.working next false) }.settleChannel
        host.channel, true)
    | (.ends outcome, host) => ((host.settleChannel host.channel).finish caller job outcome, false)
  | _ => (host, false)

/-- More sections of work than a host is ever given to do between two requests. -/
def workLimit : Nat := 1000000000000

/-- Lets the tasks take turns until none is ready. Input comes first where two things could. -/
def run (host : Host) : Nat → Option Caller → Host
  | 0, _ => host
  | limit + 1, some caller =>
    match host.turn true caller with
    | (host, true) => run host limit (some caller)
    | (host, false) => run host limit none
  | limit + 1, none =>
    match host.ready with
    | [] => host
    | caller :: ready => run { host with ready } limit (some caller)

def settle (host : Host) : Host := host.run workLimit none

end SessionMux.Host
