import SessionMux.Channel.Call
import SessionMux.Forward.Step
import SessionMux.Link.Datagrams
import SessionMux.Link.StreamWriter

/-!
The jobs that are done around a channel, each by a task of its own, and what wakes a task that
waits.
-/

namespace SessionMux

inductive Job
  | call (request : Request) (stage : CallStage)
  /-- Puts a reply into the outbound queue that found it full. -/
  | reply (frame : Frame)
  | awaitClose
  | readStream (buffer : Bytes)
  | writeStream (writer : StreamWriter)
  | readDatagrams
  | writeDatagrams (writer : DatagramWriter)
  /-- Forwards the local connection with the given number. -/
  | forward (client : Nat) (forward : Forward)
  deriving Repr, DecidableEq

inductive Outcome
  | done
  | opened (session : UInt32)
  | closed
  | forwarded (stats : ForwardStats)
  | failed (error : ChannelError)
  /-- The job was ended from outside. -/
  | aborted
  deriving Repr, DecidableEq

namespace Outcome

def ofCall : CallResult → Outcome
  | .ok none => .done
  | .ok (some session) => .opened session
  | .error error => .failed error

def ofForward : ForwardResult → Outcome
  | .ok stats => .forwarded stats
  | .error error => .failed error

end Outcome

namespace Job

def holdsChannel : Job → Bool
  | call _ .arriving => false
  | reply _ => false
  | _ => true

def isWriter : Job → Bool
  | writeStream _ | writeDatagrams _ => true
  | _ => false

def isReader : Job → Bool
  | readStream _ | readDatagrams => true
  | _ => false

def heeds (caller : Caller) (job : Job) : Signal → Bool
  | .granted other | .refused other | .acknowledged other | .forsaken other => other == caller
  | .queued => job == writeStream .idle || job == writeDatagrams .idle
  | .told endpoint =>
    match job with
    | forward _ state => state.endpoint == some endpoint
    | _ => false
  | .deferred _ => false
  | .shutdown => job.isWriter || job.isReader || job == awaitClose

def learn (caller : Caller) (job : Job) (signal : Signal) : Job :=
  match job, signal with
  | call request (.awaiting id deadline none), .acknowledged other =>
    if other = caller then call request (.awaiting id deadline (some .acknowledged)) else job
  | call request (.awaiting id deadline none), .forsaken other =>
    if other = caller then call request (.awaiting id deadline (some .forsaken)) else job
  | _, _ => job

def isDue (clock : Nat) : Job → Bool
  | call _ (.awaiting _ deadline none) => deadline ≤ clock
  | _ => false

end Job

end SessionMux
