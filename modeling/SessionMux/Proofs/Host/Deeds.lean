import SessionMux.Proofs.Channel.Deeds
import SessionMux.Proofs.Forward.Moves
import SessionMux.Proofs.Host.Effect
import SessionMux.Proofs.Host.Release

/-!
# What a step of a host does to its ledger

Every step of a host that serves a connection is a few deeds on its ledger, one after the other
(`Host.runs_step`), and which deeds there can be depends on whose turn it is (`Job.Does`): only
readers hear frames, only writers take frames out of the queue, and a payload is sent by a call that
was asked to or by the forward of the session.
-/

namespace SessionMux

def DatagramReader.notice (datagram : Bytes) (failure : WireError) : ErrorReport where
  code := .protocol
  level := .warning
  message := s!"dropped undecodable datagram of {datagram.length} bytes: {failure.message}"

inductive Job.Does : Job → Deed → Prop
  | works (job : Job) : Does job (.works none)
  | calls {id : UInt32} {payload : Bytes} {stage : CallStage} :
      Does (.call (.send id payload) stage) (.works (some (id, payload)))
  | forwards {client : Nat} {forward : Forward} {payload : Bytes}
      (hstage : forward.stage = .sending payload) :
      Does (.forward client forward) (.works (some (forward.stats.session, payload)))
  | hears {job : Job} {frame : Frame} {admission : Admission} (hreader : job.isReader = true) :
      Does job (.hears frame admission)
  | reports {datagram : Bytes} {failure : WireError} :
      Does .readDatagrams (.reports (DatagramReader.notice datagram failure))
  | takes {job : Job} {frame : Frame} (hwriter : job.isWriter = true) : Does job (.takes frame)
  | abandons {job : Job} (hwriter : job.isWriter = true) : Does job .abandons
  | loses {reply : Frame} : Does (.reply reply) (.loses reply)

/-! ### Charges -/

/-- What a job is, apart from how far it has got. -/
inductive Charge
  | call (request : Request)
  | reply (frame : Frame)
  | awaitClose
  | readStream
  | writeStream
  | readDatagrams
  | writeDatagrams
  | forward (client : Nat)
  deriving DecidableEq

namespace Job

def charge : Job → Charge
  | call request _ => .call request
  | reply frame => .reply frame
  | awaitClose => .awaitClose
  | readStream _ => .readStream
  | writeStream _ => .writeStream
  | readDatagrams => .readDatagrams
  | writeDatagrams _ => .writeDatagrams
  | forward client _ => .forward client

@[simp]
theorem charge_hear (verdict : Option Verdict) (job : Job) :
    (job.hear verdict).charge = job.charge := by
  unfold hear
  split <;> rfl

theorem reply?_eq_of_charge {job later : Job} (hcharge : later.charge = job.charge)
    (marked aborted : Bool) :
    (HostTask.working later marked).reply? = (HostTask.working job aborted).reply? := by
  cases later <;> cases job <;> cases hcharge <;> rfl

end Job

/-- A section of work leaves a task with the charge that it has. -/
theorem Host.charge_stepJob (host : Host) (eager : Bool) (caller : Caller) (job : Job) :
    ∀ later, (host.stepJob eager caller job).1.next? = some later → later.charge = job.charge := by
  intro later hnext
  have hmap {State Result : Type} {turn : Turn State Result} {result : Result → Outcome}
      (state : State → Job) (hstate : ∀ value, (state value).charge = job.charge)
      (hmapped : (turn.map state result).next? = some later) : later.charge = job.charge := by
    rw [Turn.next?_map] at hmapped
    obtain ⟨value, -, rfl⟩ := Option.map_eq_some_iff.mp hmapped
    exact hstate value
  cases job with
  | call request stage => exact hmap (.call request) (fun _ => rfl) hnext
  | reply frame =>
      simp only [stepJob, stepReply] at hnext
      split at hnext <;> cases hnext
      rfl
  | awaitClose =>
      rw [stepJob] at hnext
      split at hnext <;> cases hnext
      rfl
  | readStream buffer => exact hmap .readStream (fun _ => rfl) hnext
  | writeStream writer => exact hmap .writeStream (fun _ => rfl) hnext
  | readDatagrams =>
      rw [stepJob] at hnext
      exact hmap _ (fun _ => rfl) hnext
  | writeDatagrams writer => exact hmap .writeDatagrams (fun _ => rfl) hnext
  | forward client state =>
      rw [stepJob] at hnext
      split at hnext
      · cases hnext
      · exact hmap (.forward client) (fun _ => rfl) hnext

/-! ### Sections of work -/

theorem Register.grows_close (register : Register) : register.Grows register.close := by
  unfold Register.close
  split <;> exact .rests rfl rfl

theorem Register.grows_acknowledge (register : Register) (id : UInt32) :
    register.Grows (register.acknowledge id) := by
  unfold Register.acknowledge
  split <;> exact .rests rfl rfl

namespace Channel

variable {channel : Channel}

theorem Works.close : channel.Works none channel.close where
  ledger := fun _ => works_close
  register := by
    rw [register_close]
    exact channel.register.grows_close

theorem Works.fail (code : ErrorCode) (message : String) :
    channel.Works none (channel.fail code message) where
  ledger := fun _ => works_fail code message
  register := by
    rw [register_fail]
    exact channel.register.grows_close

theorem grows_receive (channel : Channel) (frame : Frame) (admission : Admission) :
    channel.register.Grows (channel.receive frame admission).register := by
  obtain hsame | hadded | ⟨-, hacknowledged⟩ := channel.register_receive frame admission
  · rw [hsame]
    exact .refl _
  · rw [hadded]
    exact .admits rfl rfl
  · rw [hacknowledged]
    exact channel.register.grows_acknowledge frame.session

end Channel

theorem Call.grows_step (channel : Channel) (present : Bool) (clock : Nat) (caller : Caller)
    (request : Request) (stage : CallStage) :
    channel.register.Grows (step channel present clock caller request stage).2.register := by
  have hregisters := registers_step channel present clock caller request stage
  generalize (step channel present clock caller request stage).1 = turn,
    (step channel present clock caller request stage).2.register = register at hregisters
  cases hregisters with
  | arrives | stays => exact .refl _
  | ends hverdict hgrows hwaits => exact hgrows
  | begins | givesUp => exact .rests rfl rfl

structure Job.Serves (job : Job) (channel next : Channel) : Prop where
  ledger : ∀ replies, ∃ deed,
    (channel.ledger replies).Does deed (next.ledger replies) ∧ job.Does deed
  register : channel.register.Grows next.register

namespace Job

variable {job : Job} {channel next : Channel}

theorem Serves.of_works (hworks : channel.Works none next) : job.Serves channel next where
  ledger := fun replies => ⟨_, .works (hworks.ledger replies), .works job⟩
  register := hworks.register

theorem Serves.refl (job : Job) (channel : Channel) : job.Serves channel channel :=
  .of_works (.refl channel)

theorem Serves.close : job.Serves channel channel.close := .of_works .close

theorem Serves.fail (code : ErrorCode) (message : String) :
    job.Serves channel (channel.fail code message) :=
  .of_works (.fail code message)

theorem Serves.receive (hreader : job.isReader = true) (frame : Frame) (admission : Admission) :
    job.Serves channel (channel.receive frame admission) where
  ledger := fun _ => ⟨_, .hears (Channel.receives_receive frame admission), .hears hreader⟩
  register := channel.grows_receive frame admission

theorem Serves.takeFrame? {frame : Frame} (hwriter : job.isWriter = true)
    (htake : channel.takeFrame? = some (frame, next)) : job.Serves channel next where
  ledger := fun replies => by
    obtain ⟨hframes, hledger⟩ : _ ∧ next.ledger replies = _ := Channel.ledger_takeFrame? htake
    rw [hledger]
    exact ⟨_, .takes hframes, .takes hwriter⟩
  register := by
    rw [Channel.register_takeFrame? htake]
    exact .refl _

end Job

section Sections

variable (channel : Channel) (connection : Connection) (admission : UInt16 → Admission)
  (eager : Bool)

theorem Call.does_perform (clock : Nat) (caller : Caller) (request : Request) (stage : CallStage)
    (replies : List Frame) : ∃ deed, (channel.ledger replies).Does deed
      ((perform channel clock caller request).2.ledger replies) ∧
        (Job.call request stage).Does deed := by
  have hworks : (channel.ledger replies).Works _ _ := Call.works_perform clock caller request
  refine ⟨_, .works hworks, ?_⟩
  cases request with
  | send id payload =>
      rcases (perform channel clock caller (.send id payload)).1 with next | next | _ | _ | session
      · exact .works _
      · exact .works _
      · exact .works _
      · exact .calls
      · exact .works _
  | openSession | closeSession | closeAndWait | sendError => exact .works _

theorem Call.serves_step (present : Bool) (clock : Nat) (caller : Caller) (request : Request)
    (stage : CallStage) :
    (Job.call request stage).Serves channel
      (step channel present clock caller request stage).2 := by
  refine ⟨fun replies => ?_, grows_step channel present clock caller request stage⟩
  have hrests {next : Channel} (hledger : next.ledger replies = channel.ledger replies) :
      ∃ deed, (channel.ledger replies).Does deed (next.ledger replies) ∧
        (Job.call request stage).Does deed := by
    rw [hledger]
    exact ⟨_, .works .rests, .works _⟩
  cases stage with
  | arriving => exact hrests rfl
  | asking =>
      have hreserve : (channel.reserve caller).2.ledger replies = channel.ledger replies :=
        Channel.ledger_reserve caller
      rcases ask_cases channel clock caller request with
        ⟨error, hask⟩ | ⟨error, hask⟩ | hask | hask <;> rw [step, hask]
      · exact hrests rfl
      · exact hrests hreserve
      · exact hrests hreserve
      · rw [← hreserve]
        exact does_perform _ clock caller request .asking replies
  | awaiting id deadline verdict =>
      rcases verdict with _ | _ | _
      · rw [step, await]
        split
        · exact hrests (Channel.ledger_stopWaiting caller id)
        · exact hrests rfl
      · exact hrests rfl
      · exact hrests rfl

theorem Forward.Moves.serves {forward : Forward} {channel : Channel} {client : Connection}
    {after : After} (hmoves : forward.Moves channel client after) (number : Nat) :
    (Job.forward number forward).Serves channel after.2.1 := by
  cases hmoves with
  | waits hworks | fails hworks | drops _ _ hworks | leaves _ _ hworks | ends _ hworks =>
      exact .of_works hworks
  | opens _ hopens => exact .of_works hopens.works
  | reads | hears | warned | writes | delivers | breaks => exact .refl _ _
  | sends hstage hworks =>
      exact ⟨fun replies => ⟨_, .works (hworks.ledger replies), .forwards hstage⟩,
        hworks.register⟩

theorem StreamReader.serves_step (buffer : Bytes) :
    (Job.readStream buffer).Serves channel
      (step admission eager channel connection buffer).2.1 := by
  have hperform (act : Act) :
      (Job.readStream buffer).Serves channel (perform admission channel act) := by
    rcases act with frame | (failure | _) | _
    · exact .receive rfl _ _
    · exact .fail _ _
    · exact .close
    · exact .refl _ _
  exact hperform _

theorem DatagramReader.serves_receive (datagram : Bytes) :
    Job.readDatagrams.Serves channel (receive admission channel datagram) := by
  unfold receive
  extract_lets datagram
  split
  · exact .receive rfl _ _
  · exact ⟨fun _ => ⟨_, .reports _, .reports⟩, .refl _⟩

theorem DatagramReader.serves_step :
    Job.readDatagrams.Serves channel (step admission eager channel connection).2.1 := by
  unfold step
  split
  · exact .refl _ _
  · split
    · exact serves_receive _ _ _
    · exact .fail _ _
    · split <;> exact .refl _ _

theorem StreamWriter.serves_step (writer : StreamWriter) :
    (Job.writeStream writer).Serves channel (writer.step channel connection).2.1 := by
  cases writer with
  | idle =>
      rw [step]
      split
      · exact .refl _ _
      · split
        · exact .refl _ _
        · rename_i htake
          exact .takeFrame? rfl htake
  | holding frame =>
      rw [step]
      split
      · exact .refl _ _
      · split
        · exact .fail _ _
        · exact .refl _ _
  | flushing pending =>
      rw [step]
      split
      · exact .refl _ _
      · split
        · split <;> exact .refl _ _
        · split
          · exact .refl _ _
          · exact .fail _ _
          · exact .fail _ _
          · exact .refl _ _
  | closing pending =>
      rw [step]
      split <;> split <;> exact .refl _ _

theorem DatagramWriter.serves_step (writer : DatagramWriter) :
    (Job.writeDatagrams writer).Serves channel (writer.step channel connection).2.1 := by
  cases writer with
  | idle =>
      rw [step]
      split
      · exact .refl _ _
      · split
        · exact .refl _ _
        · rename_i htake
          exact .takeFrame? rfl htake
  | holding frame =>
      rw [step]
      split
      · exact .fail _ _
      · exact .refl _ _
  | sending datagram =>
      rw [step]
      split
      · exact .refl _ _
      · exact .refl _ _
      · exact .fail _ _

end Sections

namespace Host

variable {host next : Host} {caller : Caller} {job : Job} {aborted : Bool}

theorem serves_stepJob (host : Host) (eager : Bool) (caller : Caller) (job : Job)
    (hreply : ∀ frame, job ≠ .reply frame) :
    job.Serves host.channel (host.stepJob eager caller job).2.channel := by
  cases job with
  | call request stage => exact Call.serves_step _ _ _ _ _ _
  | reply frame => exact absurd rfl (hreply frame)
  | awaitClose =>
      rw [stepJob]
      split <;> exact .refl _ _
  | readStream buffer => exact StreamReader.serves_step _ _ _ _ _
  | writeStream writer => exact StreamWriter.serves_step _ _ _
  | readDatagrams => exact DatagramReader.serves_step _ _ _ _
  | writeDatagrams writer => exact DatagramWriter.serves_step _ _ _
  | forward client state =>
      rw [stepJob]
      split
      · exact .refl _ _
      · exact (state.moves_step _ _ _ _).serves client

/-! ### Turns -/

/-- Some deeds, each of which a job may do, are all that comes between two ledgers. -/
def Yields (job : Job) (ledger next : Ledger) : Prop :=
  ∃ deeds, ledger.Runs deeds next ∧ ∀ deed ∈ deeds, job.Does deed

theorem Yields.refl (job : Job) (ledger : Ledger) : Yields job ledger ledger :=
  ⟨[], .nil ledger, List.forall_mem_nil _⟩

theorem Yields.trans {ledger middle last : Ledger} (hfirst : Yields job ledger middle)
    (hsecond : Yields job middle last) : Yields job ledger last := by
  obtain ⟨deeds, hruns, hdeeds⟩ := hfirst
  obtain ⟨later, hlater, hrest⟩ := hsecond
  refine ⟨deeds ++ later, hruns.append hlater, ?_⟩
  intro deed hmem
  exact (List.mem_append.mp hmem).elim (hdeeds deed) (hrest deed)

theorem Yields.of_does {ledger last : Ledger} {deed : Deed} (hdoes : ledger.Does deed last)
    (hdeed : job.Does deed) : Yields job ledger last := by
  refine ⟨[deed], hdoes.runs, ?_⟩
  intro other hmem
  rw [List.mem_singleton.mp hmem]
  exact hdeed

/-- What a task that ends takes with it: the queue, if it is the writer, and the reply that it
holds. -/
theorem ledger_leave (channel : Channel) (caller : Caller) (job : Job) (replies : List Frame) :
    (leave channel caller job).ledger replies =
      if job.isWriter then { channel.ledger replies with frames := [], draining := false }
      else channel.ledger replies := by
  cases job with
  | writeStream | writeDatagrams => exact Channel.ledger_abandonOutbox
  | forward client state =>
      rw [leave]
      split
      · rename_i endpoint _
        have hsilenced : (channel.silence endpoint).ledger replies = channel.ledger replies := by
          have htold := map_modify_of_comm (fun endpoint => (endpoint.session, endpoint.told))
            Endpoint.silence id (fun _ => rfl) channel.endpoints endpoint
          simp only [Channel.ledger, Channel.silence, htold, List.modify_id]
        rw [Channel.ledger_giveBack, hsilenced]
        rfl
      · exact Channel.ledger_giveBack caller
  | call | reply | awaitClose | readStream | readDatagrams => exact Channel.ledger_giveBack caller

theorem replies_set {task later : HostTask} (htask : host.tasks[caller]? = some task)
    (hreply : later.reply? = task.reply?) :
    replies { host with tasks := host.tasks.set caller later } = host.replies := by
  obtain ⟨front, rear, hbefore, hafter⟩ := filterMap_set HostTask.reply? htask
  rw [replies, replies, hafter, hbefore, hreply]

theorem ledger_finish_of_none {task : HostTask} (htask : host.tasks[caller]? = some task)
    (hreply : task.reply? = none) (job : Job) (outcome : Outcome) :
    (host.finish caller job outcome).ledger =
      (leave host.channel caller job).ledger host.replies := by
  have hover : (HostTask.over outcome).reply? = task.reply? := hreply.symm
  rw [finish, ledger_settleChannel, replies_set htask hover]

theorem yields_finish {task : HostTask} (htask : host.tasks[caller]? = some task)
    (hreply : task.reply? = (HostTask.working job aborted).reply?) (outcome : Outcome) :
    Yields job host.ledger (host.finish caller job outcome).ledger := by
  cases job with
  | reply frame =>
      have hjob : (Job.reply frame).IsPlain := trivial
      obtain ⟨front, rear, hreplies, hledger⟩ := ledger_finish htask hjob outcome
      rw [hreply] at hreplies
      rw [hledger]
      exact .of_does (.loses hreplies) .loses
  | writeStream | writeDatagrams =>
      rw [ledger_finish_of_none htask hreply, ledger_leave]
      exact .of_does .abandons (.abandons rfl)
  | call | awaitClose | readStream | readDatagrams | forward =>
      rw [ledger_finish_of_none htask hreply, ledger_leave]
      exact .refl _ _

/-- The turn of a reply that waits: it goes into the queue, waits on, or is lost. -/
theorem yields_turn_reply {frame : Frame}
    (htask : host.tasks[caller]? = some (.working (.reply frame) false)) (eager : Bool) :
    Yields (.reply frame) host.ledger (host.turn eager caller).1.ledger := by
  have hreserve : (host.channel.reserve caller).2.ledger host.replies = host.ledger :=
    Channel.ledger_reserve caller
  have hends (channel : Channel) : ∃ front rear,
      (channel.ledger host.replies).replies = front ++ frame :: rear ∧
      ((settleChannel { host with channel } channel).finish caller (.reply frame) .done).ledger =
        { channel.ledger host.replies with replies := front ++ rear } := by
    have hjob : (Job.reply frame).IsPlain := trivial
    have htask' : ({ host with channel } : Host).tasks[caller]? = _ := htask
    obtain ⟨task, hsettled, hreply⟩ := task_settleChannel htask' channel
    obtain ⟨front, rear, hreplies, hledger⟩ := ledger_finish hsettled hjob .done
    rw [ledger_settleChannel] at hreplies hledger
    rw [hreply] at hreplies
    exact ⟨front, rear, hreplies, hledger⟩
  rw [turn, htask]
  rcases hstep : host.channel.reserve caller with ⟨_ | _ | _, channel⟩ <;>
    rw [hstep] at hreserve <;> simp only [stepJob, stepReply, hstep]
  · obtain ⟨front, rear, hreplies, hledger⟩ := hends (channel.fill caller frame)
    rw [Channel.ledger_fill, hreserve] at hreplies hledger
    rw [hledger]
    have hbefore : host.ledger.replies = front ++ frame :: rear := hreplies
    exact .of_does (.works (.answers hbefore)) (.works _)
  · rw [ledger_settleChannel]
    have hsame : (host.tasks.set caller (.working (.reply frame) false)) = host.tasks :=
      set_self htask
    rw [hsame]
    have hledger : channel.ledger (replies { host with channel }) = host.ledger := hreserve
    rw [hledger]
    exact .refl _ _
  · obtain ⟨front, rear, hreplies, hledger⟩ := hends channel
    rw [hreserve] at hreplies hledger
    rw [hledger]
    exact .of_does (.loses hreplies) .loses

/-- The turn of a task does what its job may do. -/
theorem yields_turn (htask : host.tasks[caller]? = some (.working job aborted)) (eager : Bool) :
    Yields job host.ledger (host.turn eager caller).1.ledger := by
  cases aborted with
  | true =>
      rw [turn, htask]
      exact yields_finish htask rfl .aborted
  | false =>
      by_cases hreply : ∃ frame, job = .reply frame
      · obtain ⟨frame, rfl⟩ := hreply
        exact yields_turn_reply htask eager
      · push Not at hreply
        obtain ⟨deed, hdoes, hdeed⟩ :=
          (host.serves_stepJob eager caller job hreply).ledger host.replies
        have htasks := (host.section_stepJob eager caller job).tasks
        have hcharge := host.charge_stepJob eager caller job
        have hgoesOn {later : Job} {after : Host} (htasks : after.tasks = host.tasks)
            (hdoes : host.ledger.Does deed (after.channel.ledger host.replies))
            (hcharge : later.charge = job.charge) :
            Yields job host.ledger (settleChannel
              { after with tasks := after.tasks.set caller (.working later false) }
              after.channel).ledger := by
          have hstill : after.tasks[caller]? = some (.working job false) := htasks ▸ htask
          have hreplies : after.replies = host.replies := by rw [replies, htasks, replies]
          rw [ledger_settleChannel, replies_set hstill (Job.reply?_eq_of_charge hcharge _ _),
            hreplies]
          exact .of_does hdoes hdeed
        rw [turn, htask]
        rcases hstep : host.stepJob eager caller job with ⟨later | later | outcome, after⟩ <;>
          rw [hstep] at hdoes htasks hcharge <;> simp only [hstep]
        · exact hgoesOn htasks hdoes (hcharge later rfl)
        · exact hgoesOn htasks hdoes (hcharge later rfl)
        · have hstill : after.tasks[caller]? = some (.working job false) := htasks ▸ htask
          obtain ⟨task, hsettled, hheld⟩ := task_settleChannel hstill after.channel
          refine Yields.trans (.of_does hdoes hdeed) ?_
          have hledger : (after.settleChannel after.channel).ledger =
              after.channel.ledger host.replies := by
            rw [ledger_settleChannel, replies, htasks, replies]
          rw [← hledger]
          exact yields_finish hsettled hheld outcome

end Host

end SessionMux
