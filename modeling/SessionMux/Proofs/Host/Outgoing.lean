import SessionMux.Proofs.Channel.Outgoing
import SessionMux.Proofs.Host.Release
import SessionMux.Settings.Basic

/-!
# Frames on their way to the stream

A frame is on its way to the stream while it is in the outbound queue or in the hand of a task: of
one whose reply found the queue full, or of the writer that took it out. All such frames keep within
the limit of the channel (`Host.Fitting`), through every step of a host that serves a connection. So
the writer fails the channel over none of them, unless the channel overlooked that it cannot be
written.
-/

namespace SessionMux

def Job.inHand? : Job → Option Frame
  | .reply frame | .writeStream (.holding frame) | .writeDatagrams (.holding frame) => some frame
  | _ => none

def HostTask.inHand? : HostTask → Option Frame
  | .working job _ => job.inHand?
  | .over _ => none

def Job.Fits (limit : Nat) (job : Job) : Prop :=
  ∀ frame, job.inHand? = some frame → frame.Fits limit

def HostTask.Fits (limit : Nat) (task : HostTask) : Prop :=
  ∀ frame, task.inHand? = some frame → frame.Fits limit

theorem HostTask.inHand?_learn (signal : Signal) (caller : Caller) (task : HostTask) :
    (task.learn signal caller).inHand? = task.inHand? := by
  rcases task with ⟨job, aborted⟩ | outcome
  · rw [learn, Job.learn.eq_def]
    split
    · split <;> rfl
    · split <;> rfl
    · rfl
  · rfl

theorem Job.fits_of_inHand? {limit : Nat} {job : Job} (hnone : job.inHand? = none) :
    job.Fits limit := by
  intro frame hsome
  rw [hnone] at hsome
  cases hsome

variable {limit : Nat} {channel : Channel} {caller : Caller}

theorem Channel.closed_fail (channel : Channel) (code : ErrorCode) (message : String) :
    (channel.fail code message).closed = true := by
  have hclosed : (channel.fail code message).register.closed = true := by
    rw [register_fail, Register.close]
    split
    · assumption
    · rfl
  exact hclosed

/-! ### Sections of work -/

namespace Call

theorem fitting_perform (h : channel.Fitting limit) (clock : Nat) {request : Request}
    (hrequest : ∀ id payload, request = .send id payload → payload.length ≤ limit) :
    (perform channel clock caller request).2.Fitting limit := by
  cases request with
  | send id payload => exact h.send id (hrequest id payload rfl)
  | openSession port kind => exact h.openSession port kind
  | closeSession id => exact h.closeSession id false
  | sendError id code => exact h.sendError id code
  | closeAndWait id timeout =>
      have hclose : (channel.closeSession caller id true).2.Fitting limit := h.closeSession id true
      rcases hresult : channel.closeSession caller id true with ⟨error | ⟨⟩, next⟩ <;>
        rw [hresult] at hclose <;> simp only [perform, hresult] <;> exact hclose

/-- A payload that is too long does not get as far as being sent. -/
theorem fitting_ask (h : channel.Fitting limit) (clock : Nat) (request : Request) :
    (ask channel clock caller request).2.Fitting limit := by
  unfold ask
  extract_lets oversize
  have hrequest (hnone : oversize = none) (id : UInt32) (payload : Bytes)
      (heq : request = .send id payload) : payload.length ≤ limit := by
    subst heq
    exact h.length_le hnone
  clear_value oversize
  cases oversize with
  | some error => exact h
  | none =>
      dsimp only
      split <;> rename_i hreserve
      · exact h.reserve hreserve
      · exact h.reserve hreserve
      · exact fitting_perform (h.reserve hreserve) clock (hrequest rfl)

theorem fitting_step (h : channel.Fitting limit) (present : Bool) (clock : Nat)
    (request : Request) (stage : CallStage) :
    (step channel present clock caller request stage).2.Fitting limit := by
  cases stage with
  | arriving => exact h
  | asking => exact fitting_ask h clock request
  | awaiting id deadline verdict =>
      rcases verdict with _ | _ | _
      · rw [step, await]
        split
        · exact h.stopWaiting id
        · exact h
      · exact h
      · exact h

end Call

theorem Host.fitting_stepReply (h : channel.Fitting limit) {frame : Frame}
    (hframe : frame.Fits limit) : (stepReply channel caller frame).2.Fitting limit := by
  unfold stepReply
  split <;> rename_i hreserve
  · exact h.reserve hreserve
  · exact h.reserve hreserve
  · exact (h.reserve hreserve).fill hframe

namespace Forward

variable {forward : Forward} {client : Connection}

theorem fitting_opened (h : channel.Fitting limit) :
    (forward.opened channel caller client).2.1.Fitting limit := by
  unfold opened
  split <;> rename_i reserved hreserve
  · exact h.reserve hreserve
  · exact h.reserve hreserve
  · have hopen : (reserved.openSession caller forward.port .forwarded).2.Fitting limit :=
      (h.reserve hreserve).openSession forward.port .forwarded
    split <;> rename_i hresult <;> rw [hresult] at hopen <;> exact hopen

theorem channel_listen (eager : Bool) :
    (forward.listen eager channel client).2.1 = channel := by
  refine listen_induction (motive := fun after => after.2.1 = channel) _ _ _ _ ?_ ?_ ?_
  · intro message
    cases message <;> rfl
  · exact fun _ _ => rfl
  · rfl

theorem fitting_transmit (h : channel.Fitting limit) (payload : Bytes) :
    (forward.transmit channel caller client payload).2.1.Fitting limit := by
  unfold transmit
  split
  · exact h
  · rename_i hnone
    split <;> rename_i reserved hreserve
    · exact h.reserve hreserve
    · exact h.reserve hreserve
    · have hsend : (reserved.send caller forward.stats.session payload).2.Fitting limit :=
        (h.reserve hreserve).send forward.stats.session (h.length_le hnone)
      split <;> rename_i hresult <;> rw [hresult] at hsend <;> exact hsend

theorem channel_deliver (rest : Bytes) (size : Nat) :
    (forward.deliver channel client rest size).2.1 = channel := by
  unfold deliver
  split
  · rfl
  · split <;> rfl

theorem fitting_complain (h : channel.Fitting limit) (fault : Fault) :
    (forward.complain channel caller client fault).2.1.Fitting limit := by
  unfold complain
  simp only
  split <;> rename_i hreserve
  · exact h.reserve hreserve
  · exact h.reserve hreserve
  · exact (h.reserve hreserve).sendError forward.stats.session fault.errorCode

theorem channel_finish (cause : ForwardEnd) (closed : Except ChannelError Unit) :
    (forward.finish channel client cause closed).2.1 = channel := by
  unfold finish
  split <;> rfl

theorem fitting_close (h : channel.Fitting limit) (cause : ForwardEnd) :
    (forward.close channel caller client cause).2.1.Fitting limit := by
  unfold close
  split <;> rename_i hreserve
  · rw [channel_finish]
    exact h.reserve hreserve
  · exact h.reserve hreserve
  · rw [channel_finish]
    exact (h.reserve hreserve).closeSession forward.stats.session false

theorem fitting_step (h : channel.Fitting limit) (eager : Bool) :
    (forward.step eager channel caller client).2.1.Fitting limit := by
  unfold step
  split
  · exact fitting_opened h
  · rw [channel_listen]
    exact h
  · exact fitting_transmit h _
  · rw [channel_deliver]
    exact h
  · exact fitting_complain h _
  · exact fitting_close h _

end Forward

section Link

variable {connection : Connection} {admission : UInt16 → Admission} {eager : Bool}

theorem StreamReader.fitting_step (h : channel.Fitting limit) (buffer : Bytes) :
    (step admission eager channel connection buffer).2.1.Fitting limit := by
  have hperform (act : Act) : (perform admission channel act).Fitting limit := by
    rcases act with frame | (failure | _) | _
    · exact h.receive _ _
    · exact h.fail _ _
    · exact h.close
    · exact h
  exact hperform _

theorem DatagramReader.fitting_step (h : channel.Fitting limit) :
    (step admission eager channel connection).2.1.Fitting limit := by
  unfold step
  split
  · exact h
  · split
    · simp only [receive]
      split
      · exact h.receive _ _
      · exact ⟨h.limit_eq, h.fits⟩
    · exact h.fail _ _
    · split <;> exact h

theorem StreamWriter.fitting_step (h : channel.Fitting limit) (writer : StreamWriter) :
    (writer.step channel connection).2.1.Fitting limit := by
  cases writer with
  | idle =>
      rw [step]
      split
      · exact h
      · split
        · exact h
        · rename_i htake
          exact (h.takeFrame? htake).2
  | holding frame =>
      rw [step]
      split
      · exact h
      · split
        · exact h.fail _ _
        · exact h
  | flushing pending =>
      rw [step]
      split
      · exact h
      · split
        · split <;> exact h
        · split
          · exact h
          · exact h.fail _ _
          · exact h.fail _ _
          · exact h
  | closing pending =>
      rw [step]
      split <;> split <;> exact h

theorem DatagramWriter.fitting_step (h : channel.Fitting limit) (writer : DatagramWriter) :
    (writer.step channel connection).2.1.Fitting limit := by
  cases writer with
  | idle =>
      rw [step]
      split
      · exact h
      · split
        · exact h
        · rename_i htake
          exact (h.takeFrame? htake).2
  | holding frame =>
      rw [step]
      split
      · exact h.fail _ _
      · exact h
  | sending datagram =>
      rw [step]
      split
      · exact h
      · exact h
      · exact h.fail _ _

/-- What a writer takes in hand comes from the queue. -/
theorem StreamWriter.taken_of_next? {writer : StreamWriter} {frame : Frame}
    (hnext : (writer.step channel connection).1.next? = some (.holding frame)) :
    ∃ next, channel.takeFrame? = some (frame, next) := by
  cases writer with
  | idle =>
      rw [step] at hnext
      split at hnext
      · cases hnext
      · split at hnext
        · cases hnext
        · rename_i htake
          cases hnext
          exact ⟨_, htake⟩
  | holding | flushing | closing =>
      simp only [step] at hnext
      repeat' split at hnext
      all_goals cases hnext

theorem DatagramWriter.taken_of_next? {writer : DatagramWriter} {frame : Frame}
    (hnext : (writer.step channel connection).1.next? = some (.holding frame)) :
    ∃ next, channel.takeFrame? = some (frame, next) := by
  cases writer with
  | idle =>
      rw [step] at hnext
      split at hnext
      · cases hnext
      · split at hnext
        · cases hnext
        · rename_i htake
          cases hnext
          exact ⟨_, htake⟩
  | holding | sending =>
      simp only [step] at hnext
      split at hnext <;> cases hnext

end Link

namespace Host

variable {host next : Host} {job : Job}

/-- Whatever a task does in a section of its work, it lets out what fits, and so does what it has in
hand then. -/
theorem fitting_stepJob (h : host.channel.Fitting limit) (hjob : job.Fits limit) (eager : Bool)
    (caller : Caller) : (host.stepJob eager caller job).2.channel.Fitting limit ∧
      ∀ later, (host.stepJob eager caller job).1.next? = some later → later.Fits limit := by
  -- A job that never has a frame in hand goes on with one that has none.
  have hempty {State Result : Type} (turn : Turn State Result) (state : State → Job)
      (result : Result → Outcome) (hnone : ∀ value, (state value).inHand? = none) :
      ∀ later, (turn.map state result).next? = some later → later.Fits limit := by
    intro later hnext
    rw [Turn.next?_map] at hnext
    obtain ⟨value, -, rfl⟩ := Option.map_eq_some_iff.mp hnext
    exact Job.fits_of_inHand? (hnone value)
  cases job with
  | call request stage =>
      exact ⟨Call.fitting_step h _ _ _ _, hempty _ _ _ fun _ => rfl⟩
  | reply frame =>
      refine ⟨fitting_stepReply h (hjob frame rfl), ?_⟩
      intro later hnext
      simp only [stepJob, stepReply] at hnext
      split at hnext <;> cases hnext
      exact hjob
  | awaitClose =>
      rw [stepJob]
      refine ⟨h, ?_⟩
      intro later hnext
      split at hnext <;> cases hnext
      exact Job.fits_of_inHand? rfl
  | readStream buffer =>
      exact ⟨StreamReader.fitting_step h _, hempty _ _ _ fun _ => rfl⟩
  | readDatagrams =>
      exact ⟨DatagramReader.fitting_step h, hempty _ _ _ fun _ => rfl⟩
  | writeStream writer =>
      refine ⟨StreamWriter.fitting_step h writer, ?_⟩
      intro later hnext frame hhand
      rw [stepJob, Turn.next?_map] at hnext
      obtain ⟨writer, hwriter, rfl⟩ := Option.map_eq_some_iff.mp hnext
      cases writer with
      | idle | flushing | closing => cases hhand
      | holding =>
          cases hhand
          obtain ⟨next, htake⟩ := StreamWriter.taken_of_next? hwriter
          exact (h.takeFrame? htake).1
  | writeDatagrams writer =>
      refine ⟨DatagramWriter.fitting_step h writer, ?_⟩
      intro later hnext frame hhand
      rw [stepJob, Turn.next?_map] at hnext
      obtain ⟨writer, hwriter, rfl⟩ := Option.map_eq_some_iff.mp hnext
      cases writer with
      | idle | sending => cases hhand
      | holding =>
          cases hhand
          obtain ⟨next, htake⟩ := DatagramWriter.taken_of_next? hwriter
          exact (h.takeFrame? htake).1
  | forward client state =>
      rw [stepJob]
      split
      · refine ⟨h, ?_⟩
        intro later hnext
        cases hnext
      · exact ⟨Forward.fitting_step h eager, hempty _ _ _ fun _ => rfl⟩

/-! ### Steps -/

structure Fitting (limit : Nat) (host : Host) : Prop where
  channel : host.channel.Fitting limit
  tasks : ∀ task ∈ host.tasks, task.Fits limit

namespace Fitting

theorem of_same (h : host.Fitting limit) (hchannel : next.channel = host.channel)
    (htasks : next.tasks = host.tasks) : next.Fitting limit := by
  constructor
  · rw [hchannel]
    exact h.channel
  · rw [htasks]
    exact h.tasks

theorem spawn (h : host.Fitting limit) (hjob : job.Fits limit) :
    (host.spawn job).Fitting limit := by
  refine ⟨h.channel, ?_⟩
  intro task hmem
  obtain hbefore | hnew := List.mem_append.mp hmem
  · exact h.tasks task hbefore
  · rw [List.mem_singleton.mp hnew]
    exact hjob

theorem wake (h : host.Fitting limit) (caller : Caller) : (host.wake caller).Fitting limit := by
  obtain ⟨ready, hwake⟩ := host.wake_eq caller
  rw [hwake]
  exact h.of_same rfl rfl

theorem wakeWhere (h : host.Fitting limit) (chosen : Caller → Job → Bool) :
    (host.wakeWhere chosen).Fitting limit := by
  obtain ⟨ready, hwake⟩ := host.wakeWhere_eq chosen
  rw [hwake]
  exact h.of_same rfl rfl

theorem set (h : host.Fitting limit) (caller : Caller) {task : HostTask} (htask : task.Fits limit) :
    Fitting limit { host with tasks := host.tasks.set caller task } := by
  refine ⟨h.channel, ?_⟩
  intro other hmem
  obtain hbefore | rfl := List.mem_or_eq_of_mem_set hmem
  · exact h.tasks other hbefore
  · exact htask

theorem heed (h : host.Fitting limit) {signal : Signal}
    (hsignal : ∀ frame, signal.deferred? = some frame → frame.Fits limit) :
    (host.heed signal).Fitting limit := by
  obtain ⟨hchannel, htasks⟩ := host.heed_eq signal
  constructor
  · rw [hchannel]
    exact h.channel
  · intro task hmem
    rw [htasks] at hmem
    obtain hbefore | hnew := List.mem_append.mp hmem
    · obtain ⟨caller, hcaller, rfl⟩ := List.mem_mapIdx.mp hbefore
      intro frame hhand
      rw [HostTask.inHand?_learn] at hhand
      exact h.tasks _ (List.getElem_mem hcaller) frame hhand
    · obtain ⟨frame, hdeferred, rfl⟩ := List.mem_map.mp hnew
      intro other hhand
      cases hhand
      exact hsignal frame (Option.mem_toList.mp hdeferred)

theorem foldl_heed (h : host.Fitting limit) {signals : List Signal}
    (hsignals : ∀ frame ∈ signals.filterMap Signal.deferred?, frame.Fits limit) :
    (signals.foldl Host.heed host).Fitting limit := by
  induction signals generalizing host with
  | nil => exact h
  | cons signal signals ih =>
      refine ih (h.heed ?_) ?_
      · intro frame hdeferred
        exact hsignals frame (List.mem_filterMap.mpr ⟨signal, List.mem_cons_self, hdeferred⟩)
      · intro frame hmem
        obtain ⟨other, hother, hdeferred⟩ := List.mem_filterMap.mp hmem
        exact hsignals frame
          (List.mem_filterMap.mpr ⟨other, List.mem_cons_of_mem signal hother, hdeferred⟩)

/-- A reply that finds no place in the queue passes into the hand of a task. -/
theorem settleChannel (htasks : ∀ task ∈ host.tasks, task.Fits limit)
    (hchannel : channel.Fitting limit) : (host.settleChannel channel).Fitting limit := by
  have hcleared : Fitting limit { host with channel := { channel with signals := [] } } := by
    refine ⟨⟨hchannel.limit_eq, ?_⟩, htasks⟩
    intro frame hmem
    refine hchannel.fits frame (List.mem_append_left _ ?_)
    simpa [Channel.ledger] using hmem
  refine hcleared.foldl_heed ?_
  intro frame hmem
  exact hchannel.fits frame (List.mem_append_right _ hmem)

theorem finish (h : host.Fitting limit) (caller : Caller) (job : Job) (outcome : Outcome) :
    (host.finish caller job outcome).Fitting limit := by
  have hover : (HostTask.over outcome).Fits limit := by
    intro frame hhand
    cases hhand
  refine settleChannel (h.set caller hover).tasks ?_
  cases job with
  | writeStream | writeDatagrams => exact h.channel.abandonOutbox
  | forward client state =>
      rw [leave]
      split
      · have hsilenced (endpoint : Nat) : (host.channel.silence endpoint).Fitting limit :=
          ⟨h.channel.limit_eq, h.channel.fits.of_same rfl rfl⟩
        exact (hsilenced _).giveBack
      · exact h.channel.giveBack
  | call | reply | awaitClose | readStream | readDatagrams => exact h.channel.giveBack

theorem turn (h : host.Fitting limit) (eager : Bool) (caller : Caller) :
    (host.turn eager caller).1.Fitting limit := by
  unfold Host.turn
  split
  · exact h.finish _ _ _
  · rename_i job htask
    have hjob : job.Fits limit := h.tasks _ (List.mem_of_getElem? htask)
    obtain ⟨hchannel, hlater⟩ := fitting_stepJob h.channel hjob eager caller
    have hnext : (host.stepJob eager caller job).2.Fitting limit := by
      refine ⟨hchannel, ?_⟩
      rw [(host.section_stepJob eager caller job).tasks]
      exact h.tasks
    rcases hstep : host.stepJob eager caller job with ⟨later | later | outcome, next⟩ <;>
      rw [hstep] at hnext hlater <;> simp only
    · have htask : (HostTask.working later false).Fits limit := hlater later rfl
      exact settleChannel (hnext.set caller htask).tasks hnext.channel
    · have htask : (HostTask.working later false).Fits limit := hlater later rfl
      exact settleChannel (hnext.set caller htask).tasks hnext.channel
    · exact (settleChannel hnext.tasks hnext.channel).finish _ _ _
  · exact h

theorem takeTurn (h : host.Fitting limit) (eager : Bool) (caller : Caller) :
    (host.takeTurn eager caller).Fitting limit := by
  have hbegun : (host.dequeue caller).Fitting limit := h.of_same rfl rfl
  unfold Host.takeTurn
  simp only
  split
  · exact (hbegun.turn eager caller).wake caller
  · exact hbegun.turn eager caller

theorem abort (h : host.Fitting limit) (caller : Caller) : (host.abort caller).Fitting limit := by
  unfold Host.abort
  extract_lets mark
  suffices hmarked : Fitting limit { host with tasks := host.tasks.modify caller mark } from
    hmarked.wake caller
  refine ⟨h.channel, ?_⟩
  intro task hmem
  obtain ⟨other, hother⟩ := List.mem_iff_getElem?.mp hmem
  rw [List.getElem?_modify] at hother
  obtain ⟨before, hbefore, rfl⟩ := Option.map_eq_some_iff.mp hother
  have hfits : before.Fits limit := h.tasks before (List.mem_of_getElem? hbefore)
  split
  · cases before <;> exact hfits
  · exact hfits

theorem step (h : host.Fitting limit) (step : Step) : (host.step step).Fitting limit := by
  cases step with
  | call request byHandle => exact h.spawn (Job.fits_of_inHand? rfl)
  | forward port =>
      have hclients : Fitting limit { host with clients := host.clients ++ [Connection.fresh] } :=
        h.of_same rfl rfl
      exact hclients.spawn (Job.fits_of_inHand? rfl)
  | awaitClose => exact h.spawn (Job.fits_of_inHand? rfl)
  | abort caller => exact h.abort caller
  | turn eager caller => exact h.takeTurn eager caller
  | line line change =>
      cases line with
      | wire =>
          have hwire : Fitting limit { host with wire := change host.wire } := h.of_same rfl rfl
          exact hwire.wakeWhere _
      | client number =>
          have hclients : Fitting limit
              { host with clients := host.clients.modify number change } := h.of_same rfl rfl
          exact hclients.wakeWhere _
  | advance milliseconds =>
      have hlater : Fitting limit { host with clock := host.clock + milliseconds } :=
        h.of_same rfl rfl
      exact hlater.wakeWhere _
  | silence session =>
      exact ⟨⟨h.channel.limit_eq, h.channel.fits.of_same rfl rfl⟩, h.tasks⟩
  | stopAccepting => exact h.of_same rfl rfl
  | letGo => exact h.of_same rfl rfl
  | close => exact settleChannel h.tasks h.channel.close
  | fail code message => exact settleChannel h.tasks (h.channel.fail code message)

theorem run (h : host.Fitting limit) (steps : List Step) :
    (steps.foldl Host.step host).Fitting limit := by
  induction steps generalizing host with
  | nil => exact h
  | cons step steps ih => exact ih (h.step step)

end Fitting

theorem fitting_create (config : ChannelConfig) (depth : Nat) (reception : Reception) :
    (create config depth reception).Fitting config.maxPayload := by
  refine ⟨⟨rfl, ?_⟩, ?_⟩
  · intro frame hmem
    cases hmem
  · intro task hmem
    cases hmem

theorem fitting_overStream (config : ChannelConfig) (reception : Reception) :
    (overStream config reception).Fitting config.maxPayload :=
  ((fitting_create config queueDepth reception).spawn (Job.fits_of_inHand? rfl)).spawn
    (Job.fits_of_inHand? rfl)

/-! ### The writer -/

def outgoing (host : Host) : List Frame :=
  host.channel.outbox.frames ++ host.tasks.filterMap HostTask.inHand?

theorem Fitting.outgoing (h : host.Fitting limit) {frame : Frame} (hmem : frame ∈ host.outgoing) :
    frame.Fits limit := by
  obtain hqueued | hheld := List.mem_append.mp hmem
  · exact h.channel.fits frame (List.mem_append_left _ hqueued)
  · obtain ⟨task, htask, hhand⟩ := List.mem_filterMap.mp hheld
    exact h.tasks task htask frame hhand

/-- The turn of a writer with a frame in hand leaves the channel closed if it was, or if the frame
cannot be written. -/
theorem closed_takeTurn_iff {frame : Frame} (eager : Bool)
    (htask : host.tasks[caller]? = some (.working (.writeStream (.holding frame)) false)) :
    (host.takeTurn eager caller).channel.closed = true ↔
      host.channel.closed = true ∨ ¬ frame.Written host.channel.config.maxPayload := by
  have hwake (after : Host) : (after.wake caller).channel = after.channel := by
    obtain ⟨ready, hwake⟩ := after.wake_eq caller
    rw [hwake]
  have hbegun : (host.dequeue caller).tasks[caller]? =
      some (.working (.writeStream (.holding frame)) false) := htask
  have hclosed {later : StreamWriter} {channel : Channel} {wire : Connection}
      (hstep : StreamWriter.step host.channel host.wire (.holding frame) =
        (.goes later, channel, wire)) :
      (host.takeTurn eager caller).channel.closed = channel.closed := by
    unfold takeTurn
    rw [turn, hbegun]
    simp only [stepJob, dequeue, hstep, Turn.map, hwake, channel_settleChannel, if_true]
  cases hbefore : host.channel.closed with
  | true =>
      rw [hclosed (by rw [StreamWriter.step, if_pos hbefore])]
      simp only [hbefore, true_or]
  | false =>
      have hopen : ¬ host.channel.closed = true := by simp [hbefore]
      cases happend : Stream.append host.channel.config.maxPayload frame [] with
      | ok bytes =>
          rw [hclosed (by rw [StreamWriter.step, if_neg hopen, happend])]
          have hwritten : frame.Written host.channel.config.maxPayload :=
            Frame.written_of_append happend
          simp only [hbefore, hwritten, not_true_eq_false, or_false]
      | error failure =>
          rw [hclosed (by rw [StreamWriter.step, if_neg hopen, happend])]
          have hunwritten : ¬ frame.Written host.channel.config.maxPayload := by
            rintro ⟨bytes, hbytes, -⟩
            rw [happend] at hbytes
            cases hbytes
          simp only [hunwritten, not_false_eq_true, or_true, iff_true]
          exact Channel.closed_fail _ _ _

/-- **What is let out is written, but for what was overlooked.** Whatever the limit of a channel
over a stream, and however long its host has been running, each frame on its way to the stream is
written and read back under the same limit, unless it is a code and the limit is below two, or a
payload within the limit that is too long for a header. The turn of a writer that is about to write
a frame fails the channel in these cases, and in no other. -/
theorem written_unless_overlooked (config : ChannelConfig) (reception : Reception)
    (steps : List Step) :
    let host := steps.foldl step (overStream config reception)
    (∀ frame ∈ host.outgoing,
        (frame.Written config.maxPayload ↔ ¬ frame.Overlooked config.maxPayload)) ∧
      ∀ caller frame eager,
        host.tasks[caller]? = some (.working (.writeStream (.holding frame)) false) →
          ((host.takeTurn eager caller).channel.closed = true ↔
            host.channel.closed = true ∨ frame.Overlooked config.maxPayload) := by
  intro host
  have hfitting : host.Fitting config.maxPayload :=
    (fitting_overStream config reception).run steps
  have hwritten {frame : Frame} (hmem : frame ∈ host.outgoing) :
      frame.Written config.maxPayload ↔ ¬ frame.Overlooked config.maxPayload :=
    (hfitting.outgoing hmem).written_iff
  refine ⟨fun frame hmem => hwritten hmem, ?_⟩
  intro caller frame eager htask
  have hmem : frame ∈ host.outgoing := by
    refine List.mem_append_right _ (List.mem_filterMap.mpr ⟨_, List.mem_of_getElem? htask, ?_⟩)
    rfl
  rw [closed_takeTurn_iff eager htask, hfitting.channel.limit_eq, hwritten hmem, not_not]

/-- A client with the least limit that is valid opens a session. The writer cannot write the frame
that tells the peer, and fails the channel. -/
theorem code_beyond_limit :
    let settings := { Settings.default with maxPayload := 1 }
    let config := { (default : ChannelConfig) with maxPayload := settings.maxPayload }
    let host := [.call (.openSession 80 .queue) false, .turn false 2, .turn false 0,
        .turn false 0].foldl step (overStream config { rules := [], accepting := true })
    settings.validate = .ok settings ∧ host.outcome? 2 = some (.opened 1) ∧
      host.channel.closed = true ∧
      .channelError
        { code := .protocol, level := .critical
          message := "write failed: payload size 2 exceeds limit 1" } ∈ host.channel.changes := by
  decide

end Host

end SessionMux
