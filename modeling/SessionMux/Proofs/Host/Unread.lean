import SessionMux.Proofs.Channel.Unread
import SessionMux.Proofs.Host.Course

/-!
# What only the reader looks at

Of all tasks only the reader looks at what has arrived on the physical connection, none looks at
what was published, and which task is about to take a turn is for the scheduler to know. Had these
been otherwise (`Host.beside`), every step but a turn of the reader would do the same to a host.
-/

namespace SessionMux

open Channel

def Connection.holding (arrivals : List Arrival) (connection : Connection) : Connection :=
  { connection with arrivals }

variable (past : List Change) (arrivals : List Arrival)

/-! ### Writers -/

theorem Connection.write_holding (connection : Connection) (bytes : Bytes) :
    (connection.holding arrivals).write bytes =
      (connection.write bytes).map id (holding arrivals) := by
  have hfault : (connection.holding arrivals).writeFault = connection.writeFault := rfl
  rw [write, write, hfault]
  cases connection.writeFault with
  | some fault => rfl
  | none =>
      dsimp only
      rw [apply_ite (Prod.map id (holding arrivals))]
      rfl

theorem Connection.send_holding (connection : Connection) (datagram : Bytes) :
    (connection.holding arrivals).send datagram =
      (connection.send datagram).map id (holding arrivals) := by
  have hfault : (connection.holding arrivals).writeFault = connection.writeFault := rfl
  rw [send, send, hfault]
  cases connection.writeFault with
  | some fault => rfl
  | none =>
      dsimp only
      rw [apply_ite (Prod.map id (holding arrivals))]
      rfl

theorem StreamWriter.step_beside (channel : Channel) (connection : Connection)
    (writer : StreamWriter) :
    writer.step (channel.behind past) (connection.holding arrivals) =
      (writer.step channel connection).map id
        (Prod.map (behind past) (Connection.holding arrivals)) := by
  have hclosed : (channel.behind past).closed = channel.closed := rfl
  cases writer with
  | idle =>
      rw [step, step, hclosed, takeFrame?_behind]
      cases channel.closed with
      | true => rfl
      | false => rcases channel.takeFrame? with _ | ⟨frame, taken⟩ <;> rfl
  | holding frame =>
      have hmax : (channel.behind past).config.maxPayload = channel.config.maxPayload := rfl
      rw [step, step, hclosed, hmax]
      cases channel.closed with
      | true => rfl
      | false =>
          cases Stream.append channel.config.maxPayload frame [] with
          | ok pending => rfl
          | error failure =>
              rw [if_neg Bool.false_ne_true, if_neg Bool.false_ne_true]
              dsimp only
              rw [failWith, fail_behind]
              rfl
  | flushing pending =>
      rw [step, step, hclosed, Connection.write_holding]
      cases channel.closed with
      | true => rfl
      | false =>
          cases pending.isEmpty with
          | true =>
              have hlingers : (connection.holding arrivals).lingers = connection.lingers := rfl
              rw [hlingers]
              cases connection.lingers <;> rfl
          | false =>
              rcases connection.write pending with ⟨_ | (_ | count) | fault, written⟩
              · rfl
              · exact congrArg (fun failed => (Turn.goes (closing pending), failed, _))
                  (fail_behind past channel _ _)
              · rfl
              · exact congrArg (fun failed => (Turn.goes (closing pending), failed, _))
                  (fail_behind past channel _ _)
  | closing pending =>
      rw [step, step, Connection.write_holding]
      cases pending.isEmpty with
      | true =>
          have hlingers : (connection.holding arrivals).lingers = connection.lingers := rfl
          rw [Connection.close?, Connection.close?, hlingers]
          cases connection.lingers <;> rfl
      | false => rcases connection.write pending with ⟨_ | (_ | count) | fault, written⟩ <;> rfl

theorem DatagramWriter.step_beside (channel : Channel) (connection : Connection)
    (writer : DatagramWriter) :
    writer.step (channel.behind past) (connection.holding arrivals) =
      (writer.step channel connection).map id
        (Prod.map (behind past) (Connection.holding arrivals)) := by
  cases writer with
  | idle =>
      have hclosed : (channel.behind past).closed = channel.closed := rfl
      rw [step, step, hclosed, takeFrame?_behind]
      cases channel.closed with
      | true => rfl
      | false => rcases channel.takeFrame? with _ | ⟨frame, taken⟩ <;> rfl
  | holding frame =>
      rw [step, step]
      cases frame.encode with
      | ok datagram => rfl
      | error failure =>
          exact congrArg (fun failed => (Turn.ends (), failed, _)) (fail_behind past channel _ _)
  | sending datagram =>
      rw [step, step, Connection.send_holding]
      rcases connection.send datagram with ⟨_ | count | fault, sent⟩
      · rfl
      · rfl
      · exact congrArg (fun failed => (Turn.ends (), failed, _)) (fail_behind past channel _ _)

namespace Host

/-- The host, had these changes been published before its own, if this were what has arrived, and if
these tasks were about to take a turn. -/
def beside (past : List Change) (arrivals : List Arrival) (ready : List Caller) (host : Host) :
    Host :=
  { host with
    channel := host.channel.behind past
    wire := host.wire.holding arrivals
    ready }

variable (ready : List Caller) (host : Host)

/-! ### Sections of work -/

theorem stepReply_behind (channel : Channel) (caller : Caller) (frame : Frame) :
    stepReply (channel.behind past) caller frame =
      (stepReply channel caller frame).map id (behind past) := by
  rw [stepReply, stepReply, reserve_behind]
  rcases channel.reserve caller with ⟨_ | _ | _, reserved⟩ <;> rfl

theorem stepJob_beside (eager : Bool) (caller : Caller) {job : Job} (hjob : job.isReader = false) :
    (host.beside past arrivals ready).stepJob eager caller job =
      (host.stepJob eager caller job).map id (beside past arrivals ready) := by
  cases job with
  | call request stage =>
      have hcall := Call.step_behind past host.channel host.present host.clock caller request stage
      exact congrArg (fun result : Turn CallStage CallResult × Channel =>
        (result.1.map (Job.call request) Outcome.ofCall,
          { host.beside past arrivals ready with channel := result.2 })) hcall
  | reply frame =>
      have hreply := stepReply_behind past host.channel caller frame
      exact congrArg (fun result : Turn Job Outcome × Channel =>
        (result.1, { host.beside past arrivals ready with channel := result.2 })) hreply
  | awaitClose => rfl
  | readStream | readDatagrams => cases hjob
  | writeStream writer =>
      have hwriter := writer.step_beside past arrivals host.channel host.wire
      exact congrArg (fun result : Turn StreamWriter Unit × Channel × Connection =>
        (result.1.map Job.writeStream fun () => Outcome.done,
          { host.beside past arrivals ready with channel := result.2.1, wire := result.2.2 }))
        hwriter
  | writeDatagrams writer =>
      have hwriter := writer.step_beside past arrivals host.channel host.wire
      exact congrArg (fun result : Turn DatagramWriter Unit × Channel × Connection =>
        (result.1.map Job.writeDatagrams fun () => Outcome.done,
          { host.beside past arrivals ready with channel := result.2.1, wire := result.2.2 }))
        hwriter
  | forward client forward =>
      have hclients : (host.beside past arrivals ready).clients = host.clients := rfl
      rw [stepJob, stepJob, hclients]
      cases host.clients[client]? with
      | none => rfl
      | some connection =>
          have hforward := forward.step_behind past host.channel connection eager caller
          exact congrArg (fun result : Forward.After =>
            (result.1.map (Job.forward client) Outcome.ofForward,
              { host.beside past arrivals ready with
                channel := result.2.1
                clients := host.clients.set client result.2.2 })) hforward

/-! ### Heeding signals -/

theorem heed_beside (signal : Signal) : ∃ woken,
    (host.beside past arrivals ready).heed signal =
      (host.heed signal).beside past arrivals woken := by
  obtain ⟨tasks, before, hheed⟩ := host.heed_unfolds signal
  obtain ⟨same, woken, hbeside⟩ := (host.beside past arrivals ready).heed_unfolds signal
  have htasks := (host.heed_eq signal).2
  have hsame := ((host.beside past arrivals ready).heed_eq signal).2
  rw [hheed] at htasks
  rw [hbeside] at hsame
  obtain rfl : same = tasks := hsame.trans htasks.symm
  refine ⟨woken, ?_⟩
  rw [hheed, hbeside]
  rfl

theorem settleChannel_beside (channel : Channel) : ∃ woken,
    (host.beside past arrivals ready).settleChannel (channel.behind past) =
      (host.settleChannel channel).beside past arrivals woken := by
  have hfold (signals : List Signal) (ready : List Caller) (host : Host) : ∃ woken,
      signals.foldl heed (host.beside past arrivals ready) =
        (signals.foldl heed host).beside past arrivals woken := by
    induction signals generalizing ready host with
    | nil => exact ⟨ready, rfl⟩
    | cons signal signals ih =>
        obtain ⟨middle, hheed⟩ := heed_beside past arrivals ready host signal
        rw [List.foldl_cons, List.foldl_cons, hheed]
        exact ih middle (host.heed signal)
  exact hfold channel.signals ready { host with channel := { channel with signals := [] } }

theorem leave_behind (channel : Channel) (caller : Caller) (job : Job) :
    leave (channel.behind past) caller job = (leave channel caller job).behind past := by
  cases job with
  | forward client forward =>
      rw [leave, leave]
      cases forward.endpoint <;> rfl
  | call | reply | awaitClose | readStream | writeStream | readDatagrams | writeDatagrams => rfl

theorem finish_beside (caller : Caller) (job : Job) (outcome : Outcome) : ∃ woken,
    (host.beside past arrivals ready).finish caller job outcome =
      (host.finish caller job outcome).beside past arrivals woken := by
  obtain ⟨woken, hsettle⟩ := settleChannel_beside past arrivals ready
    { host with tasks := host.tasks.set caller (.over outcome) } (leave host.channel caller job)
  rw [← leave_behind] at hsettle
  exact ⟨woken, hsettle⟩

/-! ### Turns -/

def conclude (host : Host) (caller : Caller) (job : Job) : Turn Job Outcome → Host × Bool
  | .waits next =>
    ({ host with tasks := host.tasks.set caller (.working next false) }.settleChannel host.channel,
      false)
  | .goes next =>
    ({ host with tasks := host.tasks.set caller (.working next false) }.settleChannel host.channel,
      true)
  | .ends outcome => ((host.settleChannel host.channel).finish caller job outcome, false)

theorem turn_eq_conclude {host : Host} {caller : Caller} {job : Job} (eager : Bool)
    (htask : host.tasks[caller]? = some (.working job false)) :
    host.turn eager caller =
      (host.stepJob eager caller job).2.conclude caller job (host.stepJob eager caller job).1 := by
  rw [turn, htask]
  dsimp only
  rcases host.stepJob eager caller job with ⟨_ | _ | _, after⟩ <;> rfl

theorem conclude_beside (caller : Caller) (job : Job) (turn : Turn Job Outcome) : ∃ woken,
    (host.beside past arrivals ready).conclude caller job turn =
      (host.conclude caller job turn).map (beside past arrivals woken) id := by
  cases turn with
  | waits next =>
      obtain ⟨woken, hsettle⟩ := settleChannel_beside past arrivals ready
        { host with tasks := host.tasks.set caller (.working next false) } host.channel
      exact ⟨woken, congrArg (·, false) hsettle⟩
  | goes next =>
      obtain ⟨woken, hsettle⟩ := settleChannel_beside past arrivals ready
        { host with tasks := host.tasks.set caller (.working next false) } host.channel
      exact ⟨woken, congrArg (·, true) hsettle⟩
  | ends outcome =>
      obtain ⟨middle, hsettle⟩ := settleChannel_beside past arrivals ready host host.channel
      obtain ⟨woken, hfinish⟩ := finish_beside past arrivals middle
        (host.settleChannel host.channel) caller job outcome
      refine ⟨woken, ?_⟩
      rw [← hsettle] at hfinish
      exact congrArg (·, false) hfinish

theorem turn_beside_of_stepJob {host other : Host} {eager : Bool} {caller : Caller} {job : Job}
    (htask : host.tasks[caller]? = some (.working job false))
    (hother : other.tasks[caller]? = some (.working job false))
    (hwork : other.stepJob eager caller job =
      (host.stepJob eager caller job).map id (beside past arrivals ready)) :
    ∃ woken, other.turn eager caller =
      (host.turn eager caller).map (beside past arrivals woken) id := by
  rw [turn_eq_conclude eager htask, turn_eq_conclude eager hother, hwork]
  exact conclude_beside past arrivals ready _ caller job _

theorem turn_beside (eager : Bool) (caller : Caller)
    (hreader : ∀ job, host.tasks[caller]? = some (.working job false) → job.isReader = false) :
    ∃ woken, (host.beside past arrivals ready).turn eager caller =
      (host.turn eager caller).map (beside past arrivals woken) id := by
  have hsame : (host.beside past arrivals ready).tasks[caller]? = host.tasks[caller]? := rfl
  rcases htask : host.tasks[caller]? with _ | ⟨job, _ | _⟩ | outcome
  · refine ⟨ready, ?_⟩
    rw [turn, turn, hsame, htask]
    rfl
  · exact turn_beside_of_stepJob past arrivals ready htask (hsame.trans htask)
      (stepJob_beside past arrivals ready host eager caller (hreader job htask))
  · obtain ⟨woken, hfinish⟩ := finish_beside past arrivals ready host caller job .aborted
    refine ⟨woken, ?_⟩
    rw [turn, turn, hsame, htask]
    exact congrArg (·, false) hfinish
  · refine ⟨ready, ?_⟩
    rw [turn, turn, hsame, htask]
    rfl

theorem wake_beside (caller : Caller) : ∃ woken,
    (host.beside past arrivals ready).wake caller =
      (host.wake caller).beside past arrivals woken := by
  obtain ⟨before, hwake⟩ := host.wake_eq caller
  obtain ⟨woken, hbeside⟩ := (host.beside past arrivals ready).wake_eq caller
  refine ⟨woken, ?_⟩
  rw [hbeside, hwake]
  rfl

theorem wakeWhere_beside (chosen : Caller → Job → Bool) : ∃ woken,
    (host.beside past arrivals ready).wakeWhere chosen =
      (host.wakeWhere chosen).beside past arrivals woken := by
  obtain ⟨before, hwake⟩ := host.wakeWhere_eq chosen
  obtain ⟨woken, hbeside⟩ := (host.beside past arrivals ready).wakeWhere_eq chosen
  refine ⟨woken, ?_⟩
  rw [hbeside, hwake]
  rfl

/-- Taking a turn adds nothing to the turn but who is to take another one. -/
theorem takeTurn_beside_of_turn {host other : Host} {eager : Bool} {caller : Caller}
    (hturn : (other.dequeue caller).turn eager caller =
      ((host.dequeue caller).turn eager caller).map (beside past arrivals ready) id) :
    ∃ woken, other.takeTurn eager caller =
      (host.takeTurn eager caller).beside past arrivals woken := by
  rw [takeTurn, takeTurn, hturn]
  rcases (host.dequeue caller).turn eager caller with ⟨after, _ | _⟩
  · exact ⟨ready, rfl⟩
  · exact wake_beside past arrivals ready after caller

/-! ### Steps -/

/-- **What a step does not look at.** Neither a change of the physical connection nor a turn of its
reader is among these steps. -/
theorem step_beside {step : Step} (hline : ∀ change, step ≠ .line .wire change)
    (hreader : ∀ eager caller job, step = .turn eager caller →
      host.tasks[caller]? = some (.working job false) → job.isReader = false) :
    ∃ woken, (host.beside past arrivals ready).step step =
      (host.step step).beside past arrivals woken := by
  cases step with
  | call | forward | awaitClose | silence | stopAccepting | letGo => exact ⟨_, rfl⟩
  | abort caller =>
      exact wake_beside past arrivals ready
        { host with tasks := host.tasks.modify caller HostTask.mark } caller
  | turn eager caller =>
      obtain ⟨woken, hturn⟩ := turn_beside past arrivals (ready.filter (· ≠ caller))
        (host.dequeue caller) eager caller fun job => hreader eager caller job rfl
      exact takeTurn_beside_of_turn past arrivals woken hturn
  | line line change =>
      cases line with
      | wire => exact absurd rfl (hline change)
      | client number =>
          exact wakeWhere_beside past arrivals ready
            { host with clients := host.clients.modify number change } _
  | advance milliseconds =>
      exact wakeWhere_beside past arrivals ready
        { host with clock := host.clock + milliseconds } _
  | close =>
      obtain ⟨woken, hsettle⟩ :=
        settleChannel_beside past arrivals ready host host.channel.close
      rw [← close_behind] at hsettle
      exact ⟨woken, hsettle⟩
  | fail code message =>
      obtain ⟨woken, hsettle⟩ :=
        settleChannel_beside past arrivals ready host (host.channel.fail code message)
      rw [← fail_behind] at hsettle
      exact ⟨woken, hsettle⟩

end Host

end SessionMux
