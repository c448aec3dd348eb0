import SessionMux.Proofs.Host.LastWord
import SessionMux.Proofs.Link.Writing

/-!
# What reaches the physical connection

What is written to the connection is what was put into the queue, in order: over a byte stream up
to some byte, and up to the end of a frame if the writer has shut the stream down; over datagrams up
to some frame, with a datagram for each. What a writer keeps of its accounts in a section of its
work is carried through the steps of its host once for both kinds (`Host.Account`).
-/

namespace SessionMux

def Connection.output (connection : Connection) : List Bytes × Nat :=
  (connection.written, connection.shutdowns)

def Host.Step.KeepsOutput : Step → Prop
  | .line .wire change => ∀ connection, (change connection).output = connection.output
  | _ => True

theorem Job.hear_of_writer {job : Job} (hwriter : job.isWriter = true) (verdict : Option Verdict) :
    job.hear verdict = job := by
  cases job with
  | writeStream | writeDatagrams => rfl
  | call | reply | awaitClose | readStream | readDatagrams | forward => cases hwriter

theorem Job.Does.not_drains {job : Job} {deed : Deed} (hdeed : job.Does deed)
    (hwriter : job.isWriter = false) : ¬ deed.Drains := by
  have hcontra (hjob : job.isWriter = true) : False := by
    rw [hwriter] at hjob
    cases hjob
  cases hdeed with
  | works | calls | forwards | hears | reports | loses => exact id
  | takes hjob | abandons hjob => exact (hcontra hjob).elim

/-! ### Readers do not write -/

section Readers

variable (admission : UInt16 → Admission) (eager : Bool) (channel : Channel)
  (connection : Connection)

theorem Connection.output_read (limit : Nat) :
    (connection.read limit).2.output = connection.output := by
  rw [output, written_read, shutdowns_read, output]

theorem Connection.output_receive : connection.receive.2.output = connection.output := by
  rw [output, written_receive, shutdowns_receive, output]

theorem StreamReader.output_step (buffer : Bytes) :
    (step admission eager channel connection buffer).2.2.output = connection.output := by
  have hread := connection.output_read readLimit
  unfold step read
  split
  · rfl
  · split
    · rfl
    · rfl
    · split <;> rename_i hresult <;> rw [hresult] at hread <;> exact hread

theorem DatagramReader.output_step :
    (step admission eager channel connection).2.2.output = connection.output := by
  have hreceived := connection.output_receive
  unfold step
  split
  · rfl
  · split <;> rename_i hresult <;> rw [hresult] at hreceived
    · exact hreceived
    · exact hreceived
    · split <;> exact hreceived

end Readers

namespace Host

def posts (host : Host) (step : Step) : List Frame :=
  (host.step step).channel.outbox.frames.drop host.channel.outbox.frames.length

def posted (host : Host) : List Step → List Frame
  | [] => []
  | step :: steps => host.posts step ++ (host.step step).posted steps

variable {host next : Host} {writer reader : Charge} {job : Job}

theorem output_workOf (hjob : job.isWriter = false) (host : Host) (eager : Bool) (caller : Caller)
    (aborted : Bool) : (host.workOf eager caller job aborted).2.wire.output = host.wire.output := by
  cases aborted with
  | true => rfl
  | false =>
      cases job with
      | writeStream | writeDatagrams => cases hjob
      | readStream buffer => exact StreamReader.output_step host.reception.answer _ _ _ buffer
      | readDatagrams => exact DatagramReader.output_step _ _ _ _
      | forward client forward =>
          simp only [workOf, stepJob, Bool.false_eq_true, if_false]
          split <;> rfl
      | call | reply | awaitClose => rfl

theorem Crew.not_writer (hcrew : host.Crew writer reader) {caller : Caller} {aborted : Bool}
    (htask : host.tasks[caller]? = some (.working job aborted)) (hcaller : caller ≠ 0) :
    job.isWriter = false :=
  Bool.eq_false_of_not_eq_true fun hjob => hcaller (hcrew.writes caller job aborted htask hjob).1

/-- Without the writer, the connection is not written to. -/
theorem Stepped.output (hcrew : host.Crew writer reader) {step : Step}
    (hstepped : host.Stepped step next) (hkeeps : step.KeepsOutput)
    (hstep : ∀ eager, step ≠ .turn eager 0) : next.wire.output = host.wire.output := by
  cases hstepped with
  | @turns eager caller job aborted _ htask htook hyields hagain =>
      have hcaller : caller ≠ 0 := by
        rintro rfl
        exact hstep eager rfl
      rw [htook.wire, output_workOf (hcrew.not_writer htask hcaller)]
  | idles => rfl
  | asked hother hasked =>
      rw [hasked.wire]
      cases step with
      | line line change =>
          cases line with
          | wire => exact hkeeps host.wire
          | client => rfl
      | call | forward | awaitClose | abort | turn | advance | silence | stopAccepting | letGo
      | close | fail => rfl

/-- Without the writer, the queue only grows. -/
theorem Stepped.frames (hcrew : host.Crew writer reader) {step : Step}
    (hstepped : host.Stepped step next) (hstep : ∀ eager, step ≠ .turn eager 0) :
    host.channel.outbox.frames <+: next.channel.outbox.frames := by
  cases hstepped with
  | @turns eager caller job aborted _ htask htook hyields hagain =>
      have hcaller : caller ≠ 0 := by
        rintro rfl
        exact hstep eager rfl
      obtain ⟨deeds, hruns, hdeeds⟩ := hyields
      have hjob := hcrew.not_writer htask hcaller
      exact (hruns.prefix_frames fun deed hmem => (hdeeds deed hmem).not_drains hjob).1
  | idles => exact List.prefix_rfl
  | asked hother hasked => exact hasked.ledger.prefix_frames.1

/-! ### Accounts -/

/-- The account that is kept of the frames that were posted: while a writer goes on, from its job,
the queue and what was written, and once it has ended, from what was written. -/
structure Account where
  working : Job → List Frame → List Bytes × Nat → List Frame → Prop
  ended : List Bytes × Nat → List Frame → Prop
  isWriter {job : Job} {queue posted : List Frame} {output : List Bytes × Nat}
    (h : working job queue output posted) : job.isWriter = true
  post {job : Job} {queue posted : List Frame} {output : List Bytes × Nat}
    (h : working job queue output posted) (more : List Frame) :
    working job (queue ++ more) output (posted ++ more)
  post_ended {posted : List Frame} {output : List Bytes × Nat} (h : ended output posted)
    (more : List Frame) : ended output (posted ++ more)
  stop {job : Job} {queue posted : List Frame} {output : List Bytes × Nat}
    (h : working job queue output posted) : ended output posted
  turn {job : Job} {posted : List Frame} (host : Host) (eager : Bool) (caller : Caller)
    (h : working job host.channel.outbox.frames host.wire.output posted) :
    let (turn, next) := host.stepJob eager caller job
    next.channel.outbox.frames <:+ host.channel.outbox.frames ∧
      match turn with
      | .waits later | .goes later =>
        working later next.channel.outbox.frames next.wire.output posted
      | .ends _ => ended next.wire.output posted

/-- The accounts are right of a host that has the writer as its first task. -/
inductive Account.Right (account : Account) (host : Host) (posted : List Frame) : Prop
  | works {job : Job} {aborted : Bool} (htask : host.tasks[0]? = some (.working job aborted))
      (h : account.working job host.channel.outbox.frames host.wire.output posted) :
      Right account host posted
  | ended {outcome : Outcome} (htask : host.tasks[0]? = some (.over outcome))
      (h : account.ended host.wire.output posted) : Right account host posted

namespace Account

variable {account : Account} {posted : List Frame}

/-- A writer that ends leaves nothing in the queue. -/
theorem frames_leave (hjob : job.isWriter = true) (channel : Channel) (caller : Caller) :
    (leave channel caller job).outbox.frames = [] := by
  cases job with
  | writeStream | writeDatagrams => rfl
  | call | reply | awaitClose | readStream | readDatagrams | forward => cases hjob

theorem right_turn {aborted : Bool} (htask : host.tasks[0]? = some (.working job aborted))
    (h : account.working job host.channel.outbox.frames host.wire.output posted) (eager : Bool) :
    account.Right (host.takeTurn eager 0) posted ∧
      (host.takeTurn eager 0).channel.outbox.frames <:+ host.channel.outbox.frames := by
  have htook := (took_takeTurn eager htask).1
  obtain ⟨verdict, hself⟩ := htook.task
  obtain ⟨hchannel, hwire⟩ := And.intro htook.channel htook.wire
  generalize host.takeTurn eager 0 = next at hself hchannel hwire ⊢
  have hempty {channel : Channel}
      (hleft : next.channel = { leave channel 0 job with signals := [] }) :
      next.channel.outbox.frames <:+ host.channel.outbox.frames := by
    have hnone : next.channel.outbox.frames = [] := by
      rw [hleft]
      exact frames_leave (account.isWriter h) channel 0
    rw [hnone]
    exact List.nil_suffix
  cases aborted with
  | true =>
      refine ⟨.ended hself ?_, hempty hchannel⟩
      rw [hwire]
      exact account.stop h
  | false =>
      have hturn := account.turn host eager 0 h
      simp only [workOf, Bool.false_eq_true, if_false] at hself hchannel hwire
      rcases hstep : host.stepJob eager 0 job with ⟨later | later | outcome, after⟩ <;>
        rw [hstep] at hself hchannel hwire hturn
      all_goals obtain ⟨hsuffix, hafter⟩ := hturn
      · refine ⟨.works hself ?_, ?_⟩
        · rw [Job.hear_of_writer (account.isWriter hafter), hwire, hchannel]
          exact hafter
        · rw [hchannel]
          exact hsuffix
      · refine ⟨.works hself ?_, ?_⟩
        · rw [Job.hear_of_writer (account.isWriter hafter), hwire, hchannel]
          exact hafter
        · rw [hchannel]
          exact hsuffix
      · refine ⟨.ended hself ?_, hempty hchannel⟩
        rw [hwire]
        exact hafter

theorem Right.step (h : account.Right host posted) (hcrew : host.Crew writer reader) {step : Step}
    (hkeeps : step.KeepsOutput) :
    account.Right (host.step step) (posted ++ host.posts step) := by
  have hstepped := host.stepped_step step
  by_cases hturn : ∃ eager, step = .turn eager 0
  · obtain ⟨eager, rfl⟩ := hturn
    have hnothing (hsuffix : (host.takeTurn eager 0).channel.outbox.frames <:+
        host.channel.outbox.frames) : host.posts (.turn eager 0) = [] :=
      List.drop_eq_nil_of_le hsuffix.length_le
    cases h with
    | works htask h =>
        obtain ⟨hright, hsuffix⟩ := right_turn htask h eager
        rw [hnothing hsuffix, List.append_nil]
        exact hright
    | ended htask h =>
        have hidle : host.takeTurn eager 0 = host.dequeue 0 :=
          takeTurn_of_idle eager fun job aborted hworking => by cases htask.symm.trans hworking
        rw [hnothing (hidle ▸ List.suffix_rfl), List.append_nil, Host.step, hidle]
        exact .ended htask h
  · push Not at hturn
    obtain ⟨more, hmore⟩ := hstepped.frames hcrew hturn
    have hposts : host.posts step = more := by
      rw [posts, ← hmore, List.drop_left]
    have houtput := hstepped.output hcrew hkeeps hturn
    rw [hposts]
    cases h with
    | works htask h =>
        obtain ⟨verdict, marked, hstays, -⟩ := hstepped.stays htask hturn
        rw [Job.hear_of_writer (account.isWriter h)] at hstays
        refine .works hstays ?_
        rw [← hmore, houtput]
        exact account.post h more
    | ended htask h =>
        refine .ended (hstepped.ended htask) ?_
        rw [houtput]
        exact account.post_ended h more

theorem Right.run (h : account.Right host posted) (hcrew : host.Crew writer reader)
    (steps : List Step) (hkeeps : ∀ step ∈ steps, step.KeepsOutput) :
    account.Right (steps.foldl Host.step host) (posted ++ host.posted steps) := by
  induction steps generalizing host posted with
  | nil =>
      rw [Host.posted, List.append_nil]
      exact h
  | cons step steps ih =>
      rw [Host.posted, ← List.append_assoc]
      exact ih (h.step hcrew (hkeeps step List.mem_cons_self))
        (hcrew.stepped (host.stepped_step step))
        fun other hmem => hkeeps other (List.mem_cons_of_mem _ hmem)

/-- The account of a stream: all bytes of some frames have been written but those that are pending.
The stream is shut down only when none are. -/
def stream : Account where
  working job queue output posted := ∃ writer, job = .writeStream writer ∧
    (∃ later, Shipped posted later output.1.flatten writer.pending ∧ writer.Expects queue later) ∧
      output.2 = 0
  ended output posted := ∃ later pending, Shipped posted later output.1.flatten pending ∧
    (0 < output.2 → pending = [])
  isWriter := by
    rintro _ queue posted output ⟨writer, rfl, -⟩
    rfl
  post := by
    rintro job queue posted output ⟨writer, hjob, ⟨later, hshipped, hlater⟩, hshut⟩ more
    exact ⟨writer, hjob, ⟨_, hshipped.post more, hlater.post more⟩, hshut⟩
  post_ended := by
    rintro posted output ⟨later, pending, hshipped, hshut⟩ more
    exact ⟨_, pending, hshipped.post more, hshut⟩
  stop := by
    rintro job queue posted output ⟨writer, hjob, ⟨later, hshipped, hlater⟩, hshut⟩
    exact ⟨later, writer.pending, hshipped, fun hpositive => absurd hshut (Nat.ne_of_gt hpositive)⟩
  turn := by
    rintro _ posted host eager caller ⟨writer, rfl, ⟨later, hshipped, hlater⟩, hshut⟩
    have hframes := writer.frames_step host.channel host.wire
    have hkeeps := writer.shipped_step hshipped hlater hshut
    rw [stepJob]
    rcases hstep : writer.step host.channel host.wire with ⟨later | later | _, channel, wire⟩ <;>
      rw [hstep] at hframes hkeeps
    · exact ⟨hframes, later, rfl, hkeeps⟩
    · exact ⟨hframes, later, rfl, hkeeps⟩
    · exact ⟨hframes, hkeeps⟩

def datagrams : Account where
  working job queue output posted := ∃ writer, job = .writeDatagrams writer ∧
    ∃ later, Sent posted later output.1 ∧ writer.Expects queue later
  ended output posted := ∃ later, Sent posted later output.1
  isWriter := by
    rintro _ queue posted output ⟨writer, rfl, -⟩
    rfl
  post := by
    rintro job queue posted output ⟨writer, hjob, later, hsent, hlater⟩ more
    exact ⟨writer, hjob, _, hsent.post more, hlater.post more⟩
  post_ended := by
    rintro posted output ⟨later, hsent⟩ more
    exact ⟨_, hsent.post more⟩
  stop := by
    rintro job queue posted output ⟨writer, hjob, later, hsent, hlater⟩
    exact ⟨later, hsent⟩
  turn := by
    rintro _ posted host eager caller ⟨writer, rfl, later, hsent, hlater⟩
    have hframes := writer.frames_step host.channel host.wire
    have hkeeps := writer.sent_step hsent hlater
    rw [stepJob]
    rcases hstep : writer.step host.channel host.wire with ⟨later | later | _, channel, wire⟩ <;>
      rw [hstep] at hframes hkeeps
    · exact ⟨hframes, later, rfl, hkeeps⟩
    · exact ⟨hframes, later, rfl, hkeeps⟩
    · exact ⟨hframes, hkeeps⟩

theorem Right.shipped (h : stream.Right host posted) :
    ∃ later pending, Shipped posted later host.wire.written.flatten pending ∧
      (0 < host.wire.shutdowns → pending = []) := by
  cases h with
  | works htask h => exact stream.stop h
  | ended htask h => exact h

theorem Right.sent (h : datagrams.Right host posted) :
    ∃ later, Sent posted later host.wire.written := by
  cases h with
  | works htask h => exact datagrams.stop h
  | ended htask h => exact h

end Account

theorem right_overStream (config : ChannelConfig) (reception : Reception) :
    Account.stream.Right (overStream config reception) [] :=
  .works rfl ⟨.idle, rfl, ⟨[], ⟨[], rfl, nofun, rfl⟩, rfl⟩, rfl⟩

theorem right_overDatagrams (config : ChannelConfig) (reception : Reception) :
    Account.datagrams.Right (overDatagrams config reception) [] :=
  .works rfl ⟨.idle, rfl, [], ⟨[], rfl, rfl⟩, rfl⟩

/-- **The connection carries the queue.** However writes fare, and however the channel is closed
meanwhile: the bytes that a stream has taken are a prefix of the encodings of the frames that were
put into the queue, one behind the other, and they end with a whole frame once the writer has shut
the stream down. Each frame up to there could be encoded. The datagrams that were sent are the
encodings of the first frames that were put into the queue, one for each. -/
theorem queue_carried (config : ChannelConfig) (reception : Reception) (steps : List Step)
    (hkeeps : ∀ step ∈ steps, step.KeepsOutput) :
    (let begun := overStream config reception
    let wire := (steps.foldl step begun).wire
    wire.written.flatten <+: ((begun.posted steps).map Frame.bytes).flatten ∧
      ∃ front, front <+: begun.posted steps ∧
        (∀ frame ∈ front, frame.encode = .ok frame.bytes) ∧
        wire.written.flatten <+: (front.map Frame.bytes).flatten ∧
        (0 < wire.shutdowns → wire.written.flatten = (front.map Frame.bytes).flatten)) ∧
    (let begun := overDatagrams config reception
    let wire := (steps.foldl step begun).wire
    ∃ front, front <+: begun.posted steps ∧ front.map Frame.encode = wire.written.map .ok) := by
  constructor
  · intro begun wire
    have hright : Account.stream.Right (steps.foldl step begun) (begun.posted steps) :=
      (right_overStream config reception).run (crew_overStream config reception) steps hkeeps
    obtain ⟨later, pending, ⟨front, hposted, hencoded, hbytes⟩, hshut⟩ := hright.shipped
    have hprefix : wire.written.flatten <+: (front.map Frame.bytes).flatten := ⟨pending, hbytes⟩
    refine ⟨?_, front, ⟨later, hposted.symm⟩, hencoded, hprefix, fun hpositive => ?_⟩
    · rw [hposted, List.map_append, List.flatten_append]
      exact hprefix.trans (List.prefix_append _ _)
    · rw [hshut hpositive, List.append_nil] at hbytes
      exact hbytes
  · intro begun wire
    have hright : Account.datagrams.Right (steps.foldl step begun) (begun.posted steps) :=
      (right_overDatagrams config reception).run (crew_overDatagrams config reception) steps hkeeps
    obtain ⟨later, front, hposted, hwritten⟩ := hright.sent
    exact ⟨front, ⟨later, hposted.symm⟩, hwritten⟩

/-- A stream takes a frame in two writes. Between them the channel is closed. -/
theorem queue_carried_of_frame :
    let steps : List Step := [.line .wire ({ · with writeLimit := some 10 }),
      .call (.openSession 80 .queue) false, .turn false 2, .turn false 0, .turn false 0,
      .turn false 0, .close, .turn false 0, .turn false 0, .turn false 0]
    let begun := overStream { (default : ChannelConfig) with maxPayload := 2 }
      { rules := [], accepting := true }
    (steps.foldl step begun).wire.written.map List.length = [10, 4] ∧
      (steps.foldl step begun).wire.shutdowns = 1 ∧
      ∃ front, front <+: begun.posted steps ∧
        (steps.foldl step begun).wire.written.flatten = (front.map Frame.bytes).flatten := by
  intro steps begun
  have hkeeps : ∀ step ∈ steps, step.KeepsOutput := by
    simp only [steps, List.forall_mem_cons, Step.KeepsOutput]
    exact ⟨fun _ => rfl, trivial, trivial, trivial, trivial, trivial, trivial, trivial, trivial,
      trivial, nofun⟩
  have hlengths : (steps.foldl step begun).wire.written.map List.length = [10, 4] := by decide
  have hshutdowns : (steps.foldl step begun).wire.shutdowns = 1 := by decide
  have hcarried := (queue_carried { (default : ChannelConfig) with maxPayload := 2 }
    { rules := [], accepting := true } steps hkeeps).1
  have hbegun : begun = overStream { (default : ChannelConfig) with maxPayload := 2 }
    { rules := [], accepting := true } := rfl
  -- From here on, nothing is to be evaluated any more.
  rw [← hbegun] at hcarried
  clear_value begun
  obtain ⟨-, front, hfront, -, -, hshut⟩ := hcarried
  refine ⟨hlengths, hshutdowns, front, hfront, hshut ?_⟩
  rw [hshutdowns]
  exact Nat.zero_lt_one

end Host

end SessionMux
