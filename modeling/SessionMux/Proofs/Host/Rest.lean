import SessionMux.Host.Turn
import SessionMux.Proofs.Channel.Alerts

/-!
# When a task may rest

A task rests when nothing is left for it to do before something changes. What has to change depends
on its job (`Job.Rests`): a reader and a writer with nothing at hand rest while the channel is open,
whoever needs a place in the outbound queue rests while it stands in line for one, and a writer that
flushes what is left rests while writes wait, or the close of the stream behind them. A section of a
task's work that ends in waiting leaves the task where it may rest, and every section alerts whom it
concerns (`Mindful`).
-/

namespace SessionMux

/-! ### Connections -/

/-- What has to wait on a connection: writes, and the close of a stream that has taken every
byte. -/
structure Connection.Stall where
  writes : Bool
  close : Bool

def Connection.stall (connection : Connection) : Connection.Stall where
  writes := connection.writeFault.isNone && connection.blocked
  close := connection.lingers

namespace Connection

variable (connection : Connection)

@[simp]
theorem stall_read (limit : Nat) : (connection.read limit).2.stall = connection.stall := by
  unfold read
  split <;> rfl

@[simp]
theorem stall_receive : connection.receive.2.stall = connection.stall := by
  unfold receive
  split <;> rfl

@[simp]
theorem stall_write (bytes : Bytes) :
    (connection.write bytes).2.stall = connection.stall := by
  unfold write
  split
  · rfl
  · split <;> rfl

@[simp]
theorem stall_send (datagram : Bytes) :
    (connection.send datagram).2.stall = connection.stall := by
  unfold send
  split
  · rfl
  · split <;> rfl

variable {connection}

theorem stalls_of_write_waits {bytes : Bytes} {next : Connection}
    (hwrite : connection.write bytes = (.waits, next)) : connection.stall.writes = true := by
  unfold write at hwrite
  split at hwrite
  · cases hwrite
  · rename_i hfault
    split at hwrite
    · rename_i hblocked
      rw [stall, hfault, hblocked]
      rfl
    · cases hwrite

theorem stalls_of_send_waits {datagram : Bytes} {next : Connection}
    (hsend : connection.send datagram = (.waits, next)) : connection.stall.writes = true := by
  unfold send at hsend
  split at hsend
  · cases hsend
  · rename_i hfault
    split at hsend
    · rename_i hblocked
      rw [stall, hfault, hblocked]
      rfl
    · cases hsend

end Connection

/-! ### Jobs -/

def Forward.asksPlace (forward : Forward) : Bool :=
  match forward.stage with
  | .opening | .sending _ | .reporting _ | .closing _ => true
  | .listening | .writing .. => false

namespace Job

def asksPlace : Job → Bool
  | call _ .arriving | call _ .asking | reply _ => true
  | forward _ state => state.asksPlace
  | _ => false

/-- Whether a task with this job has nothing to do before something changes. `stall` tells what has
to wait on the physical connection. -/
def Rests (channel : Channel) (stall : Connection.Stall) (caller : Caller) : Job → Prop
  | call _ .arriving | writeStream (.holding _) | writeDatagrams (.holding _) => False
  | call _ (.awaiting ..) => True
  | awaitClose | readStream _ | readDatagrams | writeStream .idle | writeStream (.flushing _)
  | writeDatagrams .idle => channel.closed = false
  | writeStream (.closing pending) => (if pending.isEmpty then stall.close else stall.writes) = true
  | writeDatagrams (.sending _) => stall.writes = true
  | call _ .asking | reply _ => caller ∈ channel.outbox.waiting
  | forward _ state => state.asksPlace = true → caller ∈ channel.outbox.waiting

variable {channel next : Channel} {stall : Connection.Stall} {caller other : Caller} {job : Job}

theorem Rests.mem_waiting (hrests : job.Rests channel stall caller)
    (hasks : job.asksPlace = true) : caller ∈ channel.outbox.waiting := by
  cases job with
  | call request stage =>
      cases stage with
      | arriving => cases hrests
      | asking => exact hrests
      | awaiting => cases hasks
  | reply frame => exact hrests
  | forward client state => exact hrests hasks
  | awaitClose | readStream | writeStream | readDatagrams | writeDatagrams => cases hasks

/-- Only a writer is concerned with whether writes have to wait. -/
theorem Rests.of_not_writer {later : Connection.Stall} (hrests : job.Rests channel stall caller)
    (hwriter : job.isWriter = false) : job.Rests channel later caller := by
  cases job with
  | writeStream | writeDatagrams => cases hwriter
  | call request stage => cases stage <;> exact hrests
  | reply | awaitClose | readStream | readDatagrams | forward => exact hrests

/-- A task rests on after what alerts it, unless that wakes it. -/
theorem Rests.alerts (hrests : job.Rests channel stall other)
    (halerts : channel.Alerts caller next) (hsound : channel.outbox.Sound) (hne : other ≠ caller) :
    job.Rests next stall other ∨ ∃ signal ∈ next.signals, job.heeds other signal = true := by
  have hplace (hmem : other ∈ channel.outbox.waiting) : other ∈ next.outbox.waiting ∨
      ∃ signal ∈ next.signals, job.heeds other signal = true := by
    obtain hwaits | hgranted | hrefused := halerts.waiting hsound other hne hmem
    · exact .inl hwaits
    · exact .inr ⟨_, hgranted, beq_self_eq_true other⟩
    · exact .inr ⟨_, hrefused, beq_self_eq_true other⟩
  have hopen (hopen : channel.closed = false) (hheeds : job.heeds other .shutdown = true) :
      next.closed = false ∨ ∃ signal ∈ next.signals, job.heeds other signal = true := by
    cases hclosed : next.closed with
    | false => exact .inl rfl
    | true =>
        obtain hbefore | hshutdown := halerts.closed hclosed
        · rw [hopen] at hbefore
          cases hbefore
        · exact .inr ⟨_, hshutdown, hheeds⟩
  cases job with
  | call request stage =>
      cases stage with
      | arriving => cases hrests
      | asking => exact hplace hrests
      | awaiting => exact .inl trivial
  | reply frame => exact hplace hrests
  | awaitClose | readStream | readDatagrams => exact hopen hrests rfl
  | writeStream writer =>
      cases writer with
      | idle | flushing => exact hopen hrests rfl
      | holding => cases hrests
      | closing => exact .inl hrests
  | writeDatagrams writer =>
      cases writer with
      | idle => exact hopen hrests rfl
      | holding => cases hrests
      | sending => exact .inl hrests
  | forward client state =>
      cases hasks : state.asksPlace with
      | false => exact .inl fun h => absurd h (by simp [hasks])
      | true => exact (hplace (hrests hasks)).imp_left fun hmem _ => hmem

end Job

/-! ### Sections of work -/

/-- A section of a caller's work that alerts whom it concerns, and after which the caller waits only
where it may rest. -/
inductive Mindful {State Result : Type} (channel : Channel) (caller : Caller)
    (Rests : State → Channel → Prop) : Turn State Result → Channel → Prop
  | waits {state : State} {next : Channel} (halerts : channel.Alerts caller next)
      (hrests : Rests state next) : Mindful channel caller Rests (.waits state) next
  | goes {state : State} {next : Channel} (halerts : channel.Alerts caller next) :
      Mindful channel caller Rests (.goes state) next
  | ends {result : Result} {next : Channel} (halerts : channel.Alerts caller next) :
      Mindful channel caller Rests (.ends result) next

namespace Mindful

variable {State Result State' Result' : Type} {channel next : Channel} {caller : Caller}
  {Rests : State → Channel → Prop} {turn : Turn State Result}

theorem alerts (h : Mindful channel caller Rests turn next) : channel.Alerts caller next := by
  cases h <;> assumption

/-- A section that begins with something that alerts whom it concerns. -/
theorem after {middle : Channel} (h : Mindful middle caller Rests turn next)
    (halerts : channel.Alerts caller middle) : Mindful channel caller Rests turn next := by
  cases h with
  | waits hlater hrests => exact .waits (halerts.trans hlater) hrests
  | goes hlater => exact .goes (halerts.trans hlater)
  | ends hlater => exact .ends (halerts.trans hlater)

theorem map {Rests' : State' → Channel → Prop} (h : Mindful channel caller Rests turn next)
    (state : State → State') (result : Result → Result')
    (hrests : ∀ resting next, Rests resting next → Rests' (state resting) next) :
    Mindful channel caller Rests' (turn.map state result) next := by
  cases h with
  | waits halerts hresting => exact .waits halerts (hrests _ _ hresting)
  | goes halerts => exact .goes halerts
  | ends halerts => exact .ends halerts

end Mindful

namespace Channel

variable {channel next : Channel} {caller : Caller} {reservation : Outbox.Reservation}

theorem alerts_of_reserve (hreserve : channel.reserve caller = (reservation, next)) :
    channel.Alerts caller next := by
  have halerts := channel.alerts_reserve caller
  rw [hreserve] at halerts
  exact halerts

theorem waiting_of_reserve (hreserve : channel.reserve caller = (.waiting, next)) :
    caller ∈ next.outbox.waiting := by
  obtain ⟨hreservation, rfl⟩ := Prod.mk.inj hreserve
  exact Outbox.mem_waiting_of_reserve (Prod.ext hreservation rfl)

end Channel

namespace Call

variable (channel : Channel) (clock : Nat) (caller : Caller) (request : Request)
  {Rests : CallStage → Channel → Prop}

theorem mindful_perform :
    Mindful channel caller Rests (perform channel clock caller request).1
      (perform channel clock caller request).2 := by
  cases request with
  | send id payload => exact .ends (Channel.alerts_send _ _ _ _)
  | openSession port kind => exact .ends (Channel.alerts_openSession _ _ _ _)
  | closeSession id => exact .ends (Channel.alerts_closeSession _ _ _ _)
  | sendError id code => exact .ends (Channel.alerts_sendError _ _ _ _)
  | closeAndWait id timeout =>
      have hclose := channel.alerts_closeSession caller id true
      rcases hresult : channel.closeSession caller id true with ⟨error | ⟨⟩, next⟩ <;>
        rw [hresult] at hclose <;> simp only [perform, hresult]
      · exact .ends hclose
      · exact .goes hclose

theorem mindful_step (present : Bool) (stall : Connection.Stall) (stage : CallStage) :
    Mindful channel caller (fun stage next => (Job.call request stage).Rests next stall caller)
      (step channel present clock caller request stage).1
      (step channel present clock caller request stage).2 := by
  cases stage with
  | arriving =>
      cases present with
      | true => exact .goes (.refl _ _)
      | false => exact .ends (.refl _ _)
  | asking =>
      simp only [step, ask]
      split
      · exact .ends (.refl _ _)
      · split
        · rename_i hreserve
          exact .ends (Channel.alerts_of_reserve hreserve)
        · rename_i hreserve
          exact .waits (Channel.alerts_of_reserve hreserve) (Channel.waiting_of_reserve hreserve)
        · rename_i hreserve
          exact (mindful_perform _ _ _ _).after (Channel.alerts_of_reserve hreserve)
  | awaiting id deadline verdict =>
      rcases verdict with _ | _ | _
      · rw [step, await]
        split
        · exact .ends (Channel.alerts_stopWaiting _ _)
        · exact .waits (.refl _ _) trivial
      · exact .ends (.refl _ _)
      · exact .ends (.refl _ _)

end Call

theorem Host.mindful_stepReply (channel : Channel) (caller : Caller) (stall : Connection.Stall)
    (frame : Frame) :
    Mindful channel caller (fun job next => job.Rests next stall caller)
      (stepReply channel caller frame).1 (stepReply channel caller frame).2 := by
  unfold stepReply
  split
  · rename_i hreserve
    exact .ends (Channel.alerts_of_reserve hreserve)
  · rename_i hreserve
    exact .waits (Channel.alerts_of_reserve hreserve) (Channel.waiting_of_reserve hreserve)
  · rename_i hreserve
    exact .ends ((Channel.alerts_of_reserve hreserve).trans (Channel.alerts_fill _ _))

/-! ### Forwards -/

namespace Forward

abbrev Heedful (channel : Channel) (caller : Caller) (after : After) : Prop :=
  Mindful channel caller
    (fun state next => state.asksPlace = true → caller ∈ next.outbox.waiting) after.1 after.2.1

variable (forward : Forward) (channel : Channel) (caller : Caller) (client : Connection)

theorem heedful_opened : Heedful channel caller (forward.opened channel caller client) := by
  unfold opened
  split
  · rename_i hreserve
    exact .ends (Channel.alerts_of_reserve hreserve)
  · rename_i hreserve
    exact .waits (Channel.alerts_of_reserve hreserve) fun _ => Channel.waiting_of_reserve hreserve
  · rename_i reserved hreserve
    have hopen := reserved.alerts_openSession caller forward.port .forwarded
    have halerts := (Channel.alerts_of_reserve hreserve).trans hopen
    rcases hresult : reserved.openSession caller forward.port .forwarded with ⟨error | id, next⟩ <;>
      rw [hresult] at halerts
    · exact .ends halerts
    · exact .goes halerts

theorem heedful_hear (message : Message) :
    Heedful channel caller (forward.hear channel client message) := by
  cases message with
  | data | error => exact .goes (.refl _ _)
  | closed => exact .ends (.refl _ _)

/-- A forward that listens takes a message or something from the local side, or waits on. -/
theorem listen_induction {motive : After → Prop} (eager : Bool)
    (hhear : ∀ message, motive (forward.hear channel client message))
    (hread : ∀ next client, motive (.goes next, channel, client))
    (hwait : motive (.waits forward, channel, client)) :
    motive (forward.listen eager channel client) := by
  unfold listen
  extract_lets heard read first
  have hheard (after : After) (hsome : heard = some after) : motive after := by
    obtain ⟨message, -, rfl⟩ := Option.map_eq_some_iff.mp hsome
    exact hhear message
  have hread (after : After) (hsome : read = some after) : motive after := by
    simp only [read] at hsome
    split at hsome <;> cases hsome <;> exact hread _ _
  have hfirst (after : After) (hsome : first = some after) : motive after := by
    simp only [first] at hsome
    split at hsome
    · exact (Option.or_eq_some_iff.mp hsome).elim (hread after) fun h => hheard after h.2
    · exact (Option.or_eq_some_iff.mp hsome).elim (hheard after) fun h => hread after h.2
  cases hresult : first with
  | none => exact hwait
  | some after => exact hfirst after hresult

theorem heedful_listen (eager : Bool) (hstage : forward.stage = .listening) :
    Heedful channel caller (forward.listen eager channel client) := by
  have hasks : forward.asksPlace = false := by rw [asksPlace, hstage]
  apply listen_induction
  · exact heedful_hear _ _ _ _
  · exact fun _ _ => .goes (.refl _ _)
  · refine .waits (.refl _ _) fun h => ?_
    rw [hasks] at h
    cases h

theorem heedful_transmit (payload : Bytes) :
    Heedful channel caller (forward.transmit channel caller client payload) := by
  unfold transmit
  split
  · exact .ends (.refl _ _)
  · split
    · rename_i hreserve
      exact .ends (Channel.alerts_of_reserve hreserve)
    · rename_i hreserve
      exact .waits (Channel.alerts_of_reserve hreserve) fun _ => Channel.waiting_of_reserve hreserve
    · rename_i reserved hreserve
      have hsend := reserved.alerts_send caller forward.stats.session payload
      have halerts := (Channel.alerts_of_reserve hreserve).trans hsend
      split <;> rename_i hresult <;> rw [hresult] at halerts
      · exact .goes halerts
      · exact .goes halerts
      · exact .ends halerts

theorem heedful_deliver (rest : Bytes) (size : Nat) (hstage : forward.stage = .writing rest size) :
    Heedful channel caller (forward.deliver channel client rest size) := by
  have hasks : forward.asksPlace = false := by rw [asksPlace, hstage]
  unfold deliver
  split
  · exact .goes (.refl _ _)
  · split
    · refine .waits (.refl _ _) fun h => ?_
      rw [hasks] at h
      cases h
    · exact .goes (.refl _ _)
    · exact .goes (.refl _ _)
    · exact .goes (.refl _ _)

theorem heedful_complain (fault : Fault) :
    Heedful channel caller (forward.complain channel caller client fault) := by
  unfold complain
  extract_lets next
  split
  · rename_i hreserve
    exact .goes (Channel.alerts_of_reserve hreserve)
  · rename_i hreserve
    exact .waits (Channel.alerts_of_reserve hreserve) fun _ => Channel.waiting_of_reserve hreserve
  · rename_i hreserve
    exact .goes ((Channel.alerts_of_reserve hreserve).trans (Channel.alerts_sendError _ _ _ _))

theorem heedful_finish {next : Channel} (halerts : channel.Alerts caller next) (cause : ForwardEnd)
    (closed : Except ChannelError Unit) :
    Heedful channel caller (forward.finish next client cause closed) := by
  unfold finish
  split <;> exact .ends halerts

theorem heedful_close (cause : ForwardEnd) :
    Heedful channel caller (forward.close channel caller client cause) := by
  unfold close
  split
  · rename_i hreserve
    exact heedful_finish _ _ _ _ (Channel.alerts_of_reserve hreserve) _ _
  · rename_i hreserve
    exact .waits (Channel.alerts_of_reserve hreserve) fun _ => Channel.waiting_of_reserve hreserve
  · rename_i hreserve
    exact heedful_finish _ _ _ _
      ((Channel.alerts_of_reserve hreserve).trans (Channel.alerts_closeSession _ _ _ _)) _ _

theorem heedful_step (eager : Bool) :
    Heedful channel caller (forward.step eager channel caller client) := by
  unfold step
  split
  · exact heedful_opened _ _ _ _
  · rename_i hstage
    exact heedful_listen _ _ _ _ eager hstage
  · exact heedful_transmit _ _ _ _ _
  · rename_i hstage
    exact heedful_deliver _ _ _ _ _ _ hstage
  · exact heedful_complain _ _ _ _ _
  · exact heedful_close _ _ _ _ _

end Forward

/-! ### Readers and writers -/

/-- What a section of the work on the physical connection has to leave behind. It does not change
what has to wait. -/
structure MindfulLink {State : Type} (channel : Channel) (caller : Caller) (connection : Connection)
    (Rests : State → Channel → Prop) (after : Turn State Unit × Channel × Connection) : Prop where
  mindful : Mindful channel caller Rests after.1 after.2.1
  stalls : after.2.2.stall = connection.stall

section Link

variable (channel : Channel) (caller : Caller) (connection : Connection)
  (admission : UInt16 → Admission) (eager : Bool)

theorem StreamReader.mindful_step (buffer : Bytes) :
    MindfulLink channel caller connection (fun _ next => next.closed = false)
      (step admission eager channel connection buffer) := by
  have hread := connection.stall_read readLimit
  have hconclude (verdict : Except WireError Unit) :
      channel.Alerts caller (conclude channel verdict) := by
    cases verdict with
    | ok => exact Channel.alerts_close
    | error failure => exact Channel.alerts_fail _ _
  unfold step read
  split
  · exact ⟨.ends (.refl _ _), rfl⟩
  · split
    · exact ⟨.ends (hconclude (.error _)), rfl⟩
    · exact ⟨.goes (Channel.alerts_receive _ _ _ _), rfl⟩
    · split <;> rename_i hresult <;> rw [hresult] at hread
      · split
        · exact ⟨.ends (.refl _ _), hread⟩
        · rename_i hopen
          exact ⟨.waits (.refl _ _) (Bool.eq_false_iff.mpr hopen), hread⟩
      · exact ⟨.goes (.refl _ _), hread⟩
      · exact ⟨.ends (hconclude (Stream.finish buffer)), hread⟩
      · exact ⟨.ends (hconclude (.error (.io _))), hread⟩

theorem DatagramReader.alerts_receive (datagram : Bytes) :
    channel.Alerts caller (receive admission channel datagram) := by
  unfold receive
  extract_lets datagram
  split
  · exact Channel.alerts_receive _ _ _ _
  · exact Channel.alerts_publish _

theorem DatagramReader.mindful_step :
    MindfulLink channel caller connection (fun _ next => next.closed = false)
      (step admission eager channel connection) := by
  have hreceive := connection.stall_receive
  unfold step
  split
  · exact ⟨.ends (.refl _ _), rfl⟩
  · split <;> rename_i hresult <;> rw [hresult] at hreceive
    · exact ⟨.goes (alerts_receive _ _ _ _), hreceive⟩
    · exact ⟨.ends (Channel.alerts_fail _ _), hreceive⟩
    · split
      · exact ⟨.ends (.refl _ _), hreceive⟩
      · rename_i hopen
        exact ⟨.waits (.refl _ _) (Bool.eq_false_iff.mpr hopen), hreceive⟩

theorem StreamWriter.mindful_step (writer : StreamWriter) :
    MindfulLink channel caller connection
      (fun writer next => (Job.writeStream writer).Rests next connection.stall caller)
      (writer.step channel connection) := by
  cases writer with
  | idle =>
      rw [step]
      split
      · exact ⟨.goes (.refl _ _), rfl⟩
      · rename_i hopen
        split
        · exact ⟨.waits (.refl _ _) (Bool.eq_false_iff.mpr hopen), rfl⟩
        · rename_i htake
          exact ⟨.goes (Channel.alerts_takeFrame? htake), rfl⟩
  | holding frame =>
      rw [step]
      split
      · exact ⟨.goes (.refl _ _), rfl⟩
      · split
        · exact ⟨.goes (Channel.alerts_fail _ _), rfl⟩
        · exact ⟨.goes (.refl _ _), rfl⟩
  | flushing pending =>
      have hwrite := connection.stall_write pending
      rw [step]
      split
      · exact ⟨.goes (.refl _ _), rfl⟩
      · rename_i hopen
        split
        · split
          · exact ⟨.waits (.refl _ _) (Bool.eq_false_iff.mpr hopen), rfl⟩
          · exact ⟨.goes (.refl _ _), rfl⟩
        · split <;> rename_i hresult <;> rw [hresult] at hwrite
          · exact ⟨.waits (.refl _ _) (Bool.eq_false_iff.mpr hopen), hwrite⟩
          · exact ⟨.goes (Channel.alerts_fail _ _), hwrite⟩
          · exact ⟨.goes (Channel.alerts_fail _ _), hwrite⟩
          · exact ⟨.goes (.refl _ _), hwrite⟩
  | closing pending =>
      have hwrite := connection.stall_write pending
      rw [step]
      split
      · rename_i hempty
        rw [Connection.close?]
        cases hlingers : connection.lingers with
        | true =>
            have hrests : (if pending.isEmpty then connection.stall.close
                else connection.stall.writes) = true := (if_pos hempty).trans hlingers
            exact ⟨.waits (.refl _ _) hrests, rfl⟩
        | false => exact ⟨.ends (.refl _ _), rfl⟩
      · rename_i hpending
        split <;> rename_i hresult <;> rw [hresult] at hwrite
        · have hrests : (if pending.isEmpty then connection.stall.close
              else connection.stall.writes) = true :=
            (if_neg hpending).trans (Connection.stalls_of_write_waits hresult)
          exact ⟨.waits (.refl _ _) hrests, hwrite⟩
        · exact ⟨.ends (.refl _ _), hwrite⟩
        · exact ⟨.ends (.refl _ _), hwrite⟩
        · exact ⟨.goes (.refl _ _), hwrite⟩

theorem DatagramWriter.mindful_step (writer : DatagramWriter) :
    MindfulLink channel caller connection
      (fun writer next => (Job.writeDatagrams writer).Rests next connection.stall caller)
      (writer.step channel connection) := by
  cases writer with
  | idle =>
      rw [step]
      split
      · exact ⟨.ends (.refl _ _), rfl⟩
      · rename_i hopen
        split
        · exact ⟨.waits (.refl _ _) (Bool.eq_false_iff.mpr hopen), rfl⟩
        · rename_i htake
          exact ⟨.goes (Channel.alerts_takeFrame? htake), rfl⟩
  | holding frame =>
      rw [step]
      split
      · exact ⟨.ends (Channel.alerts_fail _ _), rfl⟩
      · exact ⟨.goes (.refl _ _), rfl⟩
  | sending datagram =>
      have hsend := connection.stall_send datagram
      rw [step]
      split <;> rename_i hresult <;> rw [hresult] at hsend
      · exact ⟨.waits (.refl _ _) (Connection.stalls_of_send_waits hresult), hsend⟩
      · exact ⟨.goes (.refl _ _), hsend⟩
      · exact ⟨.ends (Channel.alerts_fail _ _), hsend⟩

end Link

/-! ### Every section -/

def Turn.next? {State Result : Type} : Turn State Result → Option State
  | .waits next | .goes next => some next
  | .ends _ => none

theorem Turn.next?_map {State Result State' Result' : Type} (state : State → State')
    (result : Result → Result') (turn : Turn State Result) :
    (turn.map state result).next? = turn.next?.map state := by
  cases turn <;> rfl

namespace Host

/-- What a section of a task's work leaves behind before its signals are heeded. A task keeps its
kind of job. -/
structure Section (host : Host) (caller : Caller) (job : Job) (turn : Turn Job Outcome)
    (next : Host) : Prop where
  mindful : Mindful host.channel caller
    (fun job channel => job.Rests channel host.wire.stall caller) turn next.channel
  stall : next.wire.stall = host.wire.stall
  tasks : next.tasks = host.tasks
  ready : next.ready = host.ready
  keeps : ∀ later, turn.next? = some later →
    later.isWriter = job.isWriter ∧ later.isReader = job.isReader

/-- A section in which a task keeps its state and its result in another form than its job does. -/
theorem section_of_mindful {State Result : Type} {host next : Host} {caller : Caller} {job : Job}
    {Rests : State → Channel → Prop} {turn : Turn State Result}
    (hmindful : Mindful host.channel caller Rests turn next.channel) (state : State → Job)
    (result : Result → Outcome)
    (hrests : ∀ value channel, Rests value channel →
      (state value).Rests channel host.wire.stall caller)
    (hkind : ∀ value, (state value).isWriter = job.isWriter ∧
      (state value).isReader = job.isReader)
    (hstall : next.wire.stall = host.wire.stall) (htasks : next.tasks = host.tasks)
    (hready : next.ready = host.ready) :
    host.Section caller job (turn.map state result) next where
  mindful := hmindful.map state result hrests
  stall := hstall
  tasks := htasks
  ready := hready
  keeps := fun later hnext => by
    rw [Turn.next?_map] at hnext
    obtain ⟨value, -, rfl⟩ := Option.map_eq_some_iff.mp hnext
    exact hkind value

theorem section_stepJob (host : Host) (eager : Bool) (caller : Caller) (job : Job) :
    host.Section caller job (host.stepJob eager caller job).1
      (host.stepJob eager caller job).2 := by
  cases job with
  | call request stage =>
      have hmindful := Call.mindful_step host.channel host.clock caller request host.present
        host.wire.stall stage
      exact section_of_mindful hmindful _ _ (fun _ _ => id) (fun _ => ⟨rfl, rfl⟩) rfl rfl rfl
  | reply frame =>
      refine ⟨mindful_stepReply _ _ _ _, rfl, rfl, rfl, fun later hnext => ?_⟩
      simp only [stepJob, stepReply] at hnext
      split at hnext <;> cases hnext
      exact ⟨rfl, rfl⟩
  | awaitClose =>
      have halerts : host.channel.Alerts caller host.channel := .refl _ _
      rw [stepJob]
      split
      · exact ⟨.ends halerts, rfl, rfl, rfl, by simp [Turn.next?]⟩
      · rename_i hopen
        refine ⟨.waits halerts (Bool.eq_false_iff.mpr hopen), rfl, rfl, rfl, fun later hnext => ?_⟩
        cases hnext
        exact ⟨rfl, rfl⟩
  | readStream buffer =>
      obtain ⟨hmindful, hstall⟩ := StreamReader.mindful_step host.channel caller host.wire
        host.reception.answer eager buffer
      exact section_of_mindful hmindful _ _ (fun _ _ => id) (fun _ => ⟨rfl, rfl⟩) hstall rfl rfl
  | writeStream writer =>
      obtain ⟨hmindful, hstall⟩ := writer.mindful_step host.channel caller host.wire
      exact section_of_mindful hmindful _ _ (fun _ _ => id) (fun _ => ⟨rfl, rfl⟩) hstall rfl rfl
  | readDatagrams =>
      obtain ⟨hmindful, hstall⟩ := DatagramReader.mindful_step host.channel caller host.wire
        host.reception.answer eager
      exact section_of_mindful hmindful _ _ (fun _ _ => id) (fun _ => ⟨rfl, rfl⟩) hstall rfl rfl
  | writeDatagrams writer =>
      obtain ⟨hmindful, hstall⟩ := writer.mindful_step host.channel caller host.wire
      exact section_of_mindful hmindful _ _ (fun _ _ => id) (fun _ => ⟨rfl, rfl⟩) hstall rfl rfl
  | forward client state =>
      rw [stepJob]
      split
      · exact ⟨.ends (.refl _ _), rfl, rfl, rfl, by simp [Turn.next?]⟩
      · rename_i connection _
        have hmindful := state.heedful_step host.channel caller connection eager
        exact section_of_mindful hmindful _ _ (fun _ _ => id) (fun _ => ⟨rfl, rfl⟩) rfl rfl rfl

end Host

end SessionMux
