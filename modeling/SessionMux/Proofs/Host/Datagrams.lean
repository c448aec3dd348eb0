import SessionMux.Proofs.Host.Events
import SessionMux.Proofs.Host.Failure
import SessionMux.Proofs.Host.LastWord
import SessionMux.Proofs.Host.Outgoing
import SessionMux.Proofs.Host.Unread

/-!
# Datagrams that cannot be decoded

A datagram that cannot be decoded leaves a report and nothing else. To say so for whole runs, a run
over datagrams is set beside the one in which the same happens but such datagrams never arrive
(`Host.spared`). The two hosts differ in what was published, in what is still to be read, and in who
is about to take a turn, and nothing that either of them does depends on that.
-/

namespace SessionMux

open Channel

/-! ### What is left of the arrivals -/

def Arrival.counts (max : Nat) : Arrival → Bool
  | piece datagram => (Frame.decodeDatagram (datagram.take maxDatagram) max).toOption.isSome
  | failure _ => true
  | eof => false

namespace Connection

/-- The connection without the datagrams that cannot be decoded. -/
def sift (max : Nat) (connection : Connection) : Connection :=
  connection.holding (connection.arrivals.filter (·.counts max))

variable {max : Nat} {connection rest : Connection} {datagram : Bytes}

theorem filter_counts (max : Nat) (arrivals : List Arrival) :
    (arrivals.filter (· ≠ .eof)).filter (·.counts max) = arrivals.filter (·.counts max) := by
  rw [List.filter_filter]
  apply List.filter_congr
  intro arrival _
  cases arrival with
  | eof => rfl
  | piece datagram => rw [decide_eq_true nofun, Bool.and_true]
  | failure fault => rfl

theorem receive_sift (hdecodes : ∀ datagram rest, connection.receive = (.bytes datagram, rest) →
      (Frame.decodeDatagram (datagram.take maxDatagram) max).toOption.isSome = true) :
    (connection.sift max).receive = connection.receive.map id (sift max) := by
  have hfilter : (connection.arrivals.filter (·.counts max)).filter (· ≠ .eof) =
      (connection.arrivals.filter (· ≠ .eof)).filter (·.counts max) := by
    rw [List.filter_filter, List.filter_filter]
    apply List.filter_congr
    intro arrival _
    exact Bool.and_comm _ _
  unfold receive at hdecodes ⊢
  rw [sift, holding, hfilter]
  cases hlive : connection.arrivals.filter (· ≠ .eof) with
  | nil => rfl
  | cons arrival arrivals =>
      rw [hlive] at hdecodes
      cases arrival with
      | piece datagram =>
          have hcounts : (Arrival.piece datagram).counts max = true := hdecodes datagram _ rfl
          rw [List.filter_cons_of_pos hcounts]
          rfl
      | failure fault => rfl
      | eof =>
          have hmem : Arrival.eof ∈ connection.arrivals.filter (· ≠ .eof) := by
            rw [hlive]
            exact List.mem_cons_self
          exact absurd rfl (of_decide_eq_true (List.mem_filter.mp hmem).2)

/-- A datagram that cannot be decoded leaves nothing behind. -/
theorem sift_of_receive {failure : WireError}
    (hreceive : connection.receive = (.bytes datagram, rest))
    (hfails : Frame.decodeDatagram (datagram.take maxDatagram) max = .error failure) :
    rest.sift max = connection.sift max := by
  have hfilter := filter_counts max connection.arrivals
  unfold receive at hreceive
  split at hreceive
  · rename_i arrivals hlive
    cases hreceive
    have hcounts : ¬ (Arrival.piece datagram).counts max = true := by
      rw [Arrival.counts, hfails]
      exact Bool.false_ne_true
    rw [hlive, List.filter_cons_of_neg hcounts] at hfilter
    rw [sift, sift, ← hfilter]
    rfl
  · cases hreceive
  · cases hreceive

end Connection

namespace DatagramReader

/-- The datagram that the reader drops when it takes a turn, as far as it was received, and what is
wrong with it. -/
def drops? (eager : Bool) (channel : Channel) (connection : Connection) :
    Option (Bytes × WireError) :=
  if channel.closed && !eager then none
  else
    match connection.receive with
    | (.bytes datagram, _) =>
      match Frame.decodeDatagram (datagram.take maxDatagram) channel.config.maxPayload with
      | .error failure => some (datagram.take maxDatagram, failure)
      | .ok _ => none
    | _ => none

variable {eager : Bool} {channel : Channel} {connection : Connection}

theorem receive_behind (past : List Change) (admission : UInt16 → Admission) (channel : Channel)
    (datagram : Bytes) :
    receive admission (channel.behind past) datagram =
      (receive admission channel datagram).behind past := by
  have hmax : (channel.behind past).config.maxPayload = channel.config.maxPayload := rfl
  rw [receive, receive, hmax]
  cases Frame.decodeDatagram (datagram.take maxDatagram) channel.config.maxPayload with
  | ok frame => exact Channel.receive_behind past channel frame _
  | error failure => exact report_behind past channel _ _ _

theorem step_behind (past : List Change) (admission : UInt16 → Admission) (eager : Bool)
    (channel : Channel) (connection : Connection) :
    step admission eager (channel.behind past) connection =
      (step admission eager channel connection).map id (Prod.map (behind past) id) := by
  rw [step, step, apply_ite (Prod.map id (Prod.map (behind past) id))]
  apply if_congr Iff.rfl rfl
  rcases connection.receive with ⟨_ | datagram | _ | fault, rest⟩
  · rw [apply_ite (Prod.map id (Prod.map (behind past) id))]
    rfl
  · exact congrArg (fun after => (Turn.goes (), after, rest))
      (receive_behind past admission channel datagram)
  · rw [apply_ite (Prod.map id (Prod.map (behind past) id))]
    rfl
  · exact congrArg (fun after => (Turn.ends (), after, rest)) (fail_behind past channel _ _)

/-- Whether the others ever arrived does not matter to a reader that drops nothing. -/
theorem step_sift (admission : UInt16 → Admission)
    (hdrops : drops? eager channel connection = none) :
    step admission eager channel (connection.sift channel.config.maxPayload) =
      (step admission eager channel connection).map id
        (Prod.map id (Connection.sift channel.config.maxPayload)) := by
  unfold drops? at hdrops
  unfold step
  cases hends : channel.closed && !eager with
  | true => rfl
  | false =>
      rw [hends, if_neg Bool.false_ne_true] at hdrops
      rw [if_neg Bool.false_ne_true, if_neg Bool.false_ne_true, Connection.receive_sift]
      · rcases connection.receive with ⟨_ | datagram | _ | fault, rest⟩
        · cases channel.closed <;> rfl
        · rfl
        · cases channel.closed <;> rfl
        · rfl
      · intro datagram rest hreceive
        rw [hreceive] at hdrops
        cases hdecode : Frame.decodeDatagram (datagram.take maxDatagram)
            channel.config.maxPayload with
        | ok frame => rfl
        | error failure =>
            simp only [hdecode] at hdrops
            cases hdrops

theorem drops?_eq_some {dropped : Bytes × WireError}
    (hdrops : drops? eager channel connection = some dropped) :
    ∃ datagram rest, (channel.closed && !eager) = false ∧
      connection.receive = (.bytes datagram, rest) ∧ dropped.1 = datagram.take maxDatagram ∧
      Frame.decodeDatagram dropped.1 channel.config.maxPayload = .error dropped.2 := by
  unfold drops? at hdrops
  split at hdrops
  · cases hdrops
  · rename_i hgoesOn
    split at hdrops
    · rename_i datagram rest hreceive
      split at hdrops
      · rename_i failure hdecode
        cases hdrops
        exact ⟨datagram, rest, Bool.eq_false_of_not_eq_true hgoesOn, hreceive, rfl, hdecode⟩
      · cases hdrops
    · cases hdrops

theorem step_of_drops? (admission : UInt16 → Admission) {received : Bytes} {failure : WireError}
    (hdrops : drops? eager channel connection = some (received, failure)) :
    ∃ rest, step admission eager channel connection =
        (.goes (), channel.publish (.channelError (notice received failure)), rest) ∧
      rest.sift channel.config.maxPayload = connection.sift channel.config.maxPayload := by
  obtain ⟨datagram, rest, hgoesOn, hreceive, rfl, hdecode⟩ := drops?_eq_some hdrops
  refine ⟨rest, ?_, Connection.sift_of_receive hreceive hdecode⟩
  rw [step, hgoesOn, if_neg Bool.false_ne_true, hreceive]
  dsimp only
  rw [receive, hdecode]
  rfl

end DatagramReader

theorem Channel.closed_receive (channel : Channel) (frame : Frame) (admission : Admission) :
    (channel.receive frame admission).closed = channel.closed := by
  have hreceives : (channel.ledger []).Receives frame admission
      ((channel.receive frame admission).ledger []) := receives_receive frame admission
  exact hreceives.closed

namespace Host

/-! ### The run without them -/

def drops? (host : Host) : Step → Option (Bytes × WireError)
  | .turn eager caller =>
    match host.tasks[caller]? with
    | some (.working .readDatagrams false) =>
      DatagramReader.drops? eager host.channel host.wire
    | _ => none
  | _ => none

/-- A step as it happens to a host that is spared the datagrams that cannot be decoded. The host
that is not spared them has the connection `wire`. -/
def Step.sift (max : Nat) (wire : Connection) : Step → Step
  | .line .wire change => .line .wire fun _ => (change wire).sift max
  | step => step

/-- What happens instead of a step, if datagrams that cannot be decoded never arrive. -/
def spare (host : Host) (step : Step) : List Step :=
  if (host.drops? step).isSome then [] else [step.sift host.channel.config.maxPayload host.wire]

/-- The steps of a run in which the same happens, but datagrams that cannot be decoded never
arrive. -/
def spared (host : Host) : List Step → List Step
  | [] => []
  | step :: steps => host.spare step ++ (host.step step).spared steps

/-- What a step comes to: the datagram that is dropped, if there is one, and what is published. -/
structure Episode where
  dropped : Option (Bytes × WireError)
  published : List Change

def Episode.kept (episode : Episode) : List Change :=
  if episode.dropped.isSome then [] else episode.published

def episode (host : Host) (step : Step) : Episode where
  dropped := host.drops? step
  published := (host.step step).changesSince host

def episodes (host : Host) : List Step → List Episode
  | [] => []
  | step :: steps => host.episode step :: (host.step step).episodes steps

variable {host other : Host} {max : Nat} {past past' changes : List Change} {ready : List Caller}

/-- A host that is like another one but for what was published, what can be decoded of what has
arrived, and who is about to take a turn. -/
def Matches (max : Nat) (host : Host) (changes : List Change) (other : Host) : Prop :=
  ∃ ready, other =
    { host with
      channel := { host.channel with changes }
      wire := host.wire.sift max
      ready }

/-- Two hosts that are both like a third one, which they may have come to by doing the same. -/
def Twins (max : Nat) (past past' : List Change) (host other : Host) : Prop :=
  ∃ (base : Host) (arrivals : List Arrival) (ready ready' : List Caller),
    host = base.beside past arrivals ready ∧
      other = base.beside past' (arrivals.filter (·.counts max)) ready'

theorem Twins.published (h : Twins max past past' host other) :
    ∃ published, host.channel.changes = past ++ published ∧
      host.Matches max (past' ++ published) other := by
  obtain ⟨base, arrivals, ready, ready', rfl, rfl⟩ := h
  exact ⟨base.channel.changes, rfl, ready', rfl⟩

def unpublished (host : Host) : Host :=
  { host with channel := { host.channel with changes := [] } }

theorem eq_beside (host : Host) :
    host = host.unpublished.beside host.channel.changes host.wire.arrivals host.ready := by
  rw [beside, behind, Connection.holding, unpublished]
  dsimp only
  rw [List.append_nil]

theorem Matches.eq_beside (h : host.Matches max changes other) : ∃ ready, other =
      host.unpublished.beside changes (host.wire.arrivals.filter (·.counts max)) ready := by
  obtain ⟨ready, rfl⟩ := h
  refine ⟨ready, ?_⟩
  rw [beside, behind, Connection.sift, unpublished]
  dsimp only
  rw [List.append_nil]

/-! ### A step in which nothing is dropped -/

theorem Matches.twins (h : host.Matches max changes other)
    {step : Step} (hline : ∀ change, step ≠ .line .wire change)
    (hreader : ∀ eager caller job, step = .turn eager caller →
      host.tasks[caller]? = some (.working job false) → job.isReader = false) :
    Twins max host.channel.changes changes (host.step step) (other.step step) := by
  obtain ⟨ready, hother⟩ := h.eq_beside
  obtain ⟨woken, hstep⟩ := step_beside host.channel.changes host.wire.arrivals host.ready
    host.unpublished hline hreader
  obtain ⟨woken', hstep'⟩ := step_beside changes (host.wire.arrivals.filter (·.counts max)) ready
    host.unpublished hline hreader
  rw [← host.eq_beside] at hstep
  rw [← hother] at hstep'
  exact ⟨_, _, woken, woken', hstep, hstep'⟩

theorem Matches.twins_line (h : host.Matches max changes other)
    (change : Connection → Connection) :
    Twins max host.channel.changes changes (host.step (.line .wire change))
      (other.step (.line .wire fun _ => (change host.wire).sift max)) := by
  obtain ⟨ready, hother⟩ := h.eq_beside
  -- Only once its connection has changed is the host compared with the other one.
  let changed : Host := { host with wire := change host.wire }
  let uses (_ : Caller) (job : Job) : Bool := Line.wire.isUsedBy job
  have hchanged : host.step (.line .wire change) = (changed.unpublished.beside
      changed.channel.changes changed.wire.arrivals changed.ready).wakeWhere uses := by
    rw [← changed.eq_beside]
    rfl
  have hsifted : other.step (.line .wire fun _ => (change host.wire).sift max) =
      (changed.unpublished.beside changes
        (changed.wire.arrivals.filter (·.counts max)) ready).wakeWhere uses := by
    rw [hother]
    rfl
  obtain ⟨woken, hwoken⟩ := wakeWhere_beside changed.channel.changes changed.wire.arrivals
    changed.ready changed.unpublished uses
  obtain ⟨woken', hwoken'⟩ := wakeWhere_beside changes
    (changed.wire.arrivals.filter (·.counts max)) ready changed.unpublished uses
  exact ⟨_, _, woken, woken', hchanged.trans hwoken, hsifted.trans hwoken'⟩

theorem stepJob_of_read (host : Host) {eager : Bool} {turn : Turn Unit Unit} {channel : Channel}
    {wire : Connection} (caller : Caller)
    (hread : DatagramReader.step host.reception.answer eager host.channel host.wire =
      (turn, channel, wire)) :
    host.stepJob eager caller .readDatagrams =
      (turn.map (fun () => .readDatagrams) fun () => .done, { host with channel, wire }) := by
  rw [stepJob, hread]

theorem takeTurn_beside_of_read {eager : Bool} {caller : Caller}
    {arrivals arrivals' : List Arrival} (hother : other = host.beside past arrivals ready)
    (htask : host.tasks[caller]? = some (.working .readDatagrams false))
    (hread : DatagramReader.step other.reception.answer eager other.channel other.wire =
      (DatagramReader.step host.reception.answer eager host.channel host.wire).map id
        (Prod.map (behind past) (Connection.holding arrivals'))) :
    ∃ woken, other.takeTurn eager caller =
      (host.takeTurn eager caller).beside past arrivals' woken := by
  subst hother
  have hwork : ((host.beside past arrivals ready).dequeue caller).stepJob eager caller
        .readDatagrams =
      ((host.dequeue caller).stepJob eager caller .readDatagrams).map id
        (beside past arrivals' (ready.filter (· ≠ caller))) := by
    rcases hown : DatagramReader.step host.reception.answer eager host.channel host.wire with
      ⟨turn, channel, wire⟩
    rw [hown] at hread
    rw [stepJob_of_read ((host.beside past arrivals ready).dequeue caller) caller hread,
      stepJob_of_read (host.dequeue caller) caller hown]
    rfl
  have htask' : ((host.beside past arrivals ready).dequeue caller).tasks[caller]? =
      some (.working .readDatagrams false) := htask
  have hbefore : (host.dequeue caller).tasks[caller]? =
      some (.working .readDatagrams false) := htask
  obtain ⟨middle, hturn⟩ := turn_beside_of_stepJob past arrivals' _ hbefore htask' hwork
  exact takeTurn_beside_of_turn past arrivals' middle hturn

theorem Matches.twins_turn (h : host.Matches host.channel.config.maxPayload changes other)
    {eager : Bool} {caller : Caller}
    (htask : host.tasks[caller]? = some (.working .readDatagrams false))
    (hdrops : DatagramReader.drops? eager host.channel host.wire = none) :
    Twins host.channel.config.maxPayload host.channel.changes changes
      (host.takeTurn eager caller) (other.takeTurn eager caller) := by
  obtain ⟨ready, hother⟩ := h.eq_beside
  -- What the readers of both hosts do is read off a host that has published nothing.
  let read := DatagramReader.step host.reception.answer eager host.unpublished.channel host.wire
  have hread : DatagramReader.step host.reception.answer eager host.channel host.wire =
      read.map id (Prod.map (behind host.channel.changes)
        (Connection.holding read.2.2.arrivals)) := by
    have hpast := DatagramReader.step_behind host.channel.changes host.reception.answer eager
      host.unpublished.channel host.wire
    have hsame : host.unpublished.channel.behind host.channel.changes = host.channel :=
      congrArg channel host.eq_beside.symm
    rw [hsame] at hpast
    exact hpast
  have hread' : DatagramReader.step other.reception.answer eager other.channel other.wire =
      read.map id (Prod.map (behind changes) (Connection.holding
        (read.2.2.arrivals.filter (·.counts host.channel.config.maxPayload)))) := by
    have hunseen : DatagramReader.drops? eager host.unpublished.channel host.wire = none := hdrops
    have hpast := DatagramReader.step_behind changes host.reception.answer eager
      host.unpublished.channel (host.wire.sift host.channel.config.maxPayload)
    have hsift := DatagramReader.step_sift host.reception.answer hunseen
    rw [hother]
    exact hpast.trans (congrArg (Prod.map id (Prod.map (behind changes) id)) hsift)
  obtain ⟨woken, htaken⟩ := takeTurn_beside_of_read host.eq_beside htask hread
  obtain ⟨woken', htaken'⟩ := takeTurn_beside_of_read hother htask hread'
  exact ⟨_, _, woken, woken', htaken, htaken'⟩

/-! ### A step in which a datagram is dropped -/

theorem drops?_eq_some {step : Step} {dropped : Bytes × WireError}
    (hdrops : host.drops? step = some dropped) :
    ∃ eager caller, step = .turn eager caller ∧
      host.tasks[caller]? = some (.working .readDatagrams false) ∧
      DatagramReader.drops? eager host.channel host.wire = some dropped := by
  cases step with
  | turn eager caller =>
      unfold drops? at hdrops
      dsimp only at hdrops
      split at hdrops
      · rename_i htask
        exact ⟨eager, caller, rfl, htask, hdrops⟩
      · cases hdrops
  | call | forward | awaitClose | abort | line | advance | silence | stopAccepting | letGo | close
  | fail => cases hdrops

/-- A turn in which the reader drops a datagram does nothing but report it. -/
theorem step_of_drops? {step : Step} {received : Bytes} {failure : WireError}
    (hquiet : host.channel.signals = []) (hdrops : host.drops? step = some (received, failure)) :
    ∃ wire ready, host.step step =
        { host with
          channel := host.channel.publish (.channelError (DatagramReader.notice received failure))
          wire
          ready } ∧
      wire.sift host.channel.config.maxPayload = host.wire.sift host.channel.config.maxPayload := by
  obtain ⟨eager, caller, rfl, htask, hread⟩ := drops?_eq_some hdrops
  obtain ⟨rest, hstep, hsift⟩ := DatagramReader.step_of_drops? host.reception.answer hread
  let reported := host.channel.publish (.channelError (DatagramReader.notice received failure))
  let after : Host := { host.dequeue caller with channel := reported, wire := rest }
  have hwork : (host.dequeue caller).stepJob eager caller .readDatagrams =
      (.goes .readDatagrams, after) :=
    stepJob_of_read (host.dequeue caller) caller hstep
  -- The reader goes on as before, and the report leaves no signal to be heeded.
  have htasks : after.tasks.set caller (.working .readDatagrams false) = after.tasks := by
    obtain ⟨hcaller, hself⟩ := List.getElem?_eq_some_iff.mp htask
    rw [← hself]
    exact List.set_getElem_self hcaller
  have hsettled : after.settleChannel reported = after := by
    have hsignals : reported.signals = [] := hquiet
    rw [settleChannel, hsignals, List.foldl_nil, ← hsignals]
  have hbefore : (host.dequeue caller).tasks[caller]? = some (.working .readDatagrams false) :=
    htask
  have hturn : (host.dequeue caller).turn eager caller = (after, true) := by
    rw [turn_eq_conclude eager hbefore, hwork]
    dsimp only
    rw [conclude, htasks]
    exact congrArg (·, true) hsettled
  obtain ⟨woken, hwake⟩ := after.wake_eq caller
  refine ⟨rest, woken, ?_, hsift⟩
  rw [Host.step, takeTurn, hturn]
  exact hwake

/-! ### Runs -/

structure Serves (max : Nat) (host : Host) : Prop where
  crew : host.Crew .writeDatagrams .readDatagrams
  fitting : host.Fitting max
  quiet : host.channel.signals = []

theorem serves_overDatagrams (config : ChannelConfig) (reception : Reception) :
    (overDatagrams config reception).Serves config.overDatagrams.maxPayload where
  crew := crew_overDatagrams config reception
  fitting := ((fitting_create config.overDatagrams queueDepth reception).spawn
    (Job.fits_of_inHand? rfl)).spawn (Job.fits_of_inHand? rfl)
  quiet := rfl

theorem Serves.step (h : host.Serves max) (step : Step) : (host.step step).Serves max where
  crew := h.crew.stepped (host.stepped_step step)
  fitting := h.fitting.step step
  quiet := signals_step h.quiet step

theorem Serves.run (h : host.Serves max) (steps : List Step) :
    (steps.foldl Host.step host).Serves max := by
  induction steps generalizing host with
  | nil => exact h
  | cons step steps ih => exact ih (h.step step)

theorem Matches.twins_step (h : host.Matches max changes other) (hserves : host.Serves max)
    {step : Step} (hdrops : host.drops? step = none) :
    Twins max host.channel.changes changes (host.step step)
      (other.step (step.sift max host.wire)) := by
  have hlimit : host.channel.config.maxPayload = max := hserves.fitting.channel.limit_eq
  by_cases hline : ∃ change, step = .line .wire change
  · obtain ⟨change, rfl⟩ := hline
    exact h.twins_line change
  push Not at hline
  have hsame : step.sift max host.wire = step := by
    unfold Step.sift
    split
    · exact absurd rfl (hline _)
    · rfl
  rw [hsame]
  by_cases hread : ∃ eager caller, step = .turn eager caller ∧
      host.tasks[caller]? = some (.working .readDatagrams false)
  · obtain ⟨eager, caller, rfl, htask⟩ := hread
    have hreads : DatagramReader.drops? eager host.channel host.wire = none := by
      rw [drops?, htask] at hdrops
      exact hdrops
    subst hlimit
    exact h.twins_turn htask hreads
  · apply h.twins hline
    intro eager caller job hstep htask
    by_contra hreader
    obtain ⟨-, hcharge⟩ :=
      hserves.crew.reads caller job false htask (Bool.eq_true_of_not_eq_false hreader)
    cases job with
    | readDatagrams => exact hread ⟨eager, caller, hstep, htask⟩
    | call | reply | awaitClose | readStream | writeStream | writeDatagrams | forward =>
        cases hcharge

theorem episode_of_published {step : Step} {published : List Change}
    (hpublished : (host.step step).channel.changes = host.channel.changes ++ published) :
    host.episode step = ⟨host.drops? step, published⟩ := by
  rw [episode, changesSince, hpublished, List.drop_left]

def Episode.IsNotice (max : Nat) (episode : Episode) : Prop :=
  ∀ datagram failure, episode.dropped = some (datagram, failure) →
    Frame.decodeDatagram datagram max = .error failure ∧
      episode.published = [.channelError (DatagramReader.notice datagram failure)]

/-- **A step.** Both hosts publish the same in it, or one reports a datagram and the other one does
nothing. -/
theorem Matches.step (h : host.Matches max changes other) (hserves : host.Serves max)
    (step : Step) :
    (host.step step).channel.changes = host.channel.changes ++ (host.episode step).published ∧
      (host.step step).Matches max (changes ++ (host.episode step).kept)
        ((host.spare step).foldl Host.step other) ∧
      (host.episode step).IsNotice max := by
  have hlimit : host.channel.config.maxPayload = max := hserves.fitting.channel.limit_eq
  cases hdrops : host.drops? step with
  | none =>
      have hspare : host.spare step = [step.sift max host.wire] := by
        rw [spare, hdrops, hlimit]
        rfl
      obtain ⟨published, hpublished, hmatches⟩ := (h.twins_step hserves hdrops).published
      rw [episode_of_published hpublished, hdrops, hspare]
      exact ⟨hpublished, hmatches, nofun⟩
  | some dropped =>
      obtain ⟨eager, caller, -, -, hread⟩ := drops?_eq_some hdrops
      obtain ⟨-, -, -, -, -, hdecode⟩ := DatagramReader.drops?_eq_some hread
      obtain ⟨wire, woken, hstep, hsift⟩ := step_of_drops? hserves.quiet hdrops
      have hpublished : (host.step step).channel.changes = host.channel.changes ++
          [.channelError (DatagramReader.notice dropped.1 dropped.2)] := by
        rw [hstep]
        rfl
      have hspare : host.spare step = [] := by
        rw [spare, hdrops]
        rfl
      have hkept : (host.episode step).kept = [] := by
        rw [Episode.kept, episode, hdrops]
        rfl
      rw [hkept, List.append_nil, episode_of_published hpublished, hdrops, hspare]
      refine ⟨hpublished, ?_, ?_⟩
      · obtain ⟨ready, rfl⟩ := h
        refine ⟨ready, ?_⟩
        rw [hlimit] at hsift
        rw [hstep, hsift]
        rfl
      · rintro datagram failure ⟨⟩
        exact ⟨hlimit ▸ hdecode, rfl⟩

theorem Matches.run (h : host.Matches max changes other) (hserves : host.Serves max)
    (steps : List Step) :
    (steps.foldl Host.step host).channel.changes =
        host.channel.changes ++ (host.episodes steps).flatMap Episode.published ∧
      (steps.foldl Host.step host).Matches max
        (changes ++ (host.episodes steps).flatMap Episode.kept)
        ((host.spared steps).foldl Host.step other) ∧
      ∀ episode ∈ host.episodes steps, episode.IsNotice max := by
  induction steps generalizing host other changes with
  | nil =>
      rw [episodes, List.flatMap_nil, List.flatMap_nil, List.append_nil, List.append_nil]
      exact ⟨rfl, h, List.forall_mem_nil _⟩
  | cons step steps ih =>
      obtain ⟨hpublished, hmatches, hnotice⟩ := h.step hserves step
      obtain ⟨hchanges, hrest, hnotices⟩ := ih hmatches (hserves.step step)
      rw [episodes, spared, List.flatMap_cons, List.flatMap_cons, List.foldl_append,
        ← List.append_assoc, ← List.append_assoc, ← hpublished]
      exact ⟨hchanges, hrest, List.forall_mem_cons.mpr ⟨hnotice, hnotices⟩⟩

/-! ### The turn of a reader -/

variable {caller : Caller} {datagram : Bytes} {rest : Connection}

theorem step_of_datagram (eager : Bool) (hopen : host.channel.closed = false)
    (htask : host.tasks[caller]? = some (.working .readDatagrams false))
    (hreceive : host.wire.receive = (.bytes datagram, rest)) :
    (host.step (.turn eager caller)).wire = rest ∧
      (host.step (.turn eager caller)).channel =
        { DatagramReader.receive host.reception.answer host.channel datagram with
          signals := [] } := by
  have hread : DatagramReader.step host.reception.answer eager host.channel host.wire =
      (.goes (), DatagramReader.receive host.reception.answer host.channel datagram, rest) := by
    rw [DatagramReader.step, hopen, Bool.false_and, if_neg Bool.false_ne_true, hreceive]
  have hwork : host.workOf eager caller .readDatagrams false =
      (.goes .readDatagrams,
        { host with
          channel := DatagramReader.receive host.reception.answer host.channel datagram
          wire := rest }) := host.stepJob_of_read caller hread
  have htook := (took_takeTurn eager htask).1
  rw [hwork] at htook
  exact ⟨htook.wire, htook.channel⟩

theorem drops?_of_datagram (eager : Bool) (hopen : host.channel.closed = false)
    (htask : host.tasks[caller]? = some (.working .readDatagrams false))
    (hreceive : host.wire.receive = (.bytes datagram, rest)) :
    host.drops? (.turn eager caller) =
      match Frame.decodeDatagram (datagram.take maxDatagram) host.channel.config.maxPayload with
      | .ok _ => none
      | .error failure => some (datagram.take maxDatagram, failure) := by
  rw [drops?, htask]
  dsimp only
  rw [DatagramReader.drops?, hopen, Bool.false_and, if_neg Bool.false_ne_true, hreceive]
  dsimp only
  cases Frame.decodeDatagram (datagram.take maxDatagram) host.channel.config.maxPayload <;> rfl

/-- **Bad datagrams are isolated.** Whatever datagrams arrive over whatever connection, and whatever
else happens meanwhile, the host comes to where it comes if the same happens and the datagrams that
cannot be decoded never arrive, but for the reports of these. In a step in which such a datagram is
dropped nothing is published but one warning, with the code of the protocol, and all other steps
publish the same. A reader of an open channel takes one datagram at a time, and does with it what
its bytes alone say: it passes the frame to the channel or it drops the datagram. Either way the
channel stays open. -/
theorem datagrams_isolated (config : ChannelConfig) (reception : Reception) (steps : List Step) :
    let begun := overDatagrams config reception
    let max := config.overDatagrams.maxPayload
    let host := steps.foldl step begun
    let episodes := begun.episodes steps
    host.channel.changes = begun.channel.changes ++ episodes.flatMap Episode.published ∧
      (∃ ready, (begun.spared steps).foldl step begun =
        { host with
          channel := { host.channel with
            changes := begun.channel.changes ++ episodes.flatMap Episode.kept }
          wire := host.wire.sift max
          ready }) ∧
      (∀ episode ∈ episodes, ∀ datagram failure, episode.dropped = some (datagram, failure) →
        Frame.decodeDatagram datagram max = .error failure ∧
          ∃ report, episode.published = [.channelError report] ∧ report.level = .warning ∧
            report.code.toNumber = 71) ∧
      ∀ eager caller datagram rest, host.channel.closed = false →
        host.tasks[caller]? = some (.working .readDatagrams false) →
        host.wire.receive = (.bytes datagram, rest) →
        let next := host.step (.turn eager caller)
        next.wire = rest ∧ next.channel.closed = false ∧
          match Frame.decodeDatagram (datagram.take maxDatagram) max with
          | .ok frame =>
            host.drops? (.turn eager caller) = none ∧
              next.channel = { host.channel.receive frame (host.reception.answer frame.port) with
                signals := [] }
          | .error failure =>
            host.drops? (.turn eager caller) = some (datagram.take maxDatagram, failure) ∧
              next.channel = { host.channel.publish (.channelError
                (DatagramReader.notice (datagram.take maxDatagram) failure)) with
                signals := [] } := by
  intro begun max host episodes
  have hbegun : begun.Serves max := serves_overDatagrams config reception
  have hserves : host.Serves max := hbegun.run steps
  have hlimit : host.channel.config.maxPayload = max := hserves.fitting.channel.limit_eq
  have hmatches : begun.Matches max begun.channel.changes begun := ⟨begun.ready, rfl⟩
  obtain ⟨hchanges, hspared, hnotices⟩ := hmatches.run hbegun steps
  refine ⟨hchanges, hspared, ?_, ?_⟩
  · intro episode hmem datagram failure hdropped
    obtain ⟨hdecode, hpublished⟩ := hnotices episode hmem datagram failure hdropped
    exact ⟨hdecode, _, hpublished, rfl, rfl⟩
  · intro eager caller datagram rest hopen htask hreceive next
    obtain ⟨hwire, hchannel⟩ := step_of_datagram eager hopen htask hreceive
    have hdrops := drops?_of_datagram eager hopen htask hreceive
    rw [DatagramReader.receive, hlimit] at hchannel
    rw [hlimit] at hdrops
    refine ⟨hwire, ?_, ?_⟩
    · rw [hchannel]
      cases Frame.decodeDatagram (datagram.take maxDatagram) max with
      | ok frame => exact (host.channel.closed_receive frame _).trans hopen
      | error failure => exact hopen
    · cases hdecode : Frame.decodeDatagram (datagram.take maxDatagram) max with
      | ok frame =>
          rw [hdecode] at hchannel hdrops
          exact ⟨hdrops, hchannel⟩
      | error failure =>
          rw [hdecode] at hchannel hdrops
          exact ⟨hdrops, hchannel⟩

def opening : Bytes := [0x21, 0, 0, 7, 0, 0, 0, 2, 0, 0, 0, 2, 0, 1]

def greeted : Host :=
  overDatagrams { (default : ChannelConfig) with maxPayload := 2 }
    { rules := [(7, .ok .queue)], accepting := true }

def mixed : List Step :=
  [.line .wire (·.arrive (.piece [0])), .line .wire (·.arrive (.piece opening)), .turn true 1]

/-- The first datagram is dropped, and the next turn opens the session. -/
theorem datagrams_isolated_of_mixed :
    (greeted.episodes mixed).filterMap Episode.dropped = [([0], .incomplete)] ∧
      ((mixed.foldl step greeted).step (.turn true 1)).channel.closed = false ∧
      ((mixed.foldl step greeted).step (.turn true 1)).channel.sessions.contains 2 = true := by
  have hopen : (mixed.foldl step greeted).channel.closed = false := by decide
  have htask : (mixed.foldl step greeted).tasks[1]? = some (.working .readDatagrams false) := by
    decide
  have hreceive : (mixed.foldl step greeted).wire.receive = (.bytes opening, .fresh) := by decide
  obtain ⟨-, -, -, hturn⟩ := datagrams_isolated { (default : ChannelConfig) with maxPayload := 2 }
    { rules := [(7, .ok .queue)], accepting := true } mixed
  obtain ⟨-, hstays, -, hchannel⟩ := hturn true 1 opening .fresh hopen htask hreceive
  refine ⟨by decide, hstays, ?_⟩
  rw [greeted, hchannel]
  decide

end Host

end SessionMux
