import SessionMux.Proofs.Host.LastWord
import SessionMux.Proofs.Host.Outgoing
import SessionMux.Proofs.Link.Reading

/-!
# What the reader of a stream takes in

Whatever arrives on a byte stream, in whatever pieces, the reader passes to the channel the frames
that decoding the bytes from the front yields, and ends as the stream says. The invariant is about
what has arrived so far and anything that may still arrive behind it: what the whole says is what
was passed, followed by what the buffer and the rest of the connection say (`Host.Intake`). That a
frame was passed means that the channel has received it (`Host.channel_of_reader`).
-/

namespace SessionMux

open Trace

namespace StreamReader

def report : Except WireError Unit → List Change
  | .ok () => []
  | .error failure =>
    [.channelError
      { code := failure.errorCode, level := .critical
        message := s!"read failed: {failure.message}" }]

theorem changes_conclude {channel : Channel} {replies : List Frame} (hopen : channel.closed = false)
    (htruthful : (channel.ledger replies).Truthful) (verdict : Except WireError Unit) :
    (conclude channel verdict).closed = true ∧
      ∃ ids : List UInt32, (conclude channel verdict).changes = channel.changes ++
        (report verdict ++ (ids.map .sessionClose ++ [.channelClose])) := by
  obtain ⟨hrun, -⟩ := htruthful.running hopen
  cases verdict with
  | ok =>
      have hledger : channel.close.ledger replies = _ := Channel.ledger_close hopen
      obtain ⟨hchanges, -, hclosed, -⟩ := Ledger.close_of_running hrun
      exact ⟨(congrArg Ledger.closed hledger).trans hclosed, _,
        (congrArg Ledger.changes hledger).trans hchanges⟩
  | error failure =>
      have hledger : (conclude channel (.error failure)).ledger replies = _ :=
        Channel.ledger_fail hopen _ _
      have hfatal := hrun.report
        { code := failure.errorCode, level := .critical
          message := s!"read failed: {failure.message}" }
      obtain ⟨hchanges, -, hclosed, -⟩ : _ ∧ _ ∧ Ledger.closed (Ledger.close
        ((channel.ledger replies).publish (.channelError _))) = true ∧ _ :=
        Ledger.close_of_running hfatal
      refine ⟨(congrArg Ledger.closed hledger).trans hclosed, channel.sessions.ids, ?_⟩
      exact ((congrArg Ledger.changes hledger).trans hchanges).trans (List.append_assoc _ _ _)

end StreamReader

namespace Host

/-! ### What arrives and what is passed -/

def arrives (host : Host) : Step → List Arrival
  | .line .wire change => (change host.wire).arrivals.drop host.wire.arrivals.length
  | _ => []

def arrived (host : Host) : List Step → List Arrival
  | [] => []
  | step :: steps => host.arrives step ++ (host.step step).arrived steps

def Step.KeepsArrivals : Step → Prop
  | .line .wire change => ∀ connection, connection.arrivals <+: (change connection).arrivals
  | _ => True

def readerAct (host : Host) : Step → StreamReader.Act
  | .turn eager caller =>
    match host.tasks[caller]? with
    | some (.working (.readStream buffer) false) =>
      (StreamReader.read eager host.channel.closed host.channel.config.maxPayload host.wire
        buffer).2.1
    | _ => .leaves
  | _ => .leaves

/-- The frame that the reader of a stream passes to the channel in a step. -/
def passes? (host : Host) (step : Step) : Option Frame := (host.readerAct step).frame?

def passed (host : Host) : List Step → List Frame
  | [] => []
  | step :: steps => (host.passes? step).toList ++ (host.step step).passed steps

variable {host next : Host} {writer : Charge}

theorem passes?_eq_some {step : Step} {frame : Frame} (hpasses : host.passes? step = some frame) :
    ∃ eager caller buffer, step = .turn eager caller ∧
      host.tasks[caller]? = some (.working (.readStream buffer) false) ∧
      host.readerAct step = .passes frame := by
  rw [passes?, StreamReader.Act.frame?_eq_some_iff] at hpasses
  cases step with
  | turn eager caller =>
      have hacts := hpasses
      simp only [readerAct] at hpasses
      split at hpasses
      · rename_i buffer htask
        exact ⟨eager, caller, buffer, rfl, htask, hacts⟩
      · cases hpasses
  | call | forward | awaitClose | abort | line | advance | silence | stopAccepting | letGo | close
  | fail => cases hpasses

theorem readerAct_eq {caller : Caller} {buffer : Bytes} (eager : Bool)
    (htask : host.tasks[caller]? = some (.working (.readStream buffer) false)) :
    host.readerAct (.turn eager caller) =
      (StreamReader.read eager host.channel.closed host.channel.config.maxPayload host.wire
        buffer).2.1 := by
  rw [readerAct, htask]

theorem readerAct_eq_leaves {caller : Caller} {task : HostTask} (eager : Bool)
    (htask : host.tasks[caller]? = some task)
    (hidle : ∀ buffer, task ≠ .working (.readStream buffer) false) :
    host.readerAct (.turn eager caller) = .leaves := by
  rw [readerAct, htask]
  split
  · rename_i buffer heq
    exact absurd (Option.some.inj heq) (hidle buffer)
  · rfl

/-- Only a reader that goes on passes a frame. -/
theorem passes?_of_idle {caller : Caller} {task : HostTask} (eager : Bool)
    (htask : host.tasks[caller]? = some task)
    (hidle : ∀ buffer, task ≠ .working (.readStream buffer) false) :
    host.passes? (.turn eager caller) = none := by
  rw [passes?, readerAct_eq_leaves eager htask hidle, StreamReader.Act.frame?]

/-- What a turn of the reader leaves of the channel. A reader that ends has no place in the outbound
queue to give back. -/
theorem channel_of_reader {caller : Caller} {buffer : Bytes} {aborted : Bool} (eager : Bool)
    (htask : host.tasks[caller]? = some (.working (.readStream buffer) aborted)) :
    let next := (host.step (.turn eager caller)).channel
    match host.readerAct (.turn eager caller) with
    | .passes frame =>
      next = { host.channel.receive frame (host.reception.answer frame.port) with signals := [] }
    | .concludes verdict =>
      next = { (StreamReader.conclude host.channel verdict).giveBack caller with signals := [] }
    | .leaves => next = { host.channel with signals := [] } ∨
      next = { host.channel.giveBack caller with signals := [] } := by
  intro next
  have htook : next = _ := (took_takeTurn eager htask).1.channel
  cases aborted with
  | true =>
      rw [readerAct_eq_leaves eager htask nofun]
      exact .inr htook
  | false =>
      have hturn := StreamReader.turn_read eager host.channel.closed host.channel.config.maxPayload
        host.wire buffer
      rw [readerAct_eq eager htask]
      rcases hread : StreamReader.read eager host.channel.closed host.channel.config.maxPayload
        host.wire buffer with ⟨turn, frame | verdict | _, wire⟩ <;>
        rw [hread] at hturn <;>
        simp only [workOf, stepJob, StreamReader.step, hread, Bool.false_eq_true, if_false] at htook
      · obtain ⟨rest, rfl⟩ := hturn
        exact htook
      · cases hturn
        exact htook
      · cases turn with
        | waits | goes => exact .inl htook
        | ends => exact .inr htook

/-- To pass a frame is to let the channel receive it. -/
theorem channel_of_passes {step : Step} {frame : Frame} (hpasses : host.passes? step = some frame) :
    (host.step step).channel =
      { host.channel.receive frame (host.reception.answer frame.port) with signals := [] } := by
  obtain ⟨eager, caller, buffer, rfl, htask, hacts⟩ := passes?_eq_some hpasses
  have hreader := channel_of_reader eager htask
  rw [hacts] at hreader
  exact hreader

/-- A reader that passes nothing leaves the channel alone or ends it. -/
theorem channel_of_passes_none {caller : Caller} {buffer : Bytes} {aborted : Bool} (eager : Bool)
    (hquiet : host.channel.signals = [])
    (htask : host.tasks[caller]? = some (.working (.readStream buffer) aborted))
    (hpasses : host.passes? (.turn eager caller) = none) :
    (host.step (.turn eager caller)).channel = host.channel ∨
      ∃ ended, (ended = host.channel ∨ ∃ verdict,
          ended = StreamReader.conclude host.channel verdict) ∧
        (host.step (.turn eager caller)).channel =
          { ended.giveBack caller with signals := [] } := by
  have hreader := channel_of_reader eager htask
  rw [passes?] at hpasses
  cases hacts : host.readerAct (.turn eager caller) with
  | passes frame =>
      rw [hacts] at hpasses
      cases hpasses
  | concludes verdict =>
      rw [hacts] at hreader
      exact .inr ⟨_, .inr ⟨verdict, rfl⟩, hreader⟩
  | leaves =>
      rw [hacts] at hreader
      refine hreader.imp (fun hsame => ?_) fun hleft => ⟨_, .inl rfl, hleft⟩
      rw [hsame, ← hquiet]

/-- Nobody but the second task passes frames on. -/
theorem passes?_of_other (hcrew : host.Crew writer .readStream) {step : Step}
    (hstep : ∀ eager, step ≠ .turn eager 1) : host.passes? step = none := by
  cases hpasses : host.passes? step with
  | none => rfl
  | some frame =>
      obtain ⟨eager, caller, buffer, rfl, htask, -⟩ := passes?_eq_some hpasses
      obtain ⟨rfl, -⟩ := hcrew.reads caller _ false htask rfl
      exact absurd rfl (hstep eager)

theorem StreamWriter.arrivals_step (channel : Channel) (connection : Connection)
    (writer : StreamWriter) :
    (writer.step channel connection).2.2.arrivals = connection.arrivals := by
  have hwritten (bytes : Bytes) := connection.arrivals_write bytes
  cases writer with
  | idle =>
      rw [StreamWriter.step]
      split
      · rfl
      · split <;> rfl
  | holding frame =>
      rw [StreamWriter.step]
      split
      · rfl
      · split <;> rfl
  | flushing pending =>
      rw [StreamWriter.step]
      split
      · rfl
      · split
        · split <;> rfl
        · have hpending := hwritten pending
          split <;> rename_i hwrite <;> rw [hwrite] at hpending <;> exact hpending
  | closing pending =>
      rw [StreamWriter.step]
      split
      · rw [Connection.close?]
        cases connection.lingers <;> rfl
      · have hpending := hwritten pending
        split <;> rename_i hwrite <;> rw [hwrite] at hpending <;> exact hpending

theorem DatagramWriter.arrivals_step (channel : Channel) (connection : Connection)
    (writer : DatagramWriter) :
    (writer.step channel connection).2.2.arrivals = connection.arrivals := by
  cases writer with
  | idle =>
      rw [DatagramWriter.step]
      split
      · rfl
      · split <;> rfl
  | holding frame =>
      rw [DatagramWriter.step]
      split <;> rfl
  | sending datagram =>
      have hsent := connection.arrivals_send datagram
      rw [DatagramWriter.step]
      split <;> rename_i hsend <;> rw [hsend] at hsent <;> exact hsent

theorem arrivals_workOf {job : Job} (hjob : job.isReader = false) (host : Host) (eager : Bool)
    (caller : Caller) (aborted : Bool) :
    (host.workOf eager caller job aborted).2.wire.arrivals = host.wire.arrivals := by
  cases aborted with
  | true => rfl
  | false =>
      cases job with
      | readStream | readDatagrams => cases hjob
      | writeStream writer => exact StreamWriter.arrivals_step host.channel host.wire writer
      | writeDatagrams writer => exact DatagramWriter.arrivals_step host.channel host.wire writer
      | forward client forward =>
          simp only [workOf, stepJob, Bool.false_eq_true, if_false]
          split <;> rfl
      | call | reply | awaitClose => rfl

/-- Without the reader, what is to be read can only become more. -/
theorem Stepped.arrivals {reader : Charge} (hcrew : host.Crew writer reader) {step : Step}
    (hstepped : host.Stepped step next) (hkeeps : step.KeepsArrivals)
    (hstep : ∀ eager, step ≠ .turn eager 1) :
    next.wire.arrivals = host.wire.arrivals ++ host.arrives step := by
  cases hstepped with
  | @turns eager caller job aborted _ htask htook hyields hagain =>
      have hjob : job.isReader = false := by
        refine Bool.eq_false_of_not_eq_true fun hreader => ?_
        obtain ⟨rfl, -⟩ := hcrew.reads caller job aborted htask hreader
        exact hstep eager rfl
      rw [htook.wire, arrivals_workOf hjob]
      exact (List.append_nil _).symm
  | idles => exact (List.append_nil _).symm
  | asked hother hasked =>
      rw [hasked.wire]
      cases step with
      | line line change =>
          cases line with
          | wire =>
              obtain ⟨more, hmore⟩ := hkeeps host.wire
              simp only [Step.changeWire, arrives, ← hmore, List.drop_left]
          | client => exact (List.append_nil _).symm
      | call | forward | awaitClose | abort | turn | advance | silence | stopAccepting | letGo
      | close | fail => exact (List.append_nil _).symm

/-! ### The invariant -/

/-- How things stand with the reader of a stream after something has arrived and some frames were
passed. `told` tells whether the reader was told to end. -/
inductive Intake (max : Nat) (told : Prop) (host : Host) (arrived : List Arrival)
    (passed : List Frame) : Prop
  | reads {buffer : Bytes} {aborted : Bool}
      (htask : host.tasks[1]? = some (.working (.readStream buffer) aborted))
      (htold : aborted = true → told)
      (hsaid : ∀ more, Stream.reading max [] (arrived ++ more) =
        { Stream.reading max buffer (host.wire.arrivals ++ more) with
          frames := passed ++ (Stream.reading max buffer (host.wire.arrivals ++ more)).frames })
      (hready : 1 ∈ host.ready ∨
        Frame.decodeNext buffer max = .ok none ∧ host.wire.arrivals = []) :
      Intake max told host arrived passed
  | ends (verdict : Except WireError Unit) {before : List Change}
      (htask : host.tasks[1]? = some (.over .done))
      (hsaid : ∀ more, Stream.reading max [] (arrived ++ more) =
        { frames := passed, ending := some verdict })
      (hclosed : host.channel.closed = true) (hcalm : Calm before)
      (hchanges : ∃ ids : List UInt32, host.channel.changes = before ++
        (StreamReader.report verdict ++ (ids.map .sessionClose ++ [.channelClose]))) :
      Intake max told host arrived passed
  | aborts (htold : told) (htask : host.tasks[1]? = some (.over .aborted))
      (hsaid : ∀ more, passed <+: (Stream.reading max [] (arrived ++ more)).frames) :
      Intake max told host arrived passed

variable {max : Nat} {told : Prop} {arrived : List Arrival} {passed : List Frame}

theorem Stepped.of_closed (hcrew : host.Crew writer .readStream) {step : Step}
    (hstepped : host.Stepped step next) (hclosed : host.channel.closed = true) :
    next.channel.closed = true ∧ next.channel.changes = host.channel.changes := by
  cases hstepped with
  | @turns eager caller job aborted _ htask htook hyields hagain =>
      have hjob : job ≠ .readDatagrams := by
        rintro rfl
        cases (hcrew.reads caller _ aborted htask rfl).2
      obtain ⟨deeds, hruns, hdeeds⟩ := hyields
      exact hruns.of_closed hclosed fun deed hmem => (hdeeds deed hmem).lateChanges hjob
  | idles => exact ⟨hclosed, rfl⟩
  | asked hother hasked =>
      obtain ⟨hstill, -, hchanges⟩ := (Ledger.Does.works hasked.ledger).of_closed hclosed
      exact ⟨hstill, hchanges.trans (List.append_nil _)⟩

/-- A turn of the reader takes one frame off the front of what is still to be said, or adds to its
buffer what it has read, or comes to the end. -/
theorem Intake.turn {buffer : Bytes} {aborted : Bool}
    (htask : host.tasks[1]? = some (.working (.readStream buffer) aborted))
    (htold : aborted = true → told)
    (hsaid : ∀ more, Stream.reading max [] (arrived ++ more) =
      { Stream.reading max buffer (host.wire.arrivals ++ more) with
        frames := passed ++ (Stream.reading max buffer (host.wire.arrivals ++ more)).frames })
    (htruthful : host.ledger.Truthful) (hlimit : host.channel.config.maxPayload = max)
    (hopen : host.channel.closed = false) (eager : Bool) :
    Intake max told (host.takeTurn eager 1) arrived
      (passed ++ (host.passes? (.turn eager 1)).toList) := by
  subst hlimit
  obtain ⟨htook, hagain⟩ := took_takeTurn eager htask
  obtain ⟨verdict, hself⟩ := htook.task
  cases aborted with
  | true =>
      refine .aborts (htold rfl) hself fun more => ?_
      rw [hsaid, passes?_of_idle eager htask nofun, Option.toList_none, List.append_nil]
      exact List.prefix_append _ _
  | false =>
      have hreads := StreamReader.reads_read eager host.channel.config.maxPayload host.wire buffer
      have hwire : (host.takeTurn eager 1).wire =
          (StreamReader.step host.reception.answer eager host.channel host.wire buffer).2.2 :=
        htook.wire
      have hchannel := channel_of_reader eager htask
      simp only [workOf, stepJob, StreamReader.step, Bool.false_eq_true, if_false]
        at hself hagain hwire
      rw [readerAct_eq eager htask] at hchannel
      rw [passes?, readerAct_eq eager htask]
      rw [hopen] at hself hagain hwire hchannel ⊢
      rcases hread : StreamReader.read eager false host.channel.config.maxPayload host.wire buffer
        with ⟨turn, act, wire⟩
      rw [hread] at hreads hself hagain hwire hchannel
      cases hreads with
      | @passes frame rest hnext =>
          refine .reads hself (by simp) (fun more => ?_) (.inl (hagain _ rfl))
          rw [hsaid, Stream.reading_of_frame hnext, hwire, StreamReader.Act.frame?,
            Option.toList_some, List.append_assoc, List.singleton_append]
          rfl
      | @reads bytes _ hnext hread =>
          refine .reads hself (by simp) (fun more => ?_) (.inl (hagain _ rfl))
          rw [hsaid, Stream.reading_of_read hread, hwire, StreamReader.Act.frame?,
            Option.toList_none, List.append_nil]
          rfl
      | waits hnext hempty =>
          refine .reads hself (by simp) (fun more => ?_) (.inr ⟨hnext, hwire ▸ hempty⟩)
          rw [hsaid, hwire, StreamReader.Act.frame?, Option.toList_none, List.append_nil]
          rfl
      | @ends ending _ hending =>
          obtain ⟨hclosed, hchanges⟩ := StreamReader.changes_conclude hopen htruthful ending
          refine .ends ending hself (fun more => ?_) ?_ (htruthful.running hopen).2 ?_
          · rw [hsaid, hending, StreamReader.Act.frame?, Option.toList_none]
          · exact (congrArg Channel.closed hchannel).trans hclosed
          · obtain ⟨ids, hchanges⟩ := hchanges
            exact ⟨ids, (congrArg Channel.changes hchannel).trans hchanges⟩

/-- A reader that may have to wait is woken when something arrives. -/
theorem ready_of_line {buffer : Bytes} {aborted : Bool}
    (htask : host.tasks[1]? = some (.working (.readStream buffer) aborted))
    (change : Connection → Connection) : 1 ∈ (host.onLine .wire change).ready := by
  have hchanged : ({ host with wire := change host.wire } : Host).tasks[1]? = _ := htask
  exact mem_ready_wakeWhere hchanged rfl

/-- Whoever else takes a turn, nothing is passed, and the arrivals only become more. -/
theorem Intake.step (h : Intake max told host arrived passed)
    (hcrew : host.Crew writer .readStream) (htruthful : host.ledger.Truthful)
    (hlimit : host.channel.config.maxPayload = max) {step : Step} (hkeeps : step.KeepsArrivals)
    (hopen : host.outcome? 1 = none → host.channel.closed = false) :
    Intake max (told ∨ step = .abort 1) (host.step step) (arrived ++ host.arrives step)
      (passed ++ (host.passes? step).toList) := by
  have hstepped := host.stepped_step step
  by_cases hturn : ∃ eager, step = .turn eager 1
  · obtain ⟨eager, rfl⟩ := hturn
    have hnothing : host.arrives (.turn eager 1) = [] := rfl
    rw [hnothing, List.append_nil]
    cases h with
    | reads htask htold hsaid hready =>
        have hworking : host.outcome? 1 = none := by rw [outcome?, htask]
        exact Intake.turn htask (fun haborted => .inl (htold haborted)) hsaid htruthful hlimit
          (hopen hworking) eager
    | ends verdict htask hsaid hclosed hcalm hchanges =>
        obtain ⟨hstill, hsame⟩ := hstepped.of_closed hcrew hclosed
        rw [passes?_of_idle eager htask (by rintro _ ⟨⟩), Option.toList_none, List.append_nil]
        exact .ends verdict (hstepped.ended htask) hsaid hstill hcalm (hsame.symm ▸ hchanges)
    | aborts htold htask hsaid =>
        rw [passes?_of_idle eager htask (by rintro _ ⟨⟩), Option.toList_none, List.append_nil]
        exact .aborts (.inl htold) (hstepped.ended htask) hsaid
  · push Not at hturn
    rw [passes?_of_other hcrew hturn, Option.toList_none, List.append_nil]
    cases h with
    | @reads buffer aborted htask htold hsaid hready =>
        obtain ⟨verdict, marked, hstays, hmark⟩ := hstepped.stays htask hturn
        have harrivals := hstepped.arrivals hcrew hkeeps hturn
        refine .reads hstays (fun hmarked => ?_) (fun more => ?_) ?_
        · obtain rfl | habort := hmark
          · exact .inl (htold hmarked)
          · exact .inr habort
        · rw [List.append_assoc, hsaid, harrivals, List.append_assoc]
        · by_cases hline : ∃ change, step = .line .wire change
          · obtain ⟨change, rfl⟩ := hline
            exact .inl (ready_of_line htask change)
          · have hnothing : host.arrives step = [] := by
              unfold arrives
              split
              · exact absurd ⟨_, rfl⟩ hline
              · rfl
            rw [harrivals, hnothing, List.append_nil]
            exact hready.imp_left fun hmem => hstepped.ready hmem hturn
    | ends verdict htask hsaid hclosed hcalm hchanges =>
        obtain ⟨hstill, hsame⟩ := hstepped.of_closed hcrew hclosed
        refine .ends verdict (hstepped.ended htask) (fun more => ?_) hstill hcalm
          (hsame.symm ▸ hchanges)
        rw [List.append_assoc]
        exact hsaid _
    | aborts htold htask hsaid =>
        refine .aborts (.inl htold) (hstepped.ended htask) fun more => ?_
        rw [List.append_assoc]
        exact hsaid _

theorem Intake.imp {told' : Prop} (h : Intake max told host arrived passed)
    (himp : told → told') : Intake max told' host arrived passed := by
  cases h with
  | reads htask htold hsaid hready =>
      exact .reads htask (fun haborted => himp (htold haborted)) hsaid hready
  | ends verdict htask hsaid hclosed hcalm hchanges =>
      exact .ends verdict htask hsaid hclosed hcalm hchanges
  | aborts htold htask hsaid => exact .aborts (himp htold) htask hsaid

theorem Intake.run (h : Intake max told host arrived passed)
    (hcrew : host.Crew writer .readStream) (htruthful : host.ledger.Truthful)
    (hfitting : host.Fitting max) (steps : List Step) (hkeeps : ∀ step ∈ steps, step.KeepsArrivals)
    (hopen : ∀ before after, steps = before ++ after →
      (before.foldl Host.step host).outcome? 1 = none →
        (before.foldl Host.step host).channel.closed = false) :
    Intake max (told ∨ .abort 1 ∈ steps) (steps.foldl Host.step host)
      (arrived ++ host.arrived steps) (passed ++ host.passed steps) := by
  induction steps generalizing host told arrived passed with
  | nil =>
      rw [Host.arrived, Host.passed, List.append_nil, List.append_nil]
      exact h.imp .inl
  | cons step steps ih =>
      have hstepped := host.stepped_step step
      have hnext := h.step hcrew htruthful hfitting.channel.limit_eq
        (hkeeps step List.mem_cons_self) (hopen [] _ rfl)
      have hlater := ih hnext (hcrew.stepped hstepped) (truthful_stepped hcrew hstepped htruthful)
        (hfitting.step step) (fun other hmem => hkeeps other (List.mem_cons_of_mem _ hmem))
        fun before after heq => hopen (step :: before) after (by rw [heq, List.cons_append])
      rw [Host.arrived, Host.passed, ← List.append_assoc, ← List.append_assoc]
      refine hlater.imp fun htold => ?_
      obtain (htold | habort) | hmem := htold
      · exact .inl htold
      · exact .inr (habort ▸ List.mem_cons_self)
      · exact .inr (List.mem_cons_of_mem _ hmem)

/-- A reader that has nothing to do when nobody can take a step has decoded all that has arrived. -/
theorem atRest_reader {buffer : Bytes} {aborted : Bool}
    (htask : host.tasks[1]? = some (.working (.readStream buffer) aborted))
    (hopen : host.channel.closed = false) (hrest : host.AtRest)
    (hready : 1 ∈ host.ready ∨ Frame.decodeNext buffer host.channel.config.maxPayload = .ok none ∧
      host.wire.arrivals = []) :
    Frame.decodeNext buffer host.channel.config.maxPayload = .ok none ∧
      host.wire.arrivals = [] := by
  obtain hmem | hwaits := hready
  · obtain ⟨verdict, hself⟩ := (took_takeTurn false htask).1.task
    rw [hrest 1 hmem false] at hself
    have hsame := htask.symm.trans hself
    cases aborted with
    | true => cases hsame
    | false =>
        have hreads :=
          StreamReader.reads_read false host.channel.config.maxPayload host.wire buffer
        simp only [workOf, stepJob, StreamReader.step, hopen, Bool.false_eq_true, if_false]
          at hsame
        rcases hread : StreamReader.read false false host.channel.config.maxPayload host.wire
          buffer with ⟨turn, act, wire⟩
        rw [hread] at hreads hsame
        -- A turn that leaves the buffer as it was can only have been one that waits.
        cases hreads with
        | passes hnext =>
            have hshorter := Frame.length_lt_of_decodeNext hnext
            cases hsame
            exact absurd hshorter (Nat.lt_irrefl _)
        | @reads bytes _ hnext hread =>
            obtain ⟨hbytes, -⟩ := Connection.bounds_of_read (by decide) hread
            have hbuffer : buffer = buffer ++ bytes :=
              Job.readStream.inj (HostTask.working.inj (Option.some.inj hsame)).1
            exact absurd (List.self_eq_append_right.mp hbuffer) hbytes
        | waits hnext hempty => exact ⟨hnext, hempty⟩
        | ends => cases hsame
  · exact hwaits

section OverStream

variable {config : ChannelConfig} {reception : Reception} {steps : List Step}
  (hkeeps : ∀ step ∈ steps, step.KeepsArrivals)
  (hopen : ∀ before after, steps = before ++ after →
    (before.foldl step (overStream config reception)).outcome? 1 = none →
      (before.foldl step (overStream config reception)).channel.closed = false)
include hkeeps hopen

theorem intake_overStream {before after : List Step} (hsteps : steps = before ++ after) :
    let begun := overStream config reception
    Intake config.maxPayload (.abort 1 ∈ before) (before.foldl step begun) (begun.arrived before)
      (begun.passed before) := by
  intro begun
  subst hsteps
  have hbegun : Intake config.maxPayload False (overStream config reception) [] [] := by
    refine .reads rfl nofun (fun more => rfl) (.inl ?_)
    exact List.mem_cons_of_mem _ List.mem_cons_self
  have htruthful : (overStream config reception).ledger.Truthful :=
    truthful_overStream config reception []
  have hintake := hbegun.run (crew_overStream config reception) htruthful
    (fitting_overStream config reception) before
    (fun step hmem => hkeeps step (List.mem_append_left _ hmem))
    fun first second heq => hopen first (second ++ after) (by rw [heq, List.append_assoc])
  exact hintake.imp fun htold => htold.resolve_left id

/-- What the channel is given in a step. -/
theorem channel_overStream {before after : List Step} {step : Step}
    (hsteps : steps = before ++ step :: after) :
    let now := before.foldl Host.step (overStream config reception)
    let next := (now.step step).channel
    (∀ frame, now.passes? step = some frame →
      next = { now.channel.receive frame (now.reception.answer frame.port) with signals := [] }) ∧
    (∀ eager, step = .turn eager 1 → now.passes? step = none → next = now.channel ∨
      ∃ ended, (ended = now.channel ∨ ∃ verdict,
          ended = StreamReader.conclude now.channel verdict) ∧
        next = { ended.giveBack 1 with signals := [] }) := by
  intro now next
  refine ⟨fun frame hpasses => channel_of_passes hpasses, ?_⟩
  rintro eager rfl hnone
  have hquiet : now.channel.signals = [] := signals_run (by rfl) before
  have hover {outcome : Outcome} (htask : now.tasks[1]? = some (.over outcome)) :
      next = now.channel := by
    have hidle : now.step (.turn eager 1) = now.dequeue 1 :=
      takeTurn_of_idle eager fun job aborted hworking => by cases htask.symm.trans hworking
    change (now.step (.turn eager 1)).channel = now.channel
    rw [hidle]
    rfl
  cases intake_overStream hkeeps hopen hsteps with
  | reads htask => exact channel_of_passes_none eager hquiet htask hnone
  | ends verdict htask => exact .inl (hover htask)
  | aborts htold htask => exact .inl (hover htask)

end OverStream

/-- **The reader takes in what the stream says.** Whatever arrives on a byte stream, in whatever
pieces, with whatever end, and whatever else happens meanwhile, provided that the channel is open as
long as its reader works: the frames that the reader passes to the channel are the ones that
decoding the bytes from the front yields, in order, as far as it has come. To pass a frame is to
have the channel receive it; a turn of the reader that passes none leaves the channel as it is or
ends it. The reader ends when the stream does, or with the first fault in it. Then it has passed
every frame in front of that, and has closed the channel. An end in good order is no error. Every
other one is reported as a single critical error before that, with the code of the protocol where
the bytes cannot be decoded and the code of the failure else. When nobody can take a step and the
stream has not ended, the reader has passed every frame that has arrived, unless it was told to
end. -/
theorem stream_taken_in (config : ChannelConfig) (reception : Reception) (steps : List Step)
    (hkeeps : ∀ step ∈ steps, step.KeepsArrivals)
    (hopen : ∀ before after, steps = before ++ after →
      (before.foldl step (overStream config reception)).outcome? 1 = none →
        (before.foldl step (overStream config reception)).channel.closed = false) :
    let host := steps.foldl step (overStream config reception)
    let arrived := (overStream config reception).arrived steps
    let passed := (overStream config reception).passed steps
    let said := Stream.reading config.maxPayload [] arrived
    passed <+: said.frames ∧
      (∀ before step after, steps = before ++ step :: after →
        let now := before.foldl Host.step (overStream config reception)
        let next := (now.step step).channel
        (∀ frame, now.passes? step = some frame → next =
          { now.channel.receive frame (now.reception.answer frame.port) with signals := [] }) ∧
        (∀ eager, step = .turn eager 1 → now.passes? step = none → next = now.channel ∨
          ∃ ended, (ended = now.channel ∨ ∃ verdict,
              ended = StreamReader.conclude now.channel verdict) ∧
            next = { ended.giveBack 1 with signals := [] })) ∧
      (host.outcome? 1 = some .done → passed = said.frames ∧
        ∃ verdict before, ∃ ids : List UInt32, said.ending = some verdict ∧
          host.channel.closed = true ∧ Calm before ∧
          host.channel.changes = before ++
            (StreamReader.report verdict ++ (ids.map .sessionClose ++ [.channelClose])) ∧
          ∀ fault,
            (Frame.decodeAll (Arrival.stream arrived).1 config.maxPayload).fault = some fault →
            verdict = .error fault ∧ fault.errorCode.toNumber = 71) ∧
      (host.AtRest → host.outcome? 1 = some .done ∨ .abort 1 ∈ steps ∨
        passed = said.frames ∧ said.ending = none) := by
  intro host arrived passed said
  have hlimit := ((fitting_overStream config reception).run steps).channel.limit_eq
  have hgiven (before : List Step) (step : Step) (after : List Step)
      (hsteps : steps = before ++ step :: after) := channel_overStream hkeeps hopen hsteps
  have hintake : Intake config.maxPayload (.abort 1 ∈ steps) host arrived passed :=
    intake_overStream hkeeps hopen (List.append_nil steps).symm
  cases hintake with
  | @reads buffer aborted htask htold hsaid hready =>
      have hworking : host.outcome? 1 = none := by rw [outcome?, htask]
      have hnow := hsaid []
      rw [List.append_nil] at hnow
      have hframes := congrArg StreamReading.frames hnow
      refine ⟨?_, hgiven, fun hdone => ?_, fun hrest => ?_⟩
      · exact ⟨_, hframes.symm⟩
      · cases hworking.symm.trans hdone
      · rw [← hlimit] at hready
        obtain ⟨hnext, hempty⟩ :=
          atRest_reader htask (hopen steps [] (List.append_nil _).symm hworking) hrest hready
        rw [hlimit] at hnext
        rw [hempty, List.append_nil, Stream.reading_of_empty hnext, List.append_nil] at hnow
        exact .inr (.inr ⟨(congrArg StreamReading.frames hnow).symm,
          congrArg StreamReading.ending hnow⟩)
  | @ends verdict before htask hsaid hclosed hcalm hchanges =>
      obtain ⟨ids, hchanges⟩ := hchanges
      have hnow := hsaid []
      rw [List.append_nil] at hnow
      have hframes : passed = said.frames := (congrArg StreamReading.frames hnow).symm
      have hending : said.ending = some verdict := congrArg StreamReading.ending hnow
      have hdone : host.outcome? 1 = some .done := by rw [outcome?, htask]
      refine ⟨?_, hgiven, fun _ => ⟨hframes, verdict, before, ids, hending, hclosed, hcalm,
        hchanges, fun fault hfault => ?_⟩, fun _ => .inl hdone⟩
      · rw [hframes]
      · have hfirst : said.ending = some (.error fault) := by
          simp only [said, Stream.reading, Stream.ending, List.nil_append, hfault]
        rw [Stream.errorCode_of_decodeAll _ hfault]
        exact ⟨Option.some.inj (hending.symm.trans hfirst), rfl⟩
  | aborts htold htask hsaid =>
      have hnow := hsaid []
      rw [List.append_nil] at hnow
      refine ⟨hnow, hgiven, fun hdone => ?_, fun _ => .inr (.inl htold)⟩
      rw [outcome?, htask] at hdone
      cases hdone

/-- A frame arrives in two pieces, and then the stream ends. The channel receives the frame in the
turn after the second piece was read. -/
theorem stream_taken_in_of_pieces :
    let steps : List Step := [.line .wire (·.arrive (.piece [0x21, 0, 0, 80, 0])), .turn true 1,
      .line .wire (·.arrive (.piece [0, 0, 2, 0, 0, 0, 2, 0, 1])), .turn false 1, .turn true 1,
      .line .wire (·.arrive .eof), .turn false 1]
    let frame : Frame := { port := 80, session := 2, body := .control .sessionOpen }
    let begun := overStream { (default : ChannelConfig) with maxPayload := 2 }
      { rules := [], accepting := true }
    let now := (steps.take 4).foldl step begun
    (steps.foldl step begun).outcome? 1 = some .done ∧
      (Stream.reading 2 [] (begun.arrived steps)).frames = [frame] ∧
      (now.step (.turn true 1)).channel =
        { now.channel.receive frame (now.reception.answer 80) with signals := [] } := by
  intro steps frame begun now
  have hkeeps : ∀ step ∈ steps, step.KeepsArrivals := by
    simp only [steps, List.forall_mem_cons, Step.KeepsArrivals]
    refine ⟨?_, trivial, ?_, trivial, trivial, ?_, trivial, nofun⟩ <;>
      exact fun connection => List.prefix_append _ _
  have hopen : ∀ count < 8, ((steps.take count).foldl step begun).outcome? 1 = none →
      ((steps.take count).foldl step begun).channel.closed = false := by decide
  have hdone : (steps.foldl step begun).outcome? 1 = some .done := by decide
  obtain ⟨-, hgiven, hended, -⟩ :=
    stream_taken_in { (default : ChannelConfig) with maxPayload := 2 }
      { rules := [], accepting := true } steps hkeeps fun before after heq => by
      have hlength : before.length < 8 := by
        have hwhole := congrArg List.length heq
        rw [List.length_append] at hwhole
        exact Nat.lt_succ_of_le (Nat.le_of_add_right_le (Nat.le_of_eq hwhole.symm))
      have hbefore : before = steps.take before.length := by rw [heq, List.take_left]
      rw [hbefore]
      exact hopen before.length hlength
  have hpasses : now.passes? (.turn true 1) = some frame := by decide
  refine ⟨hdone, (hended hdone).1.symm.trans (by decide), ?_⟩
  exact (hgiven (steps.take 4) (.turn true 1) (steps.drop 5) rfl).1 frame hpasses

end Host

end SessionMux
