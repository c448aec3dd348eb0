import SessionMux.Proofs.Host.Course
import SessionMux.Proofs.Host.Trace

/-!
# What is published after the end of a channel

Over a byte stream it is nothing, since every section of work that publishes something asks first
whether the channel is closed. Over datagrams there is an exception. The reader may take a datagram
although the channel is closed, and it does not ask before it reports one that cannot be decoded.
Nothing else comes late.
-/

namespace SessionMux

open Trace

namespace Ledger

variable {ledger next last : Ledger} {deed : Deed} {deeds : List Deed}
  {punctual late : List Change}

def Notices (changes : List Change) : Prop :=
  ∀ change ∈ changes, ∃ datagram failure,
    change = .channelError (DatagramReader.notice datagram failure)

theorem Notices.calm {changes : List Change} (h : Notices changes) : Calm changes := by
  intro report hmem
  obtain ⟨datagram, failure, heq⟩ := h _ hmem
  cases heq
  exact nofun

theorem Notices.append {front rear : List Change} (hfront : Notices front) (hrear : Notices rear) :
    Notices (front ++ rear) :=
  fun change hmem => (List.mem_append.mp hmem).elim (hfront change) (hrear change)

/-- The trace of a ledger is one that was truthful by itself, and what came after the end. -/
structure Overran (ledger : Ledger) (punctual late : List Change) : Prop where
  changes : ledger.changes = punctual ++ late
  truthful : Truthful { ledger with changes := punctual }
  closed : late = [] ∨ ledger.closed = true
  notices : Notices late

theorem Truthful.overran (h : ledger.Truthful) : ledger.Overran ledger.changes [] where
  changes := (List.append_nil _).symm
  truthful := h
  closed := .inl rfl
  notices := List.forall_mem_nil _

theorem Does.overran (hdoes : ledger.Does deed next) (hdeed : Notices deed.lateChanges)
    (h : ledger.Overran punctual late) : ∃ punctual late, next.Overran punctual late := by
  cases hclosed : ledger.closed with
  | false =>
      obtain rfl : late = [] := h.closed.resolve_right (by simp [hclosed])
      have hsame : ledger.changes = punctual := h.changes.trans (List.append_nil _)
      have htruthful : ledger.Truthful := h.truthful.congr rfl rfl hsame
      exact ⟨_, _, (hdoes.truthful_of_open hclosed hdeed.calm htruthful).overran⟩
  | true =>
      obtain ⟨hstill, hsessions, hchanges⟩ := hdoes.of_closed hclosed
      refine ⟨punctual, late ++ deed.lateChanges, ?_, ?_, .inr hstill, h.notices.append hdeed⟩
      · rw [hchanges, h.changes, List.append_assoc]
      · exact h.truthful.congr (hstill.trans hclosed.symm) hsessions rfl

theorem Runs.of_closed (hruns : ledger.Runs deeds last) (hclosed : ledger.closed = true)
    (hdeeds : ∀ deed ∈ deeds, deed.lateChanges = []) :
    last.closed = true ∧ last.changes = ledger.changes := by
  refine hruns.preserves (motive := fun after =>
    after.closed = true ∧ after.changes = ledger.changes) ?_ ⟨hclosed, rfl⟩
  intro before deed after hmem hdoes hbefore
  obtain ⟨hstill, -, hchanges⟩ := hdoes.of_closed hbefore.1
  rw [hdeeds deed hmem, List.append_nil] at hchanges
  exact ⟨hstill, hchanges.trans hbefore.2⟩

end Ledger

namespace Job

variable {job : Job} {deed : Deed}

theorem Does.notices (hdeed : job.Does deed) : Ledger.Notices deed.lateChanges := by
  cases hdeed with
  | reports => exact fun change hmem => ⟨_, _, List.mem_singleton.mp hmem⟩
  | works | calls | forwards | hears | takes | abandons | loses =>
      exact List.forall_mem_nil _

/-- Only the reader of datagrams publishes something without asking whether the channel is
closed. -/
theorem Does.lateChanges (hdeed : job.Does deed) (hjob : job ≠ .readDatagrams) :
    deed.lateChanges = [] := by
  cases hdeed with
  | reports => exact absurd rfl hjob
  | works | calls | forwards | hears | takes | abandons | loses => rfl

end Job

theorem DatagramReader.changes_step (admission : UInt16 → Admission) (eager : Bool)
    {channel : Channel} (connection : Connection) (hclosed : channel.closed = true) :
    (step admission eager channel connection).2.1.changes = channel.changes ∨
      ∃ datagram after failure, eager = true ∧ connection.receive = (.bytes datagram, after) ∧
        Frame.decodeDatagram (datagram.take maxDatagram) channel.config.maxPayload =
          .error failure ∧
        (step admission eager channel connection).2.1.changes =
          channel.changes ++ [.channelError (notice (datagram.take maxDatagram) failure)] := by
  unfold step
  split
  · exact .inl rfl
  · rename_i hgoesOn
    have heager : eager = true := by simpa [hclosed] using hgoesOn
    split
    · rename_i datagram after hreceive
      simp only [receive]
      split
      · left
        rw [Channel.receive, if_pos hclosed]
      · rename_i failure hdecode
        exact .inr ⟨datagram, after, failure, heager, hreceive, hdecode, rfl⟩
    · left
      simp only [Channel.fail, hclosed, if_true]
    · exact .inl rfl

namespace Host

variable {host next : Host}

/-! ### Over a byte stream -/

theorem truthful_stepped {writer : Charge} (hcrew : host.Crew writer .readStream) {step : Step}
    (hstepped : host.Stepped step next) (h : host.ledger.Truthful) : next.ledger.Truthful := by
  cases hstepped with
  | @turns eager caller job aborted _ htask htook hyields hagain =>
      obtain ⟨deeds, hruns, hdeeds⟩ := hyields
      have hjob : job ≠ .readDatagrams := by
        rintro rfl
        cases (hcrew.reads caller _ aborted htask rfl).2
      refine hruns.preserves (fun before deed after hmem hdoes hbefore => ?_) h
      exact hdoes.truthful ((hdeeds deed hmem).lateChanges hjob) hbefore
  | idles => exact h
  | asked hother hasked => exact hasked.ledger.truthful h

theorem ledger_overStream (config : ChannelConfig) (reception : Reception) :
    (overStream config reception).ledger = (create config queueDepth reception).ledger := by
  rw [overStream, ledger_spawn _ (.readStream []) nofun, ledger_spawn _ (.writeStream .idle) nofun]

theorem crew_overStream (config : ChannelConfig) (reception : Reception) :
    (overStream config reception).Crew .writeStream .readStream :=
  crew_create config queueDepth reception (.writeStream .idle) (.readStream []) ⟨rfl, rfl⟩
    ⟨rfl, rfl⟩

theorem truthful_overStream (config : ChannelConfig) (reception : Reception) (steps : List Step) :
    (steps.foldl step (overStream config reception)).ledger.Truthful := by
  have hrun (host : Host) (hcrew : host.Crew .writeStream .readStream)
      (h : host.ledger.Truthful) : (steps.foldl step host).ledger.Truthful := by
    induction steps generalizing host with
    | nil => exact h
    | cons step steps ih =>
        have hstepped := host.stepped_step step
        exact ih _ (hcrew.stepped hstepped) (truthful_stepped hcrew hstepped h)
  refine hrun _ (crew_overStream config reception) ?_
  rw [ledger_overStream]
  exact (truthful_create config queueDepth reception).truthful

/-! ### Over datagrams -/

theorem overran_stepped {step : Step} {punctual late : List Change}
    (hstepped : host.Stepped step next) (h : host.ledger.Overran punctual late) :
    ∃ punctual late, next.ledger.Overran punctual late := by
  cases hstepped with
  | @turns eager caller job aborted _ htask htook hyields hagain =>
      obtain ⟨deeds, hruns, hdeeds⟩ := hyields
      refine hruns.preserves (motive := fun after => ∃ punctual late, after.Overran punctual late)
        (fun before deed after hmem hdoes hbefore => ?_) ⟨punctual, late, h⟩
      obtain ⟨punctual, late, hbefore⟩ := hbefore
      exact hdoes.overran (hdeeds deed hmem).notices hbefore
  | idles => exact ⟨punctual, late, h⟩
  | asked hother hasked =>
      exact (Ledger.Does.works hasked.ledger).overran (List.forall_mem_nil _) h

theorem overran_run {punctual late : List Change} (h : host.ledger.Overran punctual late)
    (steps : List Step) :
    ∃ punctual late, (steps.foldl step host).ledger.Overran punctual late := by
  induction steps generalizing host punctual late with
  | nil => exact ⟨punctual, late, h⟩
  | cons step steps ih =>
      obtain ⟨punctual, late, hnext⟩ := overran_stepped (host.stepped_step step) h
      exact ih hnext

theorem ledger_overDatagrams (config : ChannelConfig) (reception : Reception) :
    (overDatagrams config reception).ledger =
      (create config.overDatagrams queueDepth reception).ledger := by
  rw [overDatagrams, ledger_spawn _ .readDatagrams nofun,
    ledger_spawn _ (.writeDatagrams .idle) nofun]

theorem crew_overDatagrams (config : ChannelConfig) (reception : Reception) :
    (overDatagrams config reception).Crew .writeDatagrams .readDatagrams :=
  crew_create config.overDatagrams queueDepth reception (.writeDatagrams .idle) .readDatagrams
    ⟨rfl, rfl⟩ ⟨rfl, rfl⟩

theorem changes_leftBy (caller : Caller) (job : Job) (turn : Turn Job Outcome) (channel : Channel) :
    (leftBy caller job turn channel).changes = channel.changes := by
  cases turn with
  | waits | goes => rfl
  | ends outcome =>
      cases job with
      | forward client forward =>
          simp only [leftBy, leave]
          split <;> rfl
      | call | reply | awaitClose | readStream | writeStream | readDatagrams | writeDatagrams => rfl

theorem changes_of_closed {writer : Charge} (hcrew : host.Crew writer .readDatagrams)
    (hclosed : host.channel.closed = true) (step : Step) :
    (host.step step).channel.changes = host.channel.changes ∨
      ∃ datagram wire failure, step = .turn true 1 ∧ host.wire.receive = (.bytes datagram, wire) ∧
        Frame.decodeDatagram (datagram.take maxDatagram) host.channel.config.maxPayload =
          .error failure ∧
        (host.step step).channel.changes = host.channel.changes ++
          [.channelError (DatagramReader.notice (datagram.take maxDatagram) failure)] := by
  have hstepped := host.stepped_step step
  generalize host.step step = next at hstepped ⊢
  cases hstepped with
  | @turns eager caller job aborted _ htask htook hyields hagain =>
      by_cases hjob : job = .readDatagrams
      · subst hjob
        obtain ⟨rfl, -⟩ := hcrew.reads caller _ aborted htask rfl
        rw [htook.channel]
        simp only [changes_leftBy]
        cases aborted with
        | true => exact .inl rfl
        | false =>
            obtain hsame | ⟨datagram, wire, failure, rfl, hreceive, hdecode, hchanges⟩ :=
              DatagramReader.changes_step host.reception.answer eager host.wire hclosed
            · exact .inl hsame
            · exact .inr ⟨datagram, wire, failure, rfl, hreceive, hdecode, hchanges⟩
      · obtain ⟨deeds, hruns, hdeeds⟩ := hyields
        refine .inl (hruns.of_closed hclosed fun deed hmem => ?_).2
        exact (hdeeds deed hmem).lateChanges hjob
  | idles => exact .inl rfl
  | asked hother hasked =>
      have hworks := (Ledger.Does.works hasked.ledger).of_closed hclosed
      exact .inl (hworks.2.2.trans (List.append_nil _))

/-- **The last word of a channel.** Over a byte stream, every trace is well formed, so the end of
the channel is the last thing that is published. Over datagrams the trace is well formed up to some
place, and behind the end of the channel there can be reports of datagrams that could not be
decoded. Once the channel is closed, nothing is published but such a report, in a turn in which the
reader takes the datagram that it finds rather than the close. -/
theorem last_word (config : ChannelConfig) (reception : Reception) (steps : List Step) :
    WellFormed (steps.foldl step (overStream config reception)).channel.changes ∧
    let host := steps.foldl step (overDatagrams config reception)
    (∃ punctual late, host.channel.changes = punctual ++ late ∧ WellFormed punctual ∧
        (late = [] ∨ host.channel.closed = true) ∧ Ledger.Notices late) ∧
      (host.channel.closed = true → ∀ step,
        (host.step step).channel.changes = host.channel.changes ∨
          ∃ datagram wire failure, step = .turn true 1 ∧
            host.wire.receive = (.bytes datagram, wire) ∧
            Frame.decodeDatagram (datagram.take maxDatagram) host.channel.config.maxPayload =
              .error failure ∧
            (host.step step).channel.changes = host.channel.changes ++
              [.channelError (DatagramReader.notice (datagram.take maxDatagram) failure)]) := by
  refine ⟨(truthful_overStream config reception steps).wellFormed, ?_⟩
  intro host
  have hbegun : (overDatagrams config reception).ledger.Truthful := by
    rw [ledger_overDatagrams]
    exact (truthful_create config.overDatagrams queueDepth reception).truthful
  obtain ⟨punctual, late, hoverran⟩ := overran_run hbegun.overran steps
  refine ⟨⟨punctual, late, hoverran.changes, hoverran.truthful.wellFormed, hoverran.closed,
    hoverran.notices⟩, fun hclosed step => ?_⟩
  exact changes_of_closed ((crew_overDatagrams config reception).run steps) hclosed step

/-- A datagram of one byte is at hand when the channel is closed. The reader takes it first, and
reports it behind the end of the channel. -/
theorem notice_after_close :
    let host := [.line .wire (·.arrive (.piece [0])), .close, .turn true 1].foldl step
      (overDatagrams default { rules := [], accepting := true })
    ∃ before report, host.channel.changes = before ++ [.channelClose, .channelError report] ∧
      report.level = .warning ∧ report.code = .protocol := by
  refine ⟨[.channelCreate false .tcp], DatagramReader.notice [0] .incomplete, ?_, rfl, rfl⟩
  decide

end Host

end SessionMux
