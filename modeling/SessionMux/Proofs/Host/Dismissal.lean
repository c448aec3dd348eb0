import SessionMux.Proofs.Channel.Attended
import SessionMux.Proofs.Host.Draining

/-!
# Forwards leave no session behind

A forward ends for many reasons: its local side comes to an end or fails, the peer reports an error,
the session is closed by whomever, or nothing can be sent any more. Meanwhile its session may end at
any time without its doing. Whatever comes first, by the time the forward has ended its endpoint was
told of the end of the session (`Host.Holder`), provided that frames are taken out of the queue
until the channel is closed. So the id stands for no session any more, unless the peer has opened
another one with it, and the forward fails only on a closed channel or without a session of its own
(`Host.forward_dismisses`).
-/

namespace SessionMux

def Channel.Served (channel : Channel) : Prop :=
  channel.closed = true ∨ channel.outbox.draining = true

instance (channel : Channel) : Decidable channel.Served :=
  inferInstanceAs (Decidable (_ ∨ _))

theorem Channel.Served.closed {channel : Channel} (h : channel.Served)
    (hended : channel.closed = true ∨ channel.outbox.draining = false) : channel.closed = true := by
  obtain hclosed | hdraining := h
  · exact hclosed
  · rw [hdraining] at hended
    exact hended.resolve_right nofun

namespace Forward

variable {forward later : Forward} {channel : Channel} {client : Connection} {after : After}

def Within (forward : Forward) (limit : Nat) : Prop :=
  ∀ payload, forward.stage = .sending payload → payload.length ≤ limit

theorem Moves.within (hmoves : forward.Moves channel client after)
    (hpositive : 1 ≤ channel.config.maxPayload) (hnext : after.1.next? = some later)
    (h : forward.Within channel.config.maxPayload) :
    later.Within channel.config.maxPayload := by
  intro payload hsending
  cases hmoves with
  | waits =>
      cases hnext
      exact h payload hsending
  | reads hlistening hread =>
      cases hnext
      cases hsending
      obtain ⟨-, hlength⟩ := Connection.bounds_of_read (Nat.le_max_right _ _) hread
      exact hlength.trans (Nat.max_le.mpr ⟨Nat.min_le_right _ _, hpositive⟩)
  | fails | ends => cases hnext
  | opens | hears | warned | sends | drops | writes | delivers | breaks =>
      cases hnext
      cases hsending
  | leaves hbefore hleaves =>
      cases hnext
      cases hsending
      exact hleaves.elim

/-- Where frames are taken out of the queue, a forward fails only on a closed channel, or because it
gets no id. -/
theorem Moves.fails_only (hmoves : forward.Moves channel client after) (hserved : channel.Served)
    (h : forward.Within channel.config.maxPayload) {error : ChannelError}
    (hends : after.1 = .ends (.error error)) :
    error = .closed ∧ channel.closed = true ∨ error = .idsExhausted ∧ forward.stage = .opening := by
  cases hmoves with
  | fails hworks hcause =>
      cases hends
      cases hcause with
      | closed hstage hended => exact .inl ⟨rfl, hserved.closed hended⟩
      | exhausted hstage => exact .inr ⟨rfl, hstage⟩
      | oversize hstage hsize => exact absurd (h _ hstage) (Nat.not_le.mpr hsize)
  | waits | opens | reads | hears | warned | sends | drops | writes | delivers | breaks | leaves
  | ends => cases hends

/-- A forward that succeeds was told of the end of its session, or the session is gone. -/
theorem Moves.succeeds_only (hmoves : forward.Moves channel client after)
    (hserved : channel.Served) {stats : ForwardStats} (hends : after.1 = .ends (.ok stats)) :
    stats = forward.stats ∧ (forward.message? channel = some .closed ∨ channel.closed = true ∨
      after.2.1.sessions.find? forward.stats.session = none) := by
  cases hmoves with
  | ends hstage hworks hclient hmessage hgone =>
      cases hends
      refine ⟨rfl, ?_⟩
      obtain hlistening | hleaving := hstage
      · exact .inl (hmessage hlistening)
      · obtain hnone | hended := hgone hleaving
        · exact .inr (.inr hnone)
        · exact .inr (.inl (hserved.closed hended))
  | waits | opens | fails | reads | hears | warned | sends | drops | writes | delivers | breaks
  | leaves => cases hends

end Forward

namespace Host

variable {host next : Host} {caller : Caller} {number limit place : Nat} {id : UInt32}
  {event : Event} {events : List Event} {task : HostTask}

/-! ### Endpoints and the queue in a run -/

theorem Happened.paired (h : host.Happened event next) (hpaired : host.ledger.Paired) :
    next.ledger.Paired := by
  obtain ⟨deeds, hruns⟩ := h.runs
  exact hruns.paired hpaired

theorem Begun.paired (h : host.Begun) : host.ledger.Paired := by
  cases h <;> exact
    { homed := Ledger.homed_of_empty rfl
      unended := Ledger.unended_of_empty rfl
      attended := nofun
      cleared := Ledger.cleared_of_open rfl }

theorem paired_run (h : host.ledger.Paired) (events : List Event) :
    (events.foldl happen host).ledger.Paired := by
  induction events generalizing host with
  | nil => exact h
  | cons event events ih => exact ih ((host.happened_happen event).paired h)

def AlwaysServed (host : Host) : List Event → Prop
  | [] => host.channel.Served
  | event :: events => host.channel.Served ∧ (host.happen event).AlwaysServed events

instance decidableAlwaysServed (host : Host) :
    (events : List Event) → Decidable (host.AlwaysServed events)
  | [] => inferInstanceAs (Decidable host.channel.Served)
  | event :: events =>
    have := (host.happen event).decidableAlwaysServed events
    inferInstanceAs (Decidable (_ ∧ _))

theorem endpoint_of_origin (horigin : host.register.origins[place]? = some (id, false)) :
    ∃ endpoint, host.channel.endpoints[place]? = some endpoint ∧ endpoint.session = id ∧
      endpoint.inbound = false := by
  change (host.channel.endpoints.map _)[place]? = _ at horigin
  rw [List.getElem?_map] at horigin
  obtain ⟨endpoint, hendpoint, heq⟩ := Option.map_eq_some_iff.mp horigin
  obtain ⟨hid, hinbound⟩ := Prod.mk.inj heq
  exact ⟨endpoint, hendpoint, hid, hinbound⟩

theorem entry_of_origin (horigin : host.register.origins[place]? = some (id, false)) :
    host.ledger.endpoints[place]? = some (id, host.channel.toldAt place) := by
  obtain ⟨endpoint, hendpoint, rfl, -⟩ := endpoint_of_origin horigin
  change (host.channel.endpoints.map _)[place]? = _
  rw [List.getElem?_map, Channel.toldAt, hendpoint]
  rfl

theorem origin_of_grows (horigin : host.register.origins[place]? = some (id, false))
    (hgrows : host.register.Grows next.register) :
    next.register.origins[place]? = some (id, false) := by
  obtain ⟨more, hmore⟩ := hgrows.prefix_origins
  obtain ⟨hplace, -⟩ := List.getElem?_eq_some_iff.mp horigin
  rw [← hmore, List.getElem?_append_left hplace, horigin]

theorem told_of_happened (hhappened : host.Happened event next)
    (htold : .closed ∈ host.channel.toldAt place) : .closed ∈ next.channel.toldAt place := by
  obtain ⟨more, hmore⟩ := Channel.toldAt_of_extends hhappened.extends place
  rw [hmore]
  exact List.mem_append_left _ htold

/-! ### A forward that has opened its session -/

/-- The task of a forward with a session: it is at work, or it has ended, and so has the session.
Only a task that was told to end does so without care for its session. -/
inductive Holder (host : Host) (number limit place : Nat) (id : UInt32) : HostTask → Prop
  | works {forward : Forward} {aborted : Bool} (hstage : forward.stage ≠ .opening)
      (hendpoint : forward.endpoint = some place) (hsession : forward.stats.session = id)
      (hwithin : forward.Within limit) :
      Holder host number limit place id (.working (.forward number forward) aborted)
  | ends {outcome : Outcome}
      (htold : outcome ≠ .aborted → .closed ∈ host.channel.toldAt place)
      (hstats : ∀ stats, outcome = .forwarded stats → stats.session = id)
      (herror : ∀ error, outcome = .failed error → error = .closed ∧ host.channel.closed = true) :
      Holder host number limit place id (.over outcome)

structure Holds (host : Host) (caller : Caller) (number limit place : Nat) (id : UInt32) :
    Prop where
  origin : host.register.origins[place]? = some (id, false)
  task : ∃ task, host.tasks[caller]? = some task ∧ host.Holder number limit place id task

theorem Holder.stays (h : host.Holder number limit place id task)
    (hhappened : host.Happened event next)
    (hstill : (∃ verdict, next.tasks[caller]? = some (task.hear verdict)) ∨
      next.tasks[caller]? = some task.mark) :
    ∃ later, next.tasks[caller]? = some later ∧ next.Holder number limit place id later := by
  cases h with
  | works hstage hendpoint hsession hwithin =>
      obtain ⟨verdict, hheard⟩ | hmarked := hstill
      · exact ⟨_, hheard, .works hstage hendpoint hsession hwithin⟩
      · exact ⟨_, hmarked, .works hstage hendpoint hsession hwithin⟩
  | @ends outcome htold hstats herror =>
      have hstays : next.Holder number limit place id (.over outcome) :=
        .ends (fun hreturned => told_of_happened hhappened (htold hreturned)) hstats
          fun error heq => (herror error heq).imp_right hhappened.closed
      obtain ⟨verdict, hheard⟩ | hmarked := hstill
      · exact ⟨_, hheard, hstays⟩
      · exact ⟨_, hmarked, hstays⟩

theorem Holder.turn {job : Job} {aborted eager : Bool}
    (h : host.Holder number limit place id (.working job aborted))
    (htask : host.tasks[caller]? = some (.working job aborted)) (hfooting : host.Footing limit)
    (hpositive : 1 ≤ limit) (hserved : host.channel.Served) (hpaired : next.ledger.Paired)
    (horigin : next.register.origins[place]? = some (id, false))
    (hhappened : host.Happened (.step (.turn eager caller)) next)
    (htook : host.Took caller job (host.workOf eager caller job aborted).1
      (host.workOf eager caller job aborted).2 next) :
    ∃ task, next.tasks[caller]? = some task ∧ next.Holder number limit place id task := by
  cases h with
  | @works forward _ hstage hendpoint hsession hwithin =>
      cases aborted with
      | true =>
          obtain ⟨verdict, hself⟩ := htook.task
          exact ⟨_, hself, .ends (absurd rfl) nofun nofun⟩
      | false =>
          have hnumber := hfooting.forwards.client _ _ _ _ htask
          obtain ⟨⟨turn, channel, after⟩, hmoves, hbooks, -, hself⟩ :=
            htook.moves (List.getElem?_eq_getElem hnumber)
          have hlimit := hfooting.fitting.channel.limit_eq
          rw [← hlimit] at hwithin hpositive
          have hnext {later : Forward} (hlater : turn.next? = some later) :
              next.Holder number limit place id (.working (.forward number later) false) := by
            obtain ⟨hopened, hplace, hsame⟩ := hmoves.keeps hstage hlater
            exact .works hopened (hplace.trans hendpoint) (hsame.trans hsession)
              (hlimit ▸ hmoves.within hpositive hlater hwithin)
          have hclosed (hbefore : host.channel.closed = true) :
              .closed ∈ next.channel.toldAt place :=
            hpaired.closed_mem (entry_of_origin horigin) (.inl (hhappened.closed hbefore))
          refine ⟨_, hself, ?_⟩
          cases turn with
          | waits later | goes later => exact hnext rfl
          | ends result =>
              cases result with
              | error error =>
                  obtain ⟨rfl, hbefore⟩ | ⟨-, hopening⟩ := hmoves.fails_only hserved hwithin rfl
                  · refine .ends (fun _ => hclosed hbefore) nofun fun other heq => ?_
                    cases heq
                    exact ⟨rfl, hhappened.closed hbefore⟩
                  · exact absurd hopening hstage
              | ok stats =>
                  obtain ⟨rfl, htold⟩ := hmoves.succeeds_only hserved rfl
                  refine .ends (fun _ => ?_) (fun stats heq => ?_) nofun
                  · obtain hmessage | hbefore | hnone := htold
                    · rw [forward.message?_eq, forward.told_of_endpoint hendpoint] at hmessage
                      exact told_of_happened hhappened (List.mem_of_getElem? hmessage)
                    · exact hclosed hbefore
                    · refine hpaired.closed_mem (entry_of_origin horigin) (.inr ?_)
                      rw [← hsession, ← hnone]
                      exact congrArg (Sessions.find? · forward.stats.session) hbooks.sessions
                  · cases heq
                    exact hsession

theorem Holds.happen (h : host.Holds caller number limit place id) (hfooting : host.Footing limit)
    (hpositive : 1 ≤ limit) (hserved : host.channel.Served) (hpaired : host.ledger.Paired)
    (event : Event) : (host.happen event).Holds caller number limit place id := by
  have hhappened := host.happened_happen event
  have horigin := origin_of_grows h.origin (host.grows_happen event)
  obtain ⟨task, htask, hholder⟩ := h.task
  refine ⟨horigin, ?_⟩
  obtain hstill | ⟨eager, job, aborted, rfl, rfl, htook⟩ := hhappened.task_or_turn htask
  · exact hholder.stays hhappened hstill
  · exact hholder.turn htask hfooting hpositive hserved (hhappened.paired hpaired) horigin hhappened
      htook

theorem Holds.run (h : host.Holds caller number limit place id) (hfooting : host.Footing limit)
    (hpositive : 1 ≤ limit) (hpaired : host.ledger.Paired) (hserved : host.AlwaysServed events) :
    (events.foldl Host.happen host).Holds caller number limit place id := by
  induction events generalizing host with
  | nil => exact h
  | cons event events ih =>
      exact ih (h.happen hfooting hpositive hserved.1 hpaired event) (hfooting.happen event)
        ((host.happened_happen event).paired hpaired) hserved.2

theorem Holds.returned {outcome : Outcome} (h : host.Holds caller number limit place id)
    (houtcome : host.outcome? caller = some outcome) :
    host.Holder number limit place id (.over outcome) := by
  obtain ⟨task, htask, hholder⟩ := h.task
  cases htask.symm.trans (task_of_outcome? houtcome)
  exact hholder

/-- The id of a forward that has ended stands for no session, unless the peer has opened another one
with it. -/
theorem Holds.find?_eq_none (h : host.Holds caller number limit place id)
    (hnumbered : host.register.Numbered) (hpaired : host.ledger.Paired)
    (hpeer : ∀ later ∈ host.channel.endpoints.drop (place + 1),
      later.inbound = true → later.session ≠ id)
    (htold : .closed ∈ host.channel.toldAt place) : host.channel.sessions.find? id = none := by
  refine Ledger.find?_of_told_closed hpaired.homed hpaired.unended (entry_of_origin h.origin) htold
    fun later hmem howner => ?_
  obtain ⟨endpoint, hendpoint, hid, hours⟩ := endpoint_of_origin h.origin
  obtain ⟨hplace, hentry⟩ := List.getElem?_eq_some_iff.mp hendpoint
  change later ∈ (host.channel.endpoints.map _).drop (place + 1) at hmem
  rw [← List.map_drop] at hmem
  obtain ⟨other, hother, rfl⟩ := List.mem_map.mp hmem
  -- Two sessions of our side have different ids, and the peer has opened no later one with this id.
  have hdistinct := hnumbered.distinct
  change (host.channel.endpoints.map _).Pairwise _ at hdistinct
  rw [List.pairwise_map, ← List.take_append_drop place host.channel.endpoints,
    List.drop_eq_getElem_cons hplace, List.pairwise_append] at hdistinct
  obtain hinbound | hinbound :=
    List.rel_of_pairwise_cons hdistinct.2.1 hother (by rw [hentry, hid]; exact howner.symm)
  · rw [hentry, hours] at hinbound
    cases hinbound
  · exact absurd howner (hpeer other hother hinbound)

/-! ### A forward without a session -/

inductive Seeker (host : Host) (number : Nat) : HostTask → Prop
  | works (port : UInt16) (aborted : Bool) :
      Seeker host number (.working (.forward number (.create port)) aborted)
  | ends {outcome : Outcome} (hstats : ∀ stats, outcome ≠ .forwarded stats)
      (herror : ∀ error, outcome = .failed error →
        error = .closed ∧ host.channel.closed = true ∨ error = .idsExhausted) :
      Seeker host number (.over outcome)

def Seeks (host : Host) (caller : Caller) (number : Nat) : Prop :=
  ∃ task, host.tasks[caller]? = some task ∧ host.Seeker number task

theorem Seeks.returned {outcome : Outcome} (h : host.Seeks caller number)
    (houtcome : host.outcome? caller = some outcome) : host.Seeker number (.over outcome) := by
  obtain ⟨task, htask, hseeker⟩ := h
  cases htask.symm.trans (task_of_outcome? houtcome)
  exact hseeker

theorem Seeker.stays (h : host.Seeker number task) (hhappened : host.Happened event next)
    (hstill : (∃ verdict, next.tasks[caller]? = some (task.hear verdict)) ∨
      next.tasks[caller]? = some task.mark) : next.Seeks caller number := by
  cases h with
  | works port aborted =>
      obtain ⟨verdict, hheard⟩ | hmarked := hstill
      · exact ⟨_, hheard, .works port aborted⟩
      · exact ⟨_, hmarked, .works port true⟩
  | @ends outcome hstats herror =>
      have hstays : next.Seeker number (.over outcome) :=
        .ends hstats fun error heq =>
          (herror error heq).imp_left fun hclosed => hclosed.imp_right hhappened.closed
      obtain ⟨verdict, hheard⟩ | hmarked := hstill
      · exact ⟨_, hheard, hstays⟩
      · exact ⟨_, hmarked, hstays⟩

theorem Seeks.endpointOf? (h : host.Seeks caller number) : host.endpointOf? caller = none := by
  obtain ⟨task, htask, hseeker⟩ := h
  rw [Host.endpointOf?, htask]
  cases hseeker <;> rfl

theorem Seeker.turn {job : Job} {aborted eager : Bool}
    (h : host.Seeker number (.working job aborted))
    (htask : host.tasks[caller]? = some (.working job aborted)) (hfooting : host.Footing limit)
    (hserved : host.channel.Served)
    (hhappened : host.Happened (.step (.turn eager caller)) next)
    (htook : host.Took caller job (host.workOf eager caller job aborted).1
      (host.workOf eager caller job aborted).2 next) :
    next.Seeks caller number ∨ ∃ place id,
      next.endpointOf? caller = some place ∧ next.Holds caller number limit place id := by
  cases h with
  | works port =>
      cases aborted with
      | true =>
          obtain ⟨verdict, hself⟩ := htook.task
          exact .inl ⟨_, hself, .ends (by simp) (by simp)⟩
      | false =>
          have hnumber := hfooting.forwards.client _ _ _ _ htask
          obtain ⟨after, hmoves, hbooks, -, hself⟩ :=
            htook.moves (List.getElem?_eq_getElem hnumber)
          obtain ⟨turn, channel, rfl, -, rfl | ⟨error, rfl⟩⟩ | ⟨id, channel, hopens, rfl⟩ :=
            hmoves.of_opening rfl
          · exact .inl ⟨_, hself, .works port false⟩
          · have hcause := hmoves.fails_only hserved (by simp [Forward.Within, Forward.create]) rfl
            refine .inl ⟨_, hself, .ends (by simp [Outcome.ofForward]) fun other heq => ?_⟩
            cases heq
            exact hcause.imp (And.imp_right hhappened.closed) And.left
          · refine .inr ⟨host.channel.endpoints.length, id, ?_, ?_, _, hself, ?_⟩
            · rw [endpointOf?, hself]
              rfl
            · rw [hbooks.origins]
              change (channel.endpoints.map _)[_]? = _
              rw [hopens.endpoints, List.map_append, ← List.length_map]
              exact List.getElem?_concat_length
            · exact .works (by simp) rfl rfl (by simp [Forward.Within])

theorem Seeks.happen (h : host.Seeks caller number) (hfooting : host.Footing limit)
    (hserved : host.channel.Served) (event : Event) :
    (host.happen event).Seeks caller number ∨ ∃ place id,
      (host.happen event).endpointOf? caller = some place ∧
        (host.happen event).Holds caller number limit place id := by
  have hhappened := host.happened_happen event
  obtain ⟨task, htask, hseeker⟩ := h
  obtain hstill | ⟨eager, job, aborted, rfl, rfl, htook⟩ := hhappened.task_or_turn htask
  · exact .inl (hseeker.stays hhappened hstill)
  · exact hseeker.turn htask hfooting hserved hhappened htook

/-- In a run, a forward seeks a session until it has got the endpoint of one. -/
theorem Seeks.run (h : host.Seeks caller number) (hfooting : host.Footing limit)
    (hpositive : 1 ≤ limit) (hpaired : host.ledger.Paired) (hserved : host.AlwaysServed events) :
    (host.bridge? caller events = none ∧ (events.foldl Host.happen host).Seeks caller number) ∨
      ∃ place id, host.bridge? caller events = some place ∧
        (events.foldl Host.happen host).Holds caller number limit place id := by
  induction events generalizing host with
  | nil => exact .inl ⟨h.endpointOf?, h⟩
  | cons event events ih =>
      have hnext := (host.happened_happen event).paired hpaired
      rw [bridge?, h.endpointOf?, Option.none_or]
      obtain hseeks | ⟨place, id, hopened, hholds⟩ := h.happen hfooting hserved.1 event
      · exact ih hseeks (hfooting.happen event) hnext hserved.2
      · exact .inr ⟨place, id, bridge?_of_endpointOf? hopened events,
          hholds.run (hfooting.happen event) hpositive hnext hserved.2⟩

theorem seeks_startForward (host : Host) (port : UInt16) :
    (host.startForward port).Seeks host.tasks.length host.clients.length :=
  ⟨_, List.getElem?_concat_length, .works port false⟩

/-- **A forward leaves no session behind.** Whatever happens before a forward is started and
afterwards: as long as frames are taken out of the queue until the channel is closed, a forward
fails only on a closed channel, or because there is no id left for a session of its own. Once it has
opened a session and has returned, with success or with an error, the id of that session stands for
none any more, unless the peer has opened a later one with it. -/
theorem forward_dismisses {begun : Host} (hbegun : begun.Begun)
    (hpayload : 1 ≤ begun.channel.config.maxPayload) (port : UInt16) (before after : List Event) :
    let started := before.foldl happen begun
    let caller := started.tasks.length
    let forwarding := started.happen (.step (.forward port))
    let last := after.foldl happen forwarding
    forwarding.AlwaysServed after →
      (∀ error, last.outcome? caller = some (.failed error) →
        error = .closed ∧ last.channel.closed = true ∨
          error = .idsExhausted ∧ forwarding.bridge? caller after = none) ∧
      (forwarding.bridge? caller after = none →
        ∀ stats, last.outcome? caller ≠ some (.forwarded stats)) ∧
      ∀ place, forwarding.bridge? caller after = some place →
        ∃ endpoint, last.channel.endpoints[place]? = some endpoint ∧
          (∀ stats, last.outcome? caller = some (.forwarded stats) →
            stats.session = endpoint.session) ∧
          ((∀ later ∈ last.channel.endpoints.drop (place + 1),
              later.inbound = true → later.session ≠ endpoint.session) →
            ∀ outcome, last.outcome? caller = some outcome → outcome ≠ .aborted →
              last.channel.sessions.find? endpoint.session = none) := by
  intro started caller forwarding last hserved
  have hfooting : forwarding.Footing begun.channel.config.maxPayload :=
    (hbegun.footing.run before).happen _
  have hpaired : forwarding.ledger.Paired :=
    (started.happened_happen _).paired (paired_run hbegun.paired before)
  have hseeks : forwarding.Seeks caller started.clients.length := seeks_startForward started port
  obtain ⟨hbridge, hseeking⟩ | ⟨place, id, hbridge, hholds⟩ :=
    hseeks.run hfooting hpayload hpaired hserved
  · rw [hbridge]
    refine ⟨fun error hfailed => ?_, fun _ stats hforwarded => ?_, nofun⟩
    · cases hseeking.returned hfailed with
      | ends hstats herror => exact (herror error rfl).imp_right fun heq => ⟨heq, rfl⟩
    · cases hseeking.returned hforwarded with
      | ends hstats herror => exact hstats stats rfl
  · rw [hbridge]
    obtain ⟨endpoint, hendpoint, rfl, -⟩ := endpoint_of_origin hholds.origin
    refine ⟨fun error hfailed => ?_, nofun, fun other heq => ?_⟩
    · cases hholds.returned hfailed with
      | ends htold hstats herror => exact .inl (herror error rfl)
    · obtain rfl := Option.some.inj heq
      refine ⟨endpoint, hendpoint, fun stats hforwarded => ?_, fun hpeer outcome hended hne => ?_⟩
      · cases hholds.returned hforwarded with
        | ends htold hstats herror => exact hstats stats rfl
      · cases hholds.returned hended with
        | ends htold hstats herror =>
            exact hholds.find?_eq_none (hfooting.run after).numbered (paired_run hpaired after)
              hpeer (htold hne)

/-- The local side of a forward fails while the queue is full. The forward waits for its turn,
reports the failure, closes its session and succeeds. -/
theorem forward_dismisses_of_failure :
    let begun := create { (default : ChannelConfig) with maxPayload := 1 } 1
      { rules := [], accepting := true }
    let after : List Event := [.step (.turn true 0),
      .step (.line (.client 0) (·.arrive (.failure (.plain .connectionReset)))),
      .step (.turn true 0), .step (.turn true 0), .take, .step (.turn true 0), .take,
      .step (.turn true 0)]
    let forwarding := begun.happen (.step (.forward 22))
    let last := after.foldl happen forwarding
    forwarding.AlwaysServed after ∧
      last.outcome? 0 = some (.forwarded { session := 1, bytesOut := 0, bytesIn := 0 }) ∧
      last.channel.sessions.find? 1 = none := by
  intro begun after forwarding last
  have hserved : forwarding.AlwaysServed after := by decide
  have houtcome : last.outcome? 0 =
      some (.forwarded { session := 1, bytesOut := 0, bytesIn := 0 }) := by decide
  have hplace : forwarding.bridge? 0 after = some 0 := by decide
  have halone : last.channel.endpoints.drop 1 = [] := by decide
  have hbegun : begun.Begun := .create _ _ _
  have hresult := forward_dismisses hbegun (by decide) 22 [] after
  have htasks : begun.tasks.length = 0 := rfl
  have hforwarding : begun.happen (.step (.forward 22)) = forwarding := rfl
  have hlast : after.foldl happen forwarding = last := rfl
  simp only [List.foldl_nil, htasks, hforwarding, hlast] at hresult
  -- From here on, nothing is to be evaluated any more.
  clear_value last forwarding after begun
  obtain ⟨-, -, hopened⟩ := hresult hserved
  obtain ⟨endpoint, -, hstats, hgone⟩ := hopened 0 hplace
  obtain hsession : 1 = endpoint.session := hstats _ houtcome
  refine ⟨hserved, houtcome, ?_⟩
  rw [hsession]
  exact hgone (by simp [halone]) _ houtcome nofun

/-- Where nobody takes frames out of the queue any more although the channel is open, a forward
fails and its session stays. -/
example :
    let last := [.step (.turn true 0), .abandon,
      .step (.line (.client 0) (·.arrive .eof)), .step (.turn true 0),
      .step (.turn true 0)].foldl happen ((create default 8
        { rules := [], accepting := true }).happen (.step (.forward 22)))
    last.outcome? 0 = some (.failed .closed) ∧ last.channel.closed = false ∧
      last.channel.sessions.contains 1 = true := by
  decide

end Host

end SessionMux
