import SessionMux.Proofs.Host.Bridge

/-!
# Forwarding keeps both streams intact

Until its session is open, a forward neither reads nor writes anything (`Host.Unopened`). From then
on it has a session (`Host.Bridged`), and what is known of its books then, is known of both streams.
-/

namespace SessionMux.Host

variable {host next : Host} {caller other : Caller} {number limit : Nat} {id : UInt32}
  {event : Event} {passage : Passage} {job : Job} {aborted : Bool}

/-! ### A forward that has no session yet -/

inductive IsBare (number : Nat) : HostTask → Prop
  | working (port : UInt16) (aborted : Bool) :
      IsBare number (.working (.forward number (.create port)) aborted)
  | ended {outcome : Outcome} (houtcome : ∀ stats, outcome ≠ .forwarded stats) :
      IsBare number (.over outcome)

structure Unopened (host : Host) (caller : Caller) (number : Nat) (passage : Passage) : Prop where
  passage : passage = .begun
  owns : host.Owns caller number
  client : ∃ connection, host.clients[number]? = some connection ∧ connection.written.flatten = []
  task : ∃ task, host.tasks[caller]? = some task ∧ IsBare number task

namespace Unopened

theorem lt_length (h : host.Unopened caller number passage) : number < host.clients.length := by
  obtain ⟨connection, hconnection, -⟩ := h.client
  exact (List.getElem?_eq_some_iff.mp hconnection).1

theorem account_eq (h : host.Unopened caller number passage) {task : HostTask}
    (htask : next.tasks[caller]? = some task) (hbare : IsBare number task)
    (hreads : host.reads number event next = []) :
    host.account caller number passage event next = .begun := by
  have hsession : next.sessionOf? caller = none := by
    rw [sessionOf?, htask]
    cases hbare <;> rfl
  rw [account, h.passage, hsession, hreads]
  rfl

theorem apart (h : host.Unopened caller number passage)
    (happart : host.Apart caller number event next) (howns : next.Owns caller number) :
    next.Unopened caller number (host.account caller number passage event next) := by
  obtain ⟨connection, hconnection, hwritten⟩ := h.client
  obtain ⟨after, hafter, hsame, -⟩ := happart.client connection hconnection
  obtain ⟨task, htask, hbare⟩ := h.task
  have hstays : ∃ task, next.tasks[caller]? = some task ∧ IsBare number task := by
    obtain ⟨verdict, hheard⟩ | hmarked := happart.task task htask
    · exact ⟨_, hheard, by cases hbare <;> constructor; assumption⟩
    · exact ⟨_, hmarked, by cases hbare <;> constructor; assumption⟩
  obtain ⟨later, hlater, hstill⟩ := hstays
  exact
    { passage := h.account_eq hlater hstill (happart.reads hconnection)
      owns := howns
      client := ⟨after, hafter, hsame ▸ hwritten⟩
      task := ⟨later, hlater, hstill⟩ }

theorem bridged_of_opens (hfooting : host.Footing limit) (howns : next.Owns caller number)
    {eager : Bool} (hhappened : host.Happened (.step (.turn eager caller)) next) {port : UInt16}
    {channel : Channel} {connection : Connection} {forward : Forward}
    (hopens : host.channel.Opens id port .forwarded channel) (hbooks : next.Books channel)
    (hclient : next.clients[number]? = some connection) (hwritten : connection.written.flatten = [])
    (hforward : forward = { Forward.create port with
      stats := { session := id, bytesOut := 0, bytesIn := 0 }
      endpoint := some host.channel.endpoints.length
      stage := .listening })
    (hself : next.tasks[caller]? = some (.working (.forward number forward) false)) :
    next.Bridged caller number limit id host.channel.endpoints.length
      (Passage.begun.advance (next.sessionOf? caller) [] host.channel next.channel) := by
  have hsession : next.sessionOf? caller = some id := by
    rw [sessionOf?, hself, hforward]
    rfl
  have hfind : next.channel.sessions.find? id =
      some (.create port host.channel.endpoints.length) := by
    rw [hbooks.sessions, hopens.sessions, Sessions.find?_insert, if_pos rfl]
  have hadvance : Passage.begun.advance (next.sessionOf? caller) [] host.channel next.channel =
      { Passage.begun with session := some id } := by
    rw [hsession]
    simp [Passage.advance, Passage.begun, hfind, Session.create]
  rw [hadvance]
  exact
    { counted := by
        rw [hbooks.nextSession]
        exact hopens.counted
      placed := by
        refine ⟨[], ?_⟩
        rw [hbooks.endpoints]
        simp [Channel.ledger, hopens.endpoints, Endpoint.create]
      owns := howns
      unshared := by
        intro other used later aborted htask hne hstage
        cases hhappened.origin htask with
        | stays hbefore =>
            have hstands := hfooting.forwards.stands other used later _ hbefore
            rintro rfl
            exact absurd (hstands.opened hstage).2 (Nat.not_lt.mpr hopens.fresh)
        | turns => exact absurd rfl hne
      right := by
        refine ⟨rfl, fun session hsome => ?_, rfl, List.forall_mem_nil _, List.prefix_rfl⟩
        cases hfind.symm.trans hsome
        rfl
      progress := by
        subst hforward
        refine .goes hself ⟨hclient, rfl, rfl, by simp, ⟨rfl, fun _ => rfl, by simp⟩, ?_⟩
        exact ⟨Nat.zero_le _, hwritten, rfl⟩ }

theorem turn (h : host.Unopened caller number passage) (hfooting : host.Footing limit)
    (howns : next.Owns caller number) {eager : Bool}
    (hhappened : host.Happened (.step (.turn eager caller)) next)
    (htask : host.tasks[caller]? = some (.working job aborted))
    (htook : host.Took caller job (host.workOf eager caller job aborted).1
      (host.workOf eager caller job aborted).2 next) :
    let books := host.account caller number passage (.step (.turn eager caller)) next
    next.Unopened caller number books ∨
      ∃ id place, next.Bridged caller number limit id place books := by
  intro books
  obtain ⟨connection, hconnection, hwritten⟩ := h.client
  obtain ⟨task, hbefore, hbare⟩ := h.task
  cases hbefore.symm.trans htask
  -- Nothing is read or written before there is a session.
  have hreads {later : Connection} (hlater : next.clients[number]? = some later)
      (hclient : connection.SameBytes later) :
      host.reads number (.step (.turn eager caller)) next = [] := by
    simp only [Host.reads, hconnection, hlater]
    exact hclient.consumed
  have hstill {later : Connection} {task : HostTask} (hlater : next.clients[number]? = some later)
      (hclient : connection.SameBytes later) (hself : next.tasks[caller]? = some task)
      (hbare : IsBare number task) : next.Unopened caller number books :=
    { passage := h.account_eq hself hbare (hreads hlater hclient)
      owns := howns
      client := ⟨later, hlater, hclient.written ▸ hwritten⟩
      task := ⟨task, hself, hbare⟩ }
  cases hbare with
  | working port =>
      cases aborted with
      | true =>
          obtain ⟨verdict, hself⟩ := htook.task
          have hclients : next.clients[number]? = some connection := by
            rw [htook.clients]
            exact hconnection
          exact .inl (hstill hclients (.refl _) hself (.ended (by simp)))
      | false =>
          obtain ⟨after, hmoves, hbooks, hclients, hself⟩ := htook.moves hconnection
          have hlater : next.clients[number]? = some after.2.2 := by
            rw [hclients]
            exact List.getElem?_set_self h.lt_length
          obtain ⟨turn, channel, rfl, -, rfl | ⟨error, rfl⟩⟩ |
            ⟨id, channel, hopens, rfl⟩ := hmoves.of_opening rfl
          · exact .inl (hstill hlater (.refl _) hself (.working port false))
          · exact .inl (hstill hlater (.refl _) hself (.ended (by simp [Outcome.ofForward])))
          · refine .inr ⟨id, host.channel.endpoints.length, ?_⟩
            have hnone := hreads hlater (.refl _)
            simp only [books, account, h.passage, hnone]
            exact bridged_of_opens hfooting howns hhappened hopens hbooks hlater hwritten rfl hself

theorem happened (h : host.Unopened caller number passage) (hfooting : host.Footing limit)
    (hkeeps : event.KeepsWritten) (hhappened : host.Happened event next) :
    let books := host.account caller number passage event next
    next.Unopened caller number books ∨
      ∃ id place, next.Bridged caller number limit id place books := by
  have howns := h.owns.happened h.lt_length hhappened
  obtain happart | ⟨eager, job, aborted, rfl, htask, htook⟩ :=
    hhappened.apart_or_turn h.owns hkeeps
  · exact .inl (h.apart happart howns)
  · exact h.turn hfooting howns hhappened htask htook

theorem outcome (h : host.Unopened caller number passage) (stats : ForwardStats) :
    host.outcome? caller ≠ some (.forwarded stats) := by
  obtain ⟨task, htask, hbare⟩ := h.task
  rw [outcome?, htask]
  cases hbare with
  | working => simp
  | ended houtcome =>
      intro heq
      exact houtcome stats (Option.some.inj heq)

end Unopened

theorem follow_session (hsession : passage.session = some id) (events : List Event) :
    (host.follow caller number passage events).session = some id := by
  induction events generalizing host passage with
  | nil => exact hsession
  | cons event events ih => exact ih (by simp [account, Passage.advance, hsession])

theorem Unopened.run (h : host.Unopened caller number passage) (hfooting : host.Footing limit)
    (hpositive : 1 ≤ limit) (events : List Event) (hkeeps : ∀ event ∈ events, event.KeepsWritten) :
    let last := events.foldl happen host
    let books := host.follow caller number passage events
    last.Unopened caller number books ∨ ∃ id, books.session = some id ∧
      (host.Mute id → (∀ event ∈ events, event.sendsOn? ≠ some id) →
        last.ledger.owners.count id ≤ 1 →
          ∃ place, last.Bridged caller number limit id place books) := by
  induction events generalizing host passage with
  | nil => exact .inl h
  | cons event events ih =>
      rw [List.forall_mem_cons] at hkeeps
      have hhappened := host.happened_happen event
      obtain hstill | ⟨id, place, hbridged⟩ := h.happened hfooting hkeeps.1 hhappened
      · obtain hlast | ⟨id, hsession, hbridged⟩ := ih hstill (hfooting.happen event) hkeeps.2
        · exact .inl hlast
        · refine .inr ⟨id, hsession, fun hmute hsends hsingle => ?_⟩
          rw [List.forall_mem_cons] at hsends
          exact hbridged (hmute.happened hsends.1 hhappened) hsends.2 hsingle
      · refine .inr ⟨id, follow_session hbridged.right.session events,
          fun hmute hsends hsingle => ?_⟩
        rw [List.forall_mem_cons] at hsends
        exact ⟨place, hbridged.run (hfooting.happen event) hpositive
          (hmute.happened hsends.1 hhappened) events hkeeps.2 hsends.2 hsingle⟩

/-! ### From the beginning -/

inductive Begun : Host → Prop
  | create (config : ChannelConfig) (depth : Nat) (reception : Reception) :
      Begun (create config depth reception)
  | overStream (config : ChannelConfig) (reception : Reception) :
      Begun (overStream config reception)
  | overDatagrams (config : ChannelConfig) (reception : Reception) :
      Begun (overDatagrams config reception)

/-- At first there is nobody but a writer and a reader. -/
theorem Begun.crew (h : host.Begun)
    (htask : host.tasks[caller]? = some (.working job aborted)) :
    job.isWriter = true ∨ job.isReader = true := by
  cases h with
  | create => cases htask
  | overStream | overDatagrams =>
      rcases caller with _ | _ | caller <;> cases htask
      · exact .inl rfl
      · exact .inr rfl

theorem Begun.footing (h : host.Begun) : host.Footing host.channel.config.maxPayload where
  fitting := by
    cases h with
    | create config depth reception => exact fitting_create config depth reception
    | overStream config reception => exact fitting_overStream config reception
    | overDatagrams config reception =>
        exact ((fitting_create config.overDatagrams queueDepth reception).spawn
          (Job.fits_of_inHand? rfl)).spawn (Job.fits_of_inHand? rfl)
  forwards := by
    constructor <;> intro caller number forward aborted htask <;> cases h.crew htask <;>
      contradiction
  numbered := by
    cases h <;> exact ⟨fun _ hmem => absurd hmem List.not_mem_nil, List.Pairwise.nil⟩
  dataless := by
    cases h <;> rfl

theorem Begun.mute (h : host.Begun) (id : UInt32) : host.Mute id := by
  intro caller payload stage aborted htask
  cases h.crew htask <;> contradiction

theorem unopened_startForward (h : host.Forwards) (port : UInt16) :
    (host.startForward port).Unopened host.tasks.length host.clients.length .begun where
  passage := rfl
  owns := fun other used forward aborted htask hne => by
    have hbound : other < host.tasks.length := by
      have hlast := (List.getElem?_eq_some_iff.mp htask).1
      simp only [startForward, spawn, List.length_append, List.length_singleton] at hlast
      exact Nat.lt_of_le_of_ne (Nat.le_of_lt_succ hlast) hne
    refine Nat.ne_of_lt (h.client other used forward aborted ?_)
    rw [← htask]
    exact (List.getElem?_append_left hbound).symm
  client := ⟨.fresh, List.getElem?_concat_length, rfl⟩
  task := ⟨_, List.getElem?_concat_length, .working port false⟩

theorem Mute.run (h : host.Mute id) (events : List Event)
    (hsends : ∀ event ∈ events, event.sendsOn? ≠ some id) :
    (events.foldl Host.happen host).Mute id := by
  induction events generalizing host with
  | nil => exact h
  | cons event events ih =>
      rw [List.forall_mem_cons] at hsends
      exact ih (h.happened hsends.1 (host.happened_happen event)) hsends.2

theorem length_clients_run (host : Host) (events : List Event) :
    host.clients.length ≤ (events.foldl Host.happen host).clients.length := by
  induction events generalizing host with
  | nil => exact Nat.le_refl _
  | cons event events ih => exact (host.happened_happen event).length_clients.trans (ih _)

/-- **Both streams are kept intact.** Whatever happens before a forward is started and afterwards:
the payloads that are put into the queue for its session make up a prefix of what was read from its
local connection, each of them in a size in which it reads, and what was written to the connection
is a prefix of what the session has heard. Neither may the peer open the session, nor the
application send on it. When the forward succeeds, it has counted all that it sent, as the session
has, and all that it wrote but for a part of one payload. Without a session, nothing is read or
written, and the forward does not succeed. -/
theorem forward_keeps_streams {begun : Host} (hbegun : begun.Begun)
    (hpayload : 1 ≤ begun.channel.config.maxPayload) (port : UInt16) (before after : List Event)
    (hkeeps : ∀ event ∈ after, event.KeepsWritten) :
    let started := before.foldl happen begun
    let caller := started.tasks.length
    let number := started.clients.length
    let forwarding := started.happen (.step (.forward port))
    let last := after.foldl happen forwarding
    let books := forwarding.follow caller number .begun after
    ∃ connection, last.clients[number]? = some connection ∧
      (books.session = none → books.read = [] ∧ books.carried = [] ∧
        connection.written.flatten = [] ∧ ∀ stats, last.outcome? caller ≠ some (.forwarded stats)) ∧
      ∀ id, books.session = some id → (∀ event ∈ before ++ after, event.sendsOn? ≠ some id) →
        (∀ endpoint ∈ last.channel.endpoints, endpoint.session = id → endpoint.inbound = false) →
        books.carried.flatten <+: books.read ∧
          (∀ payload ∈ books.carried, payload ≠ [] ∧
            payload.length ≤ min 16384 begun.channel.config.maxPayload) ∧
          connection.written.flatten <+: (last.channel.heard id).flatten ∧
          ∀ stats, last.outcome? caller = some (.forwarded stats) →
            stats.session = id ∧ stats.bytesOut = volume books.carried ∧
              stats.bytesOut = books.bytesOut ∧
              ∃ front part, connection.written.flatten = front.flatten ++ part ∧
                stats.bytesIn = volume front ∧
                (part = [] ∧ front <+: last.channel.heard id ∨
                  ∃ rest, rest ≠ [] ∧ front ++ [part ++ rest] <+: last.channel.heard id) := by
  intro started caller number forwarding last books
  have hfooting : started.Footing begun.channel.config.maxPayload := hbegun.footing.run before
  have hforwarding : forwarding.Footing begun.channel.config.maxPayload := hfooting.happen _
  have hunopened : forwarding.Unopened caller number .begun :=
    unopened_startForward hfooting.forwards port
  have hnumber : number < last.clients.length :=
    Nat.lt_of_lt_of_le hunopened.lt_length (forwarding.length_clients_run after)
  refine ⟨last.clients[number], List.getElem?_eq_getElem hnumber, fun hnone => ?_,
    fun id hsome hsends hours => ?_⟩
  · obtain hlast | ⟨id, hsession, -⟩ := hunopened.run hforwarding hpayload after hkeeps
    · obtain ⟨connection, hconnection, hwritten⟩ := hlast.client
      cases (List.getElem?_eq_getElem hnumber).symm.trans hconnection
      have hbegun : books = .begun := hlast.passage
      rw [hbegun]
      exact ⟨rfl, rfl, hwritten, hlast.outcome⟩
    · cases hnone.symm.trans hsession
  · obtain hlast | ⟨other, hsession, hbridged⟩ :=
      hunopened.run hforwarding hpayload after hkeeps
    · have hbegun : books = .begun := hlast.passage
      rw [hbegun] at hsome
      cases hsome
    · cases hsome.symm.trans hsession
      rw [List.forall_mem_append] at hsends
      have hmute : forwarding.Mute id :=
        ((hbegun.mute id).run before hsends.1).happened (by simp [Event.sendsOn?])
          (started.happened_happen _)
      have hsingle := (hforwarding.run after).single hours
      obtain ⟨place, hlast⟩ := hbridged hmute hsends.2 hsingle
      exact hlast.kept hsingle (List.getElem?_eq_getElem hnumber)

/-- The local side sends six bytes, and fails while a payload is written to it. -/
theorem forward_keeps_streams_of_failed_write :
    let begun := create { (default : ChannelConfig) with maxPayload := 4 } 8
      { rules := [], accepting := true }
    let after : List Event := [.step (.turn true 0),
      .step (.line (.client 0) (·.arrive (.piece [1, 2, 3, 4, 5, 6]))), .step (.turn true 0),
      .step (.turn true 0), .step (.turn true 0), .step (.turn true 0),
      .hear { port := 80, session := 1, body := .data [7, 8, 9] } (.ok .queue),
      .step (.line (.client 0) ({ · with writeLimit := some 2 })), .step (.turn true 0),
      .step (.turn true 0),
      .step (.line (.client 0) ({ · with writeFault := some (.custom .brokenPipe "broken pipe") })),
      .step (.turn true 0), .step (.turn true 0), .step (.turn true 0)]
    let forwarding := begun.happen (.step (.forward 80))
    let last := after.foldl happen forwarding
    let books := forwarding.follow 0 0 .begun after
    last.outcome? 0 = some (.forwarded { session := 1, bytesOut := 6, bytesIn := 0 }) ∧
      books.carried = [[1, 2, 3, 4], [5, 6]] ∧ books.carried.flatten <+: books.read ∧
      last.clients[0]?.map (·.written) = some [[7, 8]] ∧
      ∃ front rest, volume front = 0 ∧ rest ≠ [] ∧
        front ++ [[7, 8] ++ rest] <+: last.channel.heard 1 := by
  intro begun after forwarding last books
  have hkeeps : ∀ event ∈ after, event.KeepsWritten := by
    simp only [after, List.forall_mem_cons, Event.KeepsWritten]
    exact ⟨trivial, fun _ => rfl, trivial, trivial, trivial, trivial, trivial, fun _ => trivial,
      trivial, trivial, fun _ => trivial, trivial, trivial, trivial, List.forall_mem_nil _⟩
  have hsends : ∀ event ∈ [] ++ after, event.sendsOn? ≠ some 1 := by decide
  have hours : ∀ endpoint ∈ last.channel.endpoints, endpoint.session = 1 →
      endpoint.inbound = false := by decide
  have hsession : books.session = some 1 := by decide
  have hcarried : books.carried = [[1, 2, 3, 4], [5, 6]] := by decide
  have houtcome : last.outcome? 0 =
      some (.forwarded { session := 1, bytesOut := 6, bytesIn := 0 }) := by decide
  have hwritten : last.clients[0]?.map (·.written) = some [[7, 8]] := by decide
  have hbegun : begun.Begun := .create _ _ _
  have hresult := forward_keeps_streams hbegun (by decide) 80 [] after hkeeps
  have htasks : begun.tasks.length = 0 := rfl
  have hclients : begun.clients.length = 0 := rfl
  have hforwarding : begun.happen (.step (.forward 80)) = forwarding := rfl
  have hlast : after.foldl happen forwarding = last := rfl
  have hbooks : forwarding.follow 0 0 .begun after = books := rfl
  simp only [List.foldl_nil, htasks, hclients, hforwarding, hlast, hbooks] at hresult
  -- From here on, nothing is to be evaluated any more.
  clear_value books last forwarding after begun
  obtain ⟨connection, hconnection, -, hkept⟩ := hresult
  obtain ⟨hintact, -, -, hstats⟩ := hkept 1 hsession hsends hours
  obtain ⟨-, -, -, front, part, hsplit, hcount, hpart⟩ := hstats _ houtcome
  refine ⟨houtcome, hcarried, hintact, hwritten, front, ?_⟩
  have hnone : front.flatten = [] := List.eq_nil_of_length_eq_zero hcount.symm
  have hpieces : connection.written = [[7, 8]] := by
    rw [hconnection] at hwritten
    exact Option.some.inj hwritten
  rw [hpieces, hnone, List.nil_append] at hsplit
  obtain rfl : [7, 8] = part := hsplit
  obtain ⟨hempty, -⟩ | ⟨rest, hrest, hprefix⟩ := hpart
  · cases hempty
  · exact ⟨rest, hcount.symm, hrest, hprefix⟩

end SessionMux.Host
