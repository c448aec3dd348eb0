import SessionMux.Proofs.Forward.Draining
import SessionMux.Proofs.Host.Forwarding

/-!
# What becomes of the payloads of a forward

A forward whose local side goes on, and whose peer reports no error, is followed from its start
through everything that can happen to its host. If it succeeds, all payloads that its endpoint was
told before the close were written (`Host.forward_drains`). A close of the channel that it notices
because it has something to send makes it fail instead, with payloads left over that were not
written (`Host.forward_cut_off`).
-/

namespace SessionMux.Host

def Event.KeepsOpen (number : Nat) : Event → Prop
  | .step (.line (.client used) change) =>
    used = number → ∀ connection, connection.IsOpen → (change connection).IsOpen
  | _ => True

def endpointOf? (host : Host) (caller : Caller) : Option Nat :=
  match host.tasks[caller]? with
  | some (.working (.forward _ forward) _) => forward.endpoint
  | _ => none

/-- The endpoint that a forward gets in a run, if it comes to open its session. -/
def bridge? (host : Host) (caller : Caller) : List Event → Option Nat
  | [] => host.endpointOf? caller
  | event :: events => (host.endpointOf? caller).or ((host.happen event).bridge? caller events)

def CutOff (host : Host) (caller : Caller) (number : Nat) (error : ChannelError)
    (events : List Event) : Prop :=
  ∃ front eager rear forward, events = front ++ .step (.turn eager caller) :: rear ∧
    (front.foldl happen host).tasks[caller]? = some (.working (.forward number forward) false) ∧
    forward.CutsOff (front.foldl happen host).channel error

variable {host next : Host} {caller : Caller} {number limit place : Nat} {event : Event}
  {events : List Event} {forward : Forward} {connection : Connection} {outcome : Outcome}
  {error : ChannelError} {aborted : Bool}

theorem bridge?_of_endpointOf? (hopened : host.endpointOf? caller = some place)
    (events : List Event) : host.bridge? caller events = some place := by
  cases events with
  | nil => exact hopened
  | cons event events => rw [bridge?, hopened, Option.some_or]

theorem CutOff.cons (h : (host.happen event).CutOff caller number error events) :
    host.CutOff caller number error (event :: events) := by
  obtain ⟨front, eager, rear, forward, rfl, htask, hcut⟩ := h
  exact ⟨event :: front, eager, rear, forward, rfl, htask, hcut⟩

/-! ### Events in which the forward takes no turn -/

theorem Event.isOpen_of_changeClients {clients : List Connection}
    (hkeeps : event.KeepsOpen number) (hconnection : clients[number]? = some connection)
    (hopen : connection.IsOpen) :
    ∃ after, (event.changeClients clients)[number]? = some after ∧ after.IsOpen := by
  cases event with
  | step step =>
      cases step with
      | forward port =>
          have hnumber := (List.getElem?_eq_some_iff.mp hconnection).1
          exact ⟨connection, (List.getElem?_append_left hnumber).trans hconnection, hopen⟩
      | line line change =>
          cases line with
          | wire => exact ⟨connection, hconnection, hopen⟩
          | client used =>
              refine ⟨if used = number then change connection else connection, ?_, ?_⟩
              · exact (List.getElem?_modify _ _ _ _).trans (by rw [hconnection]; rfl)
              · split
                · rename_i hused
                  exact hkeeps hused connection hopen
                · exact hopen
      | call | awaitClose | abort | turn | advance | silence | stopAccepting | letGo | close
      | fail => exact ⟨connection, hconnection, hopen⟩
  | hear | take | abandon => exact ⟨connection, hconnection, hopen⟩

/-- What a forward finds after an event in which it took no turn: its task as it was, and its local
side as open as it was. -/
structure Leaves (host : Host) (caller : Caller) (number : Nat) (event : Event) (next : Host) :
    Prop where
  apart : host.Apart caller number event next
  isOpen : ∀ connection, host.clients[number]? = some connection → connection.IsOpen →
    ∃ after, next.clients[number]? = some after ∧ after.IsOpen

theorem Happened.leaves_or_turn (h : host.Happened event next) (howns : host.Owns caller number)
    (hwritten : event.KeepsWritten) (hopen : event.KeepsOpen number) :
    host.Leaves caller number event next ∨
      ∃ eager job aborted, event = .step (.turn eager caller) ∧
        host.tasks[caller]? = some (.working job aborted) ∧
          host.Took caller job (host.workOf eager caller job aborted).1
            (host.workOf eager caller job aborted).2 next := by
  cases h with
  | @turns eager taker job aborted _ htask htook hyields =>
      by_cases hne : caller = taker
      · subst hne
        exact .inr ⟨eager, job, aborted, rfl, htask, htook⟩
      · refine .inl ⟨htook.apart hne htask hyields howns, fun connection hconnection hstill => ?_⟩
        have hsame : next.clients[number]? = _ := htook.clients_of_ne fun used forward hjob =>
          howns taker used forward aborted (hjob ▸ htask) (Ne.symm hne)
        exact ⟨connection, hsame.trans hconnection, hstill⟩
  | lets hlets =>
      refine .inl ⟨hlets.apart hwritten, fun connection hconnection hstill => ?_⟩
      rw [hlets.clients]
      exact Event.isOpen_of_changeClients hopen hconnection hstill

/-! ### A forward at work, and one that has ended -/

structure Draining (host : Host) (caller : Caller) (number limit place : Nat) (forward : Forward)
    (aborted : Bool) (connection : Connection) : Prop where
  owns : host.Owns caller number
  task : host.tasks[caller]? = some (.working (.forward number forward) aborted)
  client : host.clients[number]? = some connection
  endpoint : forward.endpoint = some place
  drains : forward.Drains limit (host.channel.toldAt place) connection

structure Drained (host : Host) (caller : Caller) (number place : Nat) (outcome : Outcome)
    (connection : Connection) : Prop where
  owns : host.Owns caller number
  task : host.tasks[caller]? = some (.over outcome)
  client : host.clients[number]? = some connection
  finished : ∀ stats, outcome = .forwarded stats → ∃ (payloads : List Bytes) (later : _),
    host.channel.toldAt place = payloads.map .data ++ .closed :: later ∧
      connection.written.flatten = payloads.flatten ∧ stats.bytesIn = volume payloads
  broken : ∀ error, outcome = .failed error → ∃ (payloads : List Bytes) (later : _),
    host.channel.toldAt place = payloads.map .data ++ later ∧
      connection.written.flatten = payloads.flatten

theorem Draining.lt_length
    (h : host.Draining caller number limit place forward aborted connection) :
    number < host.clients.length := (List.getElem?_eq_some_iff.mp h.client).1

theorem Draining.bridge?
    (h : host.Draining caller number limit place forward aborted connection) :
    host.bridge? caller events = some place := by
  refine bridge?_of_endpointOf? ?_ events
  rw [Host.endpointOf?, h.task]
  exact h.endpoint

theorem Draining.leaves (h : host.Draining caller number limit place forward aborted connection)
    (hleaves : host.Leaves caller number event next) (hhappened : host.Happened event next) :
    ∃ marked after, next.Draining caller number limit place forward marked after := by
  obtain ⟨more, hmore⟩ := Channel.toldAt_of_extends hhappened.extends place
  obtain ⟨after, hafter, hopen⟩ := hleaves.isOpen connection h.client h.drains.isOpen
  obtain ⟨same, hsame, hwritten, -⟩ := hleaves.apart.client connection h.client
  cases hafter.symm.trans hsame
  have hdrains : forward.Drains limit (next.channel.toldAt place) after :=
    hmore ▸ h.drains.append more hwritten hopen
  have howns := h.owns.happened h.lt_length hhappened
  obtain ⟨verdict, hheard⟩ | hmarked := hleaves.apart.task _ h.task
  · exact ⟨_, _, howns, hheard, hafter, h.endpoint, hdrains⟩
  · exact ⟨_, _, howns, hmarked, hafter, h.endpoint, hdrains⟩

theorem Drained.happened (h : host.Drained caller number place outcome connection)
    (hhappened : host.Happened event next) (hwritten : event.KeepsWritten) :
    ∃ after, next.Drained caller number place outcome after := by
  have hnumber := (List.getElem?_eq_some_iff.mp h.client).1
  obtain ⟨more, hmore⟩ := Channel.toldAt_of_extends hhappened.extends place
  obtain happart | ⟨eager, job, aborted, -, htask, -⟩ := hhappened.apart_or_turn h.owns hwritten
  · obtain ⟨after, hafter, hsame, -⟩ := happart.client connection h.client
    have hover : next.tasks[caller]? = some (.over outcome) :=
      (happart.task _ h.task).elim (fun ⟨_, hheard⟩ => hheard) id
    refine ⟨after, h.owns.happened hnumber hhappened, hover, hafter, fun stats heq => ?_,
      fun error heq => ?_⟩
    · obtain ⟨payloads, later, htold, hbytes, hcount⟩ := h.finished stats heq
      refine ⟨payloads, later ++ more, ?_, hsame ▸ hbytes, hcount⟩
      rw [hmore, htold, List.append_assoc, List.cons_append]
    · obtain ⟨payloads, later, htold, hbytes⟩ := h.broken error heq
      refine ⟨payloads, later ++ more, ?_, hsame ▸ hbytes⟩
      rw [hmore, htold, List.append_assoc]
  · cases h.task.symm.trans htask

theorem Drained.run (h : host.Drained caller number place outcome connection)
    (events : List Event) (hwritten : ∀ event ∈ events, event.KeepsWritten) :
    ∃ after, (events.foldl happen host).Drained caller number place outcome after := by
  induction events generalizing host connection with
  | nil => exact ⟨connection, h⟩
  | cons event events ih =>
      rw [List.forall_mem_cons] at hwritten
      obtain ⟨after, hnext⟩ := h.happened (host.happened_happen event) hwritten.1
      exact ih hnext hwritten.2

/-! ### The turns of the forward -/

theorem Draining.turn (h : host.Draining caller number limit place forward aborted connection)
    (hfooting : host.Footing limit) (hquiet : ∀ code, .error code ∉ host.channel.toldAt place)
    {eager : Bool} (hhappened : host.Happened (.step (.turn eager caller)) next)
    (htook : host.Took caller (.forward number forward)
      (host.workOf eager caller (.forward number forward) aborted).1
      (host.workOf eager caller (.forward number forward) aborted).2 next) :
    (∃ later after, next.Draining caller number limit place later false after) ∨
      ∃ outcome after, next.Drained caller number place outcome after ∧
        ∀ error, outcome = .failed error →
          aborted = false ∧ forward.CutsOff host.channel error := by
  have howns := h.owns.happened h.lt_length hhappened
  obtain ⟨more, hmore⟩ := Channel.toldAt_of_extends hhappened.extends place
  cases aborted with
  | true =>
      obtain ⟨verdict, hself⟩ := htook.task
      have hclient : next.clients[number]? = some connection := by
        rw [htook.clients]
        exact h.client
      exact .inr ⟨.aborted, connection, ⟨howns, hself, hclient, nofun, nofun⟩, nofun⟩
  | false =>
      obtain ⟨⟨turn, channel, after⟩, hmoves, hbooks, hclients, hself⟩ := htook.moves h.client
      have hclient : next.clients[number]? = some after := by
        rw [hclients]
        exact List.getElem?_set_self h.lt_length
      have htold := forward.told_of_endpoint h.endpoint host.channel
      obtain ⟨hgoes, hends⟩ := hmoves.drains hfooting.fitting.channel.limit_eq
        (htold ▸ h.drains) (htold ▸ hquiet)
      have hnext {later : Forward} (hlater : turn.next? = some later)
          (hself : next.tasks[caller]? = some (.working (.forward number later) false)) :
          next.Draining caller number limit place later false after := by
        have hplace := (hmoves.keeps h.drains.opened hlater).2.1.trans h.endpoint
        refine ⟨howns, hself, hclient, hplace, ?_⟩
        rw [hbooks.toldAt, ← later.told_of_endpoint hplace]
        exact hgoes later hlater
      cases turn with
      | waits later | goes later => exact .inl ⟨later, after, hnext rfl hself⟩
      | ends result =>
          obtain ⟨hwritten, hstage, hok, herror⟩ := hends result rfl
          obtain ⟨payloads, others, hsplit, hhead, hbytes, hcount⟩ := h.drains.written hstage
          rw [hsplit] at hmore
          refine .inr ⟨.ofForward result, after, ⟨howns, hself, hclient, fun stats heq => ?_,
            fun error heq => ?_⟩, fun error heq => ⟨rfl, ?_⟩⟩
          · cases result <;> cases heq
            obtain ⟨rfl, hclosed⟩ := hok _ rfl
            obtain ⟨later, rfl⟩ := List.head?_eq_some_iff.mp (hhead.trans (htold ▸ hclosed))
            exact ⟨payloads, later ++ more, by rw [hmore, List.append_assoc, List.cons_append],
              hwritten.trans hbytes, hcount⟩
          · cases result <;> cases heq
            exact ⟨payloads, others ++ more, by rw [hmore, List.append_assoc],
              hwritten.trans hbytes⟩
          · cases result <;> cases heq
            exact herror _ rfl

inductive Fared (host : Host) (caller : Caller) (number limit place : Nat) (events : List Event)
    (last : Host) : Prop
  | works {forward : Forward} {aborted : Bool} {connection : Connection}
      (h : last.Draining caller number limit place forward aborted connection) :
      Fared host caller number limit place events last
  | ends {outcome : Outcome} {connection : Connection}
      (h : last.Drained caller number place outcome connection)
      (hcut : ∀ error, outcome = .failed error → host.CutOff caller number error events) :
      Fared host caller number limit place events last

theorem Fared.cons {last : Host}
    (h : (host.happen event).Fared caller number limit place events last) :
    host.Fared caller number limit place (event :: events) last := by
  cases h with
  | works h => exact .works h
  | ends h hcut => exact .ends h fun error heq => (hcut error heq).cons

/-- Nothing that an endpoint was told is taken back. -/
theorem quiet_of_run
    (hquiet : ∀ code, .error code ∉ (events.foldl happen host).channel.toldAt place)
    (code : ErrorCode) : .error code ∉ host.channel.toldAt place := by
  obtain ⟨more, hmore⟩ := Channel.toldAt_of_extends (host.extends_run events) place
  exact fun hmem => hquiet code (hmore ▸ List.mem_append_left _ hmem)

theorem Draining.run (h : host.Draining caller number limit place forward aborted connection)
    (hfooting : host.Footing limit)
    (hkeeps : ∀ event ∈ events, event.KeepsWritten ∧ event.KeepsOpen number)
    (hquiet : ∀ code, .error code ∉ (events.foldl happen host).channel.toldAt place) :
    host.Fared caller number limit place events (events.foldl happen host) := by
  induction events generalizing host forward aborted connection with
  | nil => exact .works h
  | cons event events ih =>
      rw [List.forall_mem_cons] at hkeeps
      have hhappened := host.happened_happen event
      obtain hleaves | ⟨eager, job, marked, rfl, htask, htook⟩ :=
        hhappened.leaves_or_turn h.owns hkeeps.1.1 hkeeps.1.2
      · obtain ⟨marked, after, hnext⟩ := h.leaves hleaves hhappened
        exact (ih hnext (hfooting.happen event) hkeeps.2 hquiet).cons
      · cases h.task.symm.trans htask
        obtain ⟨later, after, hnext⟩ | ⟨outcome, after, hover, hcut⟩ :=
          h.turn hfooting (quiet_of_run hquiet) hhappened htook
        · exact (ih hnext (hfooting.happen _) hkeeps.2 hquiet).cons
        · obtain ⟨last, hlast⟩ := hover.run events fun event hmem => (hkeeps.2 event hmem).1
          refine .ends hlast fun error heq => ?_
          obtain ⟨rfl, hsending⟩ := hcut error heq
          exact ⟨[], eager, events, forward, rfl, h.task, hsending⟩

/-! ### A forward that has no session yet -/

structure Bare (host : Host) (caller : Caller) (number : Nat) : Prop where
  owns : host.Owns caller number
  client : ∃ connection, host.clients[number]? = some connection ∧ connection.IsOpen ∧
    connection.written.flatten = []
  task : ∃ task, host.tasks[caller]? = some task ∧ IsBare number task

namespace Bare

theorem endpointOf? (h : host.Bare caller number) : host.endpointOf? caller = none := by
  obtain ⟨task, htask, hbare⟩ := h.task
  rw [Host.endpointOf?, htask]
  cases hbare <;> rfl

theorem lt_length (h : host.Bare caller number) : number < host.clients.length := by
  obtain ⟨connection, hconnection, -⟩ := h.client
  exact (List.getElem?_eq_some_iff.mp hconnection).1

theorem leaves (h : host.Bare caller number) (hleaves : host.Leaves caller number event next)
    (hhappened : host.Happened event next) : next.Bare caller number where
  owns := h.owns.happened h.lt_length hhappened
  client := by
    obtain ⟨connection, hconnection, hopen, hwritten⟩ := h.client
    obtain ⟨after, hafter, hstill⟩ := hleaves.isOpen connection hconnection hopen
    obtain ⟨same, hsame, hkept, -⟩ := hleaves.apart.client connection hconnection
    cases hafter.symm.trans hsame
    exact ⟨after, hafter, hstill, hkept ▸ hwritten⟩
  task := by
    obtain ⟨task, htask, hbare⟩ := h.task
    obtain ⟨verdict, hheard⟩ | hmarked := hleaves.apart.task task htask
    · exact ⟨_, hheard, by cases hbare <;> constructor; assumption⟩
    · exact ⟨_, hmarked, by cases hbare <;> constructor; assumption⟩

theorem turn (h : host.Bare caller number) {job : Job} {eager : Bool}
    (htask : host.tasks[caller]? = some (.working job aborted))
    (hhappened : host.Happened (.step (.turn eager caller)) next)
    (htook : host.Took caller job (host.workOf eager caller job aborted).1
      (host.workOf eager caller job aborted).2 next) :
    next.Bare caller number ∨ ∃ place forward connection,
      next.Draining caller number limit place forward false connection := by
  have howns := h.owns.happened h.lt_length hhappened
  obtain ⟨connection, hconnection, hopen, hwritten⟩ := h.client
  obtain ⟨task, hbefore, hbare⟩ := h.task
  cases hbefore.symm.trans htask
  cases hbare with
  | working port =>
      cases aborted with
      | true =>
          obtain ⟨verdict, hself⟩ := htook.task
          have hclient : next.clients[number]? = some connection := by
            rw [htook.clients]
            exact hconnection
          exact .inl ⟨howns, ⟨connection, hclient, hopen, hwritten⟩, _, hself, .ended (by simp)⟩
      | false =>
          obtain ⟨after, hmoves, hbooks, hclients, hself⟩ := htook.moves hconnection
          have hclient : next.clients[number]? = some after.2.2 := by
            rw [hclients]
            exact List.getElem?_set_self h.lt_length
          have hbare {task : HostTask} (hsame : after.2.2 = connection)
              (hself : next.tasks[caller]? = some task) (htask : IsBare number task) :
              next.Bare caller number :=
            ⟨howns, ⟨_, hclient, hsame ▸ hopen, hsame ▸ hwritten⟩, task, hself, htask⟩
          obtain ⟨turn, channel, rfl, -, rfl | ⟨error, rfl⟩⟩ | ⟨session, channel, -, rfl⟩ :=
            hmoves.of_opening rfl
          · exact .inl (hbare rfl hself (.working port false))
          · exact .inl (hbare rfl hself (.ended (by simp [Outcome.ofForward])))
          · exact .inr ⟨_, _, _, howns, hself, hclient, rfl, by simp, id, by simp,
              ⟨Nat.zero_le _, hwritten, rfl⟩, ⟨[], rfl⟩, hopen⟩

theorem run (h : host.Bare caller number) (hfooting : host.Footing limit)
    (hkeeps : ∀ event ∈ events, event.KeepsWritten ∧ event.KeepsOpen number)
    (hbridge : host.bridge? caller events = some place)
    (hquiet : ∀ code, .error code ∉ (events.foldl happen host).channel.toldAt place) :
    host.Fared caller number limit place events (events.foldl happen host) := by
  induction events generalizing host with
  | nil => cases h.endpointOf?.symm.trans hbridge
  | cons event events ih =>
      rw [List.forall_mem_cons] at hkeeps
      rw [bridge?, h.endpointOf?, Option.none_or] at hbridge
      have hhappened := host.happened_happen event
      have hnext : (host.happen event).Bare caller number ∨ ∃ place forward connection,
          (host.happen event).Draining caller number limit place forward false connection := by
        obtain hleaves | ⟨eager, job, marked, rfl, htask, htook⟩ :=
          hhappened.leaves_or_turn h.owns hkeeps.1.1 hkeeps.1.2
        · exact .inl (h.leaves hleaves hhappened)
        · exact h.turn htask hhappened htook
      obtain hbare | ⟨other, forward, connection, hdraining⟩ := hnext
      · exact (ih hbare (hfooting.happen event) hkeeps.2 hbridge hquiet).cons
      · obtain rfl := Option.some.inj (hdraining.bridge?.symm.trans hbridge)
        exact (hdraining.run (hfooting.happen event) hkeeps.2 hquiet).cons

end Bare

theorem bare_startForward (h : host.Forwards) (port : UInt16) :
    (host.startForward port).Bare host.tasks.length host.clients.length where
  owns := (unopened_startForward h port).owns
  client := ⟨.fresh, List.getElem?_concat_length, Connection.isOpen_fresh, rfl⟩
  task := ⟨_, List.getElem?_concat_length, .working port false⟩

/-- **Payloads are written before a forward succeeds.** Whatever happens before a forward is started
and afterwards: as long as its local side goes on, and its endpoint is told of no error, it takes
and writes the payloads that its endpoint is told, in order. When it succeeds, these are all that
came before the message that the session was closed, and all of them are counted. When it fails,
others may be left over: it fails in a turn in which it has bytes of the local side to send, and
finds the channel closed, or nobody to take frames out of the queue, or, where a payload must be
empty, a byte too much. -/
theorem forward_drains {begun : Host} (hbegun : begun.Begun) (port : UInt16)
    (before after : List Event)
    (hkeeps : ∀ event ∈ after,
      event.KeepsWritten ∧ event.KeepsOpen (before.foldl happen begun).clients.length) :
    let started := before.foldl happen begun
    let caller := started.tasks.length
    let number := started.clients.length
    let forwarding := started.happen (.step (.forward port))
    let last := after.foldl happen forwarding
    ∃ connection, last.clients[number]? = some connection ∧
      ∀ place, forwarding.bridge? caller after = some place →
        (∀ code, .error code ∉ last.channel.toldAt place) →
        (∀ stats, last.outcome? caller = some (.forwarded stats) →
          ∃ (payloads : List Bytes) (later : List Message),
            last.channel.toldAt place = payloads.map .data ++ .closed :: later ∧
              connection.written.flatten = payloads.flatten ∧ stats.bytesIn = volume payloads) ∧
        ∀ error, last.outcome? caller = some (.failed error) →
          forwarding.CutOff caller number error after ∧
            ∃ (payloads : List Bytes) (later : List Message),
              last.channel.toldAt place = payloads.map .data ++ later ∧
                connection.written.flatten = payloads.flatten := by
  intro started caller number forwarding last
  have hfooting : started.Footing begun.channel.config.maxPayload := hbegun.footing.run before
  have hbare : forwarding.Bare caller number := bare_startForward hfooting.forwards port
  have hnumber : number < last.clients.length :=
    Nat.lt_of_lt_of_le hbare.lt_length (forwarding.length_clients_run after)
  refine ⟨last.clients[number], List.getElem?_eq_getElem hnumber, fun place hplace hquiet => ?_⟩
  cases hbare.run (hfooting.happen _) hkeeps hplace hquiet with
  | works hlast =>
      have hnone : last.outcome? caller = none := by
        rw [outcome?, hlast.task]
      rw [hnone]
      exact ⟨by simp, by simp⟩
  | @ends outcome connection hlast hcut =>
      have houtcome : last.outcome? caller = some outcome := by
        rw [outcome?, hlast.task]
      obtain rfl := Option.some.inj ((List.getElem?_eq_getElem hnumber).symm.trans hlast.client)
      rw [houtcome]
      refine ⟨fun stats heq => hlast.finished stats (Option.some.inj heq), fun error heq => ?_⟩
      exact ⟨hcut error (Option.some.inj heq), hlast.broken error (Option.some.inj heq)⟩

/-- The peer sends a payload and closes the session, and the forward first takes up what the local
side has sent meanwhile. -/
theorem forward_drains_of_close :
    let begun := create { (default : ChannelConfig) with maxPayload := 4 } 8
      { rules := [], accepting := true }
    let after : List Event := [.step (.turn true 0),
      .hear { port := 22, session := 1, body := .data [7, 8, 9] } (.ok .queue),
      .step (.line (.client 0) (·.arrive (.piece [1, 2]))),
      .hear { port := 22, session := 1, body := .control .sessionClose } (.ok .queue),
      .step (.turn true 0), .step (.turn true 0), .step (.turn true 0), .step (.turn true 0),
      .step (.turn true 0), .step (.turn true 0)]
    let forwarding := begun.happen (.step (.forward 22))
    let last := after.foldl happen forwarding
    last.outcome? 0 = some (.forwarded { session := 1, bytesOut := 0, bytesIn := 3 }) ∧
      last.channel.toldAt 0 = [.data [7, 8, 9], .closed] ∧
      last.clients[0]?.map (·.written.flatten) = some [7, 8, 9] := by
  intro begun after forwarding last
  have hkeeps : ∀ event ∈ after, event.KeepsWritten ∧ event.KeepsOpen 0 := by
    simp only [after, List.forall_mem_cons, Event.KeepsWritten, Event.KeepsOpen, and_self]
    exact ⟨trivial, trivial, ⟨fun _ => rfl, fun _ _ hopen => hopen.arrive (by decide)⟩, trivial,
      trivial, trivial, trivial, trivial, trivial, trivial, List.forall_mem_nil _⟩
  have houtcome : last.outcome? 0 =
      some (.forwarded { session := 1, bytesOut := 0, bytesIn := 3 }) := by decide
  have htold : last.channel.toldAt 0 = [.data [7, 8, 9], .closed] := by decide
  have hplace : forwarding.bridge? 0 after = some 0 := by decide
  have hbegun : begun.Begun := .create _ _ _
  have hresult := forward_drains hbegun 22 [] after hkeeps
  have htasks : begun.tasks.length = 0 := rfl
  have hclients : begun.clients.length = 0 := rfl
  have hforwarding : begun.happen (.step (.forward 22)) = forwarding := rfl
  have hlast : after.foldl happen forwarding = last := rfl
  simp only [List.foldl_nil, htasks, hclients, hforwarding, hlast] at hresult
  -- From here on, nothing is to be evaluated any more.
  clear_value last forwarding after begun
  obtain ⟨connection, hconnection, hdrained⟩ := hresult
  obtain ⟨hsucceeds, -⟩ := hdrained 0 hplace (by simp [htold])
  obtain ⟨payloads, later, hsplit, hwritten, -⟩ := hsucceeds _ houtcome
  refine ⟨houtcome, htold, ?_⟩
  rw [hconnection, Option.map_some, hwritten]
  rw [htold] at hsplit
  obtain _ | ⟨payload, _ | ⟨other, rest⟩⟩ := payloads
  · cases hsplit
  · cases hsplit
    rfl
  · cases hsplit

/-- The channel is closed while the forward waits to send two bytes: what its endpoint was told
before is not written. -/
theorem forward_cut_off :
    let forwarding := (create { (default : ChannelConfig) with maxPayload := 4 } 1
      { rules := [], accepting := true }).happen (.step (.forward 22))
    let after : List Event := [.step (.turn true 0),
      .step (.line (.client 0) (·.arrive (.piece [1, 2]))), .step (.turn true 0),
      .step (.turn true 0),
      .hear { port := 22, session := 1, body := .data [7, 8, 9] } (.ok .queue), .step .close, .take,
      .step (.turn true 0)]
    let last := after.foldl happen forwarding
    last.outcome? 0 = some (.failed .closed) ∧
      last.channel.toldAt 0 = [.data [7, 8, 9], .closed] ∧
      last.clients[0]?.map (·.written) = some [] := by
  decide

end SessionMux.Host
