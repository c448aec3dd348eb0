import SessionMux.Proofs.Forward.Passage
import SessionMux.Proofs.Host.Forwards
import SessionMux.Proofs.Host.Handle
import SessionMux.Proofs.Host.Outgoing

/-!
# A forward that has a session

A forward is followed through everything that can happen to its host. What other tasks do, and what
comes from outside, leaves its session and its local connection alone (`Host.Apart`), so that only
its own turns matter to its books (`Host.Bridged.happened`).
-/

namespace SessionMux.Host

namespace Event

def sendsOn? : Event → Option UInt32
  | .step (.call (.send id _) _) => some id
  | _ => none

def KeepsWritten : Event → Prop
  | .step (.line (.client _) change) =>
    ∀ connection, (change connection).written = connection.written
  | _ => True

end Event

def sessionOf? (host : Host) (caller : Caller) : Option UInt32 :=
  match host.tasks[caller]? with
  | some (.working (.forward _ forward) _) => forward.endpoint.map fun _ => forward.stats.session
  | _ => none

def reads (host : Host) (number : Nat) (event : Event) (next : Host) : Bytes :=
  match event, host.clients[number]?, next.clients[number]? with
  | .step (.turn _ _), some before, some after => before.consumed after
  | _, _, _ => []

def account (host : Host) (caller : Caller) (number : Nat) (passage : Passage) (event : Event)
    (next : Host) : Passage :=
  passage.advance (next.sessionOf? caller) (host.reads number event next) host.channel next.channel

def follow (host : Host) (caller : Caller) (number : Nat) (passage : Passage) :
    List Event → Passage
  | [] => passage
  | event :: events =>
    let next := host.happen event
    next.follow caller number (host.account caller number passage event next) events

variable {host next : Host} {caller other : Caller} {number limit : Nat} {id : UInt32}
  {event : Event} {passage : Passage} {job : Job} {aborted : Bool}

/-! ### Every host -/

structure Footing (limit : Nat) (host : Host) : Prop where
  fitting : host.Fitting limit
  forwards : host.Forwards
  numbered : host.register.Numbered
  dataless : host.ledger.Dataless

theorem Fitting.happen (h : host.Fitting limit) (event : Event) :
    (host.happen event).Fitting limit := by
  cases event with
  | step step => exact h.step step
  | hear frame admission => exact .settleChannel h.tasks (h.channel.receive frame admission)
  | take =>
      rw [Host.happen, takeFrames]
      split
      · exact h
      · rename_i frame channel htake
        exact .settleChannel h.tasks (h.channel.takeFrame? htake).2
  | abandon => exact .settleChannel h.tasks h.channel.abandonOutbox

theorem Footing.happen (h : host.Footing limit) (event : Event) :
    (host.happen event).Footing limit where
  fitting := h.fitting.happen event
  forwards := h.forwards.happened (host.happened_happen event) (host.grows_happen event)
  numbered := (host.grows_happen event).numbered h.numbered
  dataless := (host.happened_happen event).dataless h.dataless

theorem Footing.run (h : host.Footing limit) (events : List Event) :
    (events.foldl Host.happen host).Footing limit := by
  induction events generalizing host with
  | nil => exact h
  | cons event events ih => exact ih (h.happen event)

theorem Footing.dataless_channel (h : host.Footing limit) :
    (host.channel.ledger []).Dataless := by
  have hreplies := h.dataless
  rw [Ledger.Dataless, Host.ledger, Channel.ledger, payloads_append] at hreplies
  exact (List.append_eq_nil_iff.mp hreplies).2

theorem extends_run (host : Host) (events : List Event) :
    host.ledger.Extends (events.foldl Host.happen host).ledger := by
  induction events generalizing host with
  | nil => exact .refl _
  | cons event events ih => exact (host.happened_happen event).extends.trans (ih _)

/-- An id that the peer has not used belongs to at most one session. -/
theorem Footing.single (h : host.Footing limit)
    (hours : ∀ endpoint ∈ host.channel.endpoints,
      endpoint.session = id → endpoint.inbound = false) :
    host.ledger.owners.count id ≤ 1 := by
  have howners : host.ledger.owners = host.register.origins.map (·.1) := by
    simp only [Ledger.owners, ledger, Channel.ledger, register, Channel.register, List.map_map]
    rfl
  rw [howners]
  refine h.numbered.count_le_one fun origin hmem => ?_
  obtain ⟨endpoint, hendpoint, rfl⟩ := List.mem_map.mp hmem
  exact hours endpoint hendpoint

def Mute (host : Host) (id : UInt32) : Prop :=
  ∀ (caller : Caller) (payload : Bytes) (stage : CallStage) (aborted : Bool),
    host.tasks[caller]? ≠ some (.working (.call (.send id payload) stage) aborted)

theorem Mute.happened (h : host.Mute id) (hevent : event.sendsOn? ≠ some id)
    (hhappened : host.Happened event next) : next.Mute id := by
  intro caller payload stage aborted htask
  obtain ⟨before, marked, hbefore, hcharge⟩ | ⟨-, ⟨-, hstarts⟩ | ⟨frame, hframe⟩⟩ :=
    hhappened.charge htask
  · cases before with
    | call request earlier =>
        cases hcharge
        exact h caller payload earlier marked hbefore
    | reply | awaitClose | readStream | writeStream | readDatagrams | writeDatagrams | forward =>
        cases hcharge
  · cases event with
    | step step =>
        cases step <;> cases hstarts
        exact hevent rfl
    | hear | take | abandon => cases hstarts
  · cases hframe

/-! ### Events in which a forward takes no turn -/

/-- Only a call and a forward that has read a payload send something. -/
theorem sends_of_does {deed : Deed} (hdoes : job.Does deed) (hsends : deed.sendsOn? = some id) :
    (∃ payload stage, job = .call (.send id payload) stage) ∨
      ∃ number forward, job = .forward number forward ∧ forward.stage ≠ .opening ∧
        forward.stats.session = id := by
  cases hdoes with
  | works | hears | reports | takes | abandons | loses => cases hsends
  | calls =>
      cases hsends
      exact .inl ⟨_, _, rfl⟩
  | forwards hstage =>
      cases hsends
      exact .inr ⟨_, _, rfl, by simp [hstage], rfl⟩

/-- What an event leaves behind in which a forward takes no turn. -/
structure Apart (host : Host) (caller : Caller) (number : Nat) (event : Event) (next : Host) :
    Prop where
  task : ∀ task, host.tasks[caller]? = some task →
    (∃ verdict, next.tasks[caller]? = some (task.hear verdict)) ∨
      next.tasks[caller]? = some task.mark
  client : ∀ connection, host.clients[number]? = some connection → ∃ after,
    next.clients[number]? = some after ∧ after.written = connection.written ∧
      ∀ eager other, event = .step (.turn eager other) → after = connection
  spares : ∀ id, host.Mute id → host.Unshared caller id → id.toNat < host.channel.nextSession →
    host.ledger.Dataless → next.ledger.owners.count id = host.ledger.owners.count id →
      Ledger.Spares id host.ledger next.ledger

theorem Took.clients_of_ne {turn : Turn Job Outcome} {eager : Bool}
    (htook : host.Took other job turn (host.workOf eager other job aborted).2 next)
    (hjob : ∀ used forward, job = .forward used forward → used ≠ number) :
    next.clients[number]? = host.clients[number]? := by
  rw [htook.clients]
  cases aborted with
  | true => rfl
  | false =>
      cases job with
      | forward used forward =>
          simp only [workOf, stepJob, Bool.false_eq_true, if_false]
          split
          · rfl
          · exact List.getElem?_set_ne (hjob used forward rfl)
      | call | reply | awaitClose | readStream | writeStream | readDatagrams | writeDatagrams => rfl

theorem Took.apart {turner : Caller} {eager : Bool} (hne : caller ≠ turner)
    (htask : host.tasks[turner]? = some (.working job aborted))
    (htook : host.Took turner job (host.workOf eager turner job aborted).1
      (host.workOf eager turner job aborted).2 next)
    (hyields : Yields job host.ledger next.ledger) (howns : host.Owns caller number) :
    host.Apart caller number (.step (.turn eager turner)) next where
  task := fun task hbefore => .inl (htook.others caller task hne hbefore)
  client := fun connection hconnection => by
    have hsame : next.clients[number]? = _ := htook.clients_of_ne fun used forward hjob =>
      howns turner used forward aborted (hjob ▸ htask) hne.symm
    exact ⟨connection, hsame.trans hconnection, rfl, fun _ _ _ => rfl⟩
  spares := fun id hmute hunshared hid hdata hcount => by
    obtain ⟨deeds, hruns, hdeeds⟩ := hyields
    refine hruns.spares hid (fun deed hmem hsends => ?_) hdata hcount
    obtain ⟨payload, stage, rfl⟩ | ⟨used, forward, rfl, hstage, hsession⟩ :=
      sends_of_does (hdeeds deed hmem) hsends
    · exact hmute turner payload stage aborted htask
    · exact hunshared turner used forward aborted htask hne.symm hstage hsession

/-- A connection that is there is changed only as a line is, and keeps what was written to it. -/
theorem Event.client_of_changeClients {clients : List Connection} {connection : Connection}
    (hkeeps : event.KeepsWritten) (hconnection : clients[number]? = some connection) :
    ∃ after, (event.changeClients clients)[number]? = some after ∧
      after.written = connection.written ∧
        ∀ eager other, event = .step (.turn eager other) → after = connection := by
  have hsame : ∃ after, clients[number]? = some after ∧ after.written = connection.written ∧
      ∀ eager other, event = .step (.turn eager other) → after = connection :=
    ⟨connection, hconnection, rfl, fun _ _ _ => rfl⟩
  cases event with
  | step step =>
      cases step with
      | forward port =>
          have hnumber := (List.getElem?_eq_some_iff.mp hconnection).1
          refine ⟨connection, ?_, rfl, fun _ _ _ => rfl⟩
          exact (List.getElem?_append_left hnumber).trans hconnection
      | line line change =>
          cases line with
          | wire => exact hsame
          | client used =>
              refine ⟨if used = number then change connection else connection, ?_, ?_, by simp⟩
              · exact (List.getElem?_modify _ _ _ _).trans (by rw [hconnection]; rfl)
              · split
                · exact hkeeps connection
                · rfl
      | call | awaitClose | abort | turn | advance | silence | stopAccepting | letGo | close
      | fail => exact hsame
  | hear | take | abandon => exact hsame

theorem Lets.apart (h : host.Lets event next) (hkeeps : event.KeepsWritten) :
    host.Apart caller number event next where
  task := h.tasks caller
  client := fun connection hconnection => by
    rw [h.clients]
    exact Event.client_of_changeClients hkeeps hconnection
  spares := fun id hmute hunshared hid hdata hcount => by
    obtain ⟨deeds, hruns, hdeeds⟩ := h.ledger
    refine hruns.spares hid (fun deed hmem hsends => ?_) hdata hcount
    cases (hdeeds deed hmem).symm.trans hsends

/-- A forward takes its turn, or it is left alone. -/
theorem Happened.apart_or_turn (h : host.Happened event next) (howns : host.Owns caller number)
    (hkeeps : event.KeepsWritten) :
    host.Apart caller number event next ∨
      ∃ eager job aborted, event = .step (.turn eager caller) ∧
        host.tasks[caller]? = some (.working job aborted) ∧
          host.Took caller job (host.workOf eager caller job aborted).1
            (host.workOf eager caller job aborted).2 next := by
  cases h with
  | @turns eager taker job aborted _ htask htook hyields =>
      by_cases hne : caller = taker
      · subst hne
        exact .inr ⟨eager, job, aborted, rfl, htask, htook⟩
      · exact .inl (htook.apart hne htask hyields howns)
  | lets hlets => exact .inl (hlets.apart hkeeps)

theorem Apart.reads (h : host.Apart caller number event next) {connection : Connection}
    (hconnection : host.clients[number]? = some connection) :
    host.reads number event next = [] := by
  obtain ⟨after, hafter, -, hturn⟩ := h.client connection hconnection
  unfold Host.reads
  rw [hconnection, hafter]
  split
  · rename_i before later _ hbefore hlater
    cases hbefore
    cases hlater
    rw [hturn _ _ rfl]
    exact (Connection.SameBytes.refl connection).consumed
  · rfl

/-! ### The channel after the turn of a forward -/

namespace Books

variable {channel : Channel}

theorem advance (h : next.Books channel) (passage : Passage) (opened : Option UInt32)
    (taken : Bytes) (before : Channel) :
    passage.advance opened taken before next.channel =
      passage.advance opened taken before channel := by
  simp only [Passage.advance, h.sessions, h.frames]

theorem right (h : next.Books channel) (hright : passage.Right limit id channel) :
    passage.Right limit id next.channel := by
  obtain ⟨hsession, hentry, hcount, hchunks, hintact⟩ := hright
  rw [← h.sessions] at hentry
  exact ⟨hsession, hentry, hcount, hchunks, hintact⟩

theorem feeds (h : next.Books channel) {forward : Forward}
    (hfeeds : forward.Feeds limit channel passage) : forward.Feeds limit next.channel passage := by
  obtain ⟨hcount, hread, hchunk⟩ := hfeeds
  rw [← h.sessions] at hread
  exact ⟨hcount, hread, hchunk⟩

theorem toldAt (h : next.Books channel) (place : Nat) :
    next.channel.toldAt place = channel.toldAt place := by
  rw [next.channel.toldAt_eq next.replies, channel.toldAt_eq []]
  exact congrArg (fun endpoints => endpoints[place]?.elim [] (·.2)) h.endpoints

theorem spares (h : next.Books channel) (id : UInt32) :
    Ledger.Spares id (channel.ledger []) (next.channel.ledger []) := by
  refine .of_same h.frames fun session hfind => ⟨session, ?_, rfl⟩
  exact (congrArg (Sessions.find? · id) h.sessions).symm.trans hfind

end Books

/-! ### A forward whose session is open -/

structure Carries (host : Host) (number limit : Nat) (id : UInt32) (place : Nat)
    (passage : Passage) (forward : Forward) (connection : Connection) : Prop where
  client : host.clients[number]? = some connection
  endpoint : forward.endpoint = some place
  session : forward.stats.session = id
  stage : forward.stage ≠ .opening
  feeds : forward.Feeds limit host.channel passage
  delivers : forward.Delivers (host.channel.toldAt place) connection.written.flatten

structure Carried (host : Host) (number : Nat) (id : UInt32) (place : Nat) (passage : Passage)
    (outcome : Outcome) (connection : Connection) : Prop where
  client : host.clients[number]? = some connection
  written : connection.written.flatten <+:
    ((host.channel.toldAt place).filterMap Message.payload?).flatten
  stats : ∀ stats, outcome = .forwarded stats →
    stats.session = id ∧ stats.bytesOut = volume passage.carried ∧
      Forward.Delivered ((host.channel.toldAt place).filterMap Message.payload?)
        connection.written.flatten stats.bytesIn

inductive Progress (host : Host) (caller : Caller) (number limit : Nat) (id : UInt32) (place : Nat)
    (passage : Passage) : Prop
  | goes {forward : Forward} {aborted : Bool} {connection : Connection}
      (htask : host.tasks[caller]? = some (.working (.forward number forward) aborted))
      (hcarries : host.Carries number limit id place passage forward connection) :
      Progress host caller number limit id place passage
  | ended {outcome : Outcome} {connection : Connection}
      (htask : host.tasks[caller]? = some (.over outcome))
      (hcarried : host.Carried number id place passage outcome connection) :
      Progress host caller number limit id place passage

structure Bridged (host : Host) (caller : Caller) (number limit : Nat) (id : UInt32) (place : Nat)
    (passage : Passage) : Prop where
  counted : id.toNat < host.channel.nextSession
  placed : ∃ told, host.ledger.endpoints[place]? = some (id, told)
  owns : host.Owns caller number
  unshared : host.Unshared caller id
  right : passage.Right limit id host.channel
  progress : host.Progress caller number limit id place passage

namespace Bridged

variable {place : Nat} {forward : Forward} {connection : Connection}

theorem lt_length (h : host.Bridged caller number limit id place passage) :
    number < host.clients.length := by
  cases h.progress with
  | goes htask hcarries => exact (List.getElem?_eq_some_iff.mp hcarries.client).1
  | ended htask hcarried => exact (List.getElem?_eq_some_iff.mp hcarried.client).1

theorem apart (h : host.Bridged caller number limit id place passage)
    (happart : host.Apart caller number event next)
    (hspares : Ledger.Spares id host.ledger next.ledger)
    (hextends : host.ledger.Extends next.ledger) :
    let books := host.account caller number passage event next
    books.Right limit id next.channel ∧ next.Progress caller number limit id place books := by
  intro books
  obtain ⟨more, hmore⟩ := Channel.toldAt_of_extends hextends place
  refine ⟨h.right.spared hspares _ _, ?_⟩
  cases h.progress with
  | @goes forward aborted connection htask hcarries =>
      obtain ⟨after, hafter, hwritten, -⟩ := happart.client connection hcarries.client
      have hfeeds : forward.Feeds limit next.channel books := by
        simp only [books, account, happart.reads hcarries.client]
        obtain rfl := hcarries.session
        exact hcarries.feeds.spared h.right.session hspares _
      have hdelivers : forward.Delivers (next.channel.toldAt place) after.written.flatten := by
        rw [hmore, hwritten]
        exact hcarries.delivers.append more
      have hstill : next.Carries number limit id place books forward after :=
        ⟨hafter, hcarries.endpoint, hcarries.session, hcarries.stage, hfeeds, hdelivers⟩
      obtain ⟨verdict, hheard⟩ | hmarked := happart.task _ htask
      · exact .goes hheard hstill
      · exact .goes hmarked hstill
  | @ended outcome connection htask hcarried =>
      obtain ⟨after, hafter, hwritten, -⟩ := happart.client connection hcarried.client
      have hsame : books.carried = passage.carried :=
        Passage.carried_advance h.right.session hspares _ _
      have hstill : next.Carried number id place books outcome after := by
        refine ⟨hafter, ?_, fun stats heq => ?_⟩
        · rw [hmore, hwritten, List.filterMap_append, List.flatten_append]
          exact hcarried.written.trans (List.prefix_append _ _)
        · obtain ⟨hsession, hcount, hdelivered⟩ := hcarried.stats stats heq
          rw [hmore, hwritten, hsame, List.filterMap_append]
          exact ⟨hsession, hcount, hdelivered.append _⟩
      obtain ⟨verdict, hheard⟩ | hmarked := happart.task _ htask
      · exact .ended hheard hstill
      · exact .ended hmarked hstill

/-- The forward was told to end. -/
theorem turn_aborted (h : host.Bridged caller number limit id place passage)
    (hcarries : host.Carries number limit id place passage forward connection)
    (htook : host.Took caller (.forward number forward) (.ends .aborted) host next) :
    let books := host.account caller number passage event next
    books.Right limit id next.channel ∧ next.Progress caller number limit id place books := by
  intro books
  have hbooks : next.Books host.channel := htook.books
  have hclient : next.clients[number]? = some connection := by
    rw [htook.clients]
    exact hcarries.client
  obtain ⟨verdict, hself⟩ := htook.task
  refine ⟨h.right.spared (hbooks.spares id) _ _, .ended hself ⟨hclient, ?_, by simp⟩⟩
  rw [hbooks.toldAt]
  exact hcarries.delivers.prefix_flatten

/-- A section of the work of the forward. -/
theorem turn_moves (h : host.Bridged caller number limit id place passage)
    (hfooting : host.Footing limit) (hpositive : 1 ≤ limit)
    (hcarries : host.Carries number limit id place passage forward connection)
    {after : Forward.After} (hmoves : forward.Moves host.channel connection after)
    (hbooks : next.Books after.2.1) (hclients : next.clients = host.clients.set number after.2.2)
    (hself : next.tasks[caller]? = some (.ofTurn (after.1.map (.forward number) .ofForward)))
    {eager : Bool} :
    let books := host.account caller number passage (.step (.turn eager caller)) next
    books.Right limit id next.channel ∧ next.Progress caller number limit id place books := by
  intro books
  obtain ⟨turn, channel, later⟩ := after
  have hlater : next.clients[number]? = some later := by
    rw [hclients]
    exact List.getElem?_set_self h.lt_length
  have haccount : books = passage.advance (next.sessionOf? caller) (connection.consumed later)
      host.channel channel := by
    have hreads : host.reads number (.step (.turn eager caller)) next =
        connection.consumed later := by
      simp only [Host.reads, hcarries.client, hlater]
    simp only [books, account, hreads, hbooks.advance]
  obtain ⟨-, hendpoint, rfl, hstage, hfeeds, hdelivers⟩ := hcarries
  obtain ⟨hright, hgoes, hends⟩ := hmoves.feeds hstage hfooting.fitting.channel.limit_eq hpositive
    h.counted hfooting.dataless_channel h.right hfeeds (next.sessionOf? caller)
  rw [← haccount] at hright hgoes hends
  -- What the other direction knows is about the endpoint of the forward, which stays at its place.
  rw [← forward.told_of_endpoint hendpoint] at hdelivers
  obtain ⟨hwrites, hleaves⟩ := hmoves.delivered (fun hopening => absurd hopening hstage) hdelivers
  refine ⟨hbooks.right hright, ?_⟩
  have hnext {state : Forward} (hstate : turn.next? = some state)
      (hself : next.tasks[caller]? = some (.working (.forward number state) false)) :
      next.Progress caller number limit forward.stats.session place books := by
    obtain ⟨hopened, hplace, hsame⟩ := hmoves.keeps hstage hstate
    rw [hendpoint] at hplace
    refine .goes hself ⟨hlater, hplace, hsame, hopened, hbooks.feeds (hgoes state hstate), ?_⟩
    rw [hbooks.toldAt, ← state.told_of_endpoint hplace]
    exact hwrites state hstate
  cases turn with
  | waits state | goes state => exact hnext rfl hself
  | ends result =>
      obtain ⟨hbytes, hdelivered⟩ := hleaves result rfl
      rw [forward.told_of_endpoint hendpoint, ← hbooks.toldAt] at hbytes hdelivered
      refine .ended hself ⟨hlater, hbytes, fun stats heq => ?_⟩
      cases result with
      | error error => cases heq
      | ok result =>
          cases heq
          obtain ⟨rfl, hcount⟩ := hends stats rfl
          exact ⟨rfl, hcount, hdelivered _ rfl⟩

theorem turn (h : host.Bridged caller number limit id place passage) (hfooting : host.Footing limit)
    (hpositive : 1 ≤ limit) {eager : Bool}
    (htask : host.tasks[caller]? = some (.working job aborted))
    (htook : host.Took caller job (host.workOf eager caller job aborted).1
      (host.workOf eager caller job aborted).2 next) :
    let books := host.account caller number passage (.step (.turn eager caller)) next
    books.Right limit id next.channel ∧ next.Progress caller number limit id place books := by
  cases h.progress with
  | ended hover => cases hover.symm.trans htask
  | goes hworking hcarries =>
      cases hworking.symm.trans htask
      cases aborted with
      | true => exact h.turn_aborted hcarries htook
      | false =>
          obtain ⟨after, hmoves, hbooks, hclients, hself⟩ := htook.moves hcarries.client
          exact h.turn_moves hfooting hpositive hcarries hmoves hbooks hclients hself

/-- **An event of any kind.** The session must be the only one with its id. -/
theorem happened (h : host.Bridged caller number limit id place passage)
    (hfooting : host.Footing limit) (hpositive : 1 ≤ limit) (hmute : host.Mute id)
    (hkeeps : event.KeepsWritten) (hhappened : host.Happened event next)
    (hgrows : host.register.Grows next.register) (hsingle : next.ledger.owners.count id ≤ 1) :
    next.Bridged caller number limit id place (host.account caller number passage event next) := by
  have hextends := hhappened.extends
  obtain ⟨told, hplaced⟩ := h.placed
  have hothers : next.Owns caller number ∧ next.Unshared caller id :=
    ⟨h.owns.happened h.lt_length hhappened, h.unshared.happened h.counted hhappened⟩
  set books := host.account caller number passage event next
  suffices hown : books.Right limit id next.channel ∧
      next.Progress caller number limit id place books from
    { counted := Nat.lt_of_lt_of_le h.counted hgrows.nextSession_le
      placed := (hextends place id told hplaced).imp' (told ++ ·) fun _ hmore => hmore
      owns := hothers.1
      unshared := hothers.2
      right := hown.1
      progress := hown.2 }
  -- The endpoint of the forward is there already, so that no other session with its id is opened.
  have hcount : next.ledger.owners.count id = host.ledger.owners.count id := by
    have hmem : id ∈ host.ledger.owners :=
      List.mem_map.mpr ⟨_, List.mem_of_getElem? hplaced, rfl⟩
    have hpresent := List.count_pos_iff.mpr hmem
    have hkept := hextends.owners.sublist.count_le id
    omega
  obtain happart | ⟨eager, job, aborted, rfl, htask, htook⟩ :=
    hhappened.apart_or_turn h.owns hkeeps
  · have hspares := happart.spares id hmute h.unshared h.counted hfooting.dataless hcount
    exact h.apart happart hspares hextends
  · exact h.turn hfooting hpositive htask htook

theorem run (h : host.Bridged caller number limit id place passage)
    (hfooting : host.Footing limit) (hpositive : 1 ≤ limit) (hmute : host.Mute id)
    (events : List Event) (hkeeps : ∀ event ∈ events, event.KeepsWritten)
    (hsends : ∀ event ∈ events, event.sendsOn? ≠ some id)
    (hsingle : (events.foldl Host.happen host).ledger.owners.count id ≤ 1) :
    (events.foldl Host.happen host).Bridged caller number limit id place
      (host.follow caller number passage events) := by
  induction events generalizing host passage with
  | nil => exact h
  | cons event events ih =>
      rw [List.forall_mem_cons] at hkeeps hsends
      have hhappened := host.happened_happen event
      have hrest := (extends_run (host.happen event) events).owners.sublist.count_le id
      refine ih ?_ (hfooting.happen event) (hmute.happened hsends.1 hhappened) hkeeps.2 hsends.2
        hsingle
      exact h.happened hfooting hpositive hmute hkeeps.1 hhappened (host.grows_happen event)
        (hrest.trans hsingle)

theorem kept (h : host.Bridged caller number limit id place passage)
    (hsingle : host.ledger.owners.count id ≤ 1) {connection : Connection}
    (hclient : host.clients[number]? = some connection) :
    passage.carried.flatten <+: passage.read ∧
      (∀ payload ∈ passage.carried, payload.IsChunk limit) ∧
      connection.written.flatten <+: (host.channel.heard id).flatten ∧
        ∀ stats, host.outcome? caller = some (.forwarded stats) →
          stats.session = id ∧ stats.bytesOut = volume passage.carried ∧
            stats.bytesOut = passage.bytesOut ∧
            Forward.Delivered (host.channel.heard id) connection.written.flatten
              stats.bytesIn := by
  obtain ⟨told, hplaced⟩ := h.placed
  have hheard : host.channel.heard id = _ := Channel.heard_of_single hplaced hsingle
  refine ⟨h.right.intact, h.right.chunks, ?_, fun stats houtcome => ?_⟩
  · rw [hheard]
    cases h.progress with
    | goes htask hcarries =>
        cases hcarries.client.symm.trans hclient
        exact hcarries.delivers.prefix_flatten
    | ended htask hcarried =>
        cases hcarried.client.symm.trans hclient
        exact hcarried.written
  · rw [outcome?] at houtcome
    cases h.progress with
    | goes htask =>
        rw [htask] at houtcome
        cases houtcome
    | ended htask hcarried =>
        rw [htask] at houtcome
        cases houtcome
        cases hcarried.client.symm.trans hclient
        obtain ⟨hsession, hcount, hdelivered⟩ := hcarried.stats stats rfl
        rw [hheard]
        exact ⟨hsession, hcount, hcount.trans h.right.bytesOut.symm, hdelivered⟩

end Bridged

end SessionMux.Host
