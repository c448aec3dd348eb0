import SessionMux.Proofs.Host.Events

/-!
# The forwards of a host

Each forward has a local connection that no other one uses, and once its session is open, the id of
that session lies below the counter of the channel. So a session that is opened later is another
one. What becomes of a forward in its own turn is said by `Host.Took.moves`, and any other event
leaves it as it is (`Host.Happened.origin`).
-/

namespace SessionMux

theorem Job.forward_of_hear {job : Job} {verdict : Option Verdict} {number : Nat}
    {forward : Forward} (hheard : job.hear verdict = .forward number forward) :
    job = .forward number forward := by
  unfold hear at hheard
  split at hheard
  · cases hheard
  · exact hheard

def Forward.Stands (forward : Forward) (nextSession : Nat) : Prop :=
  forward = .create forward.port ∨
    forward.stage ≠ .opening ∧ forward.endpoint.isSome ∧
      forward.stats.session.toNat < nextSession

namespace Forward

variable {forward later : Forward} {channel : Channel} {client : Connection} {after : After}

theorem Stands.mono (h : forward.Stands channel.nextSession) {next : Channel}
    (hgrows : channel.register.Grows next.register) : forward.Stands next.nextSession :=
  h.imp_right fun hopened =>
    ⟨hopened.1, hopened.2.1, Nat.lt_of_lt_of_le hopened.2.2 hgrows.nextSession_le⟩

theorem Stands.opened {nextSession : Nat} (h : forward.Stands nextSession)
    (hstage : forward.stage ≠ .opening) :
    forward.endpoint.isSome ∧ forward.stats.session.toNat < nextSession := by
  obtain heq | ⟨-, hopened⟩ := h
  · rw [heq] at hstage
    exact absurd rfl hstage
  · exact hopened

theorem Moves.keeps (hmoves : forward.Moves channel client after)
    (hstage : forward.stage ≠ .opening) (hnext : after.1.next? = some later) :
    later.stage ≠ .opening ∧ later.endpoint = forward.endpoint ∧
      later.stats.session = forward.stats.session := by
  cases hmoves with
  | waits =>
      cases hnext
      exact ⟨hstage, rfl, rfl⟩
  | opens hopening => exact absurd hopening hstage
  | fails | ends => cases hnext
  | reads | hears | warned | writes | delivers | breaks | sends | drops =>
      cases hnext
      exact ⟨by simp, rfl, rfl⟩
  | leaves hbefore hleaves =>
      cases hnext
      refine ⟨?_, rfl, rfl⟩
      rintro rfl
      exact hleaves

theorem Moves.stands (hmoves : forward.Moves channel client after)
    (h : forward.Stands channel.nextSession) (hnext : after.1.next? = some later) :
    later.Stands after.2.1.nextSession := by
  by_cases hstage : forward.stage = .opening
  · obtain ⟨turn, next, rfl, hworks, rfl | ⟨error, rfl⟩⟩ | ⟨id, next, hopens, rfl⟩ :=
      hmoves.of_opening hstage <;> cases hnext
    · exact h.mono hworks.register
    · exact .inr ⟨by simp, rfl, hopens.counted⟩
  · obtain ⟨hlater, hendpoint, hsession⟩ := hmoves.keeps hstage hnext
    obtain ⟨hopen, hcounted⟩ := h.opened hstage
    rw [← hendpoint] at hopen
    rw [← hsession] at hcounted
    have hgrows := (hmoves.serves 0).register
    exact .inr ⟨hlater, hopen, Nat.lt_of_lt_of_le hcounted hgrows.nextSession_le⟩

end Forward

namespace Host

variable {host next : Host} {caller other : Caller} {number : Nat} {forward : Forward}
  {connection : Connection} {event : Event} {aborted eager : Bool}

structure Books (channel : Channel) (host : Host) : Prop where
  sessions : host.channel.sessions = channel.sessions
  nextSession : host.channel.nextSession = channel.nextSession
  frames : host.channel.outbox.frames = channel.outbox.frames
  endpoints : host.ledger.endpoints = (channel.ledger []).endpoints
  origins : host.register.origins = channel.register.origins

/-- The channel after the turn of a forward is what its section of work made of it. -/
theorem Took.books {turn : Turn Job Outcome} {after : Host}
    (htook : host.Took caller (.forward number forward) turn after next) :
    next.Books after.channel := by
  have hleft : (leftBy caller (.forward number forward) turn after.channel).ledger [] =
      after.channel.ledger [] := by
    unfold leftBy
    split
    · rw [ledger_leave]
      rfl
    · rfl
    · rfl
  have hchannel := htook.channel
  refine ⟨?_, ?_, ?_, ?_, htook.origins.1⟩
  · exact (congrArg Channel.sessions hchannel).trans (congrArg Ledger.sessions hleft)
  · exact (congrArg Channel.nextSession hchannel).trans (congrArg Ledger.nextSession hleft)
  · exact (congrArg (·.outbox.frames) hchannel).trans (congrArg Ledger.frames hleft)
  · rw [← hleft, ledger, hchannel]
    rfl

/-- **The turn of a forward** that was not told to end. -/
theorem Took.moves
    (htook : host.Took caller (.forward number forward)
      (host.workOf eager caller (.forward number forward) false).1
      (host.workOf eager caller (.forward number forward) false).2 next)
    (hconnection : host.clients[number]? = some connection) :
    ∃ after, forward.Moves host.channel connection after ∧ next.Books after.2.1 ∧
      next.clients = host.clients.set number after.2.2 ∧
      next.tasks[caller]? = some (.ofTurn (after.1.map (.forward number) .ofForward)) := by
  have hmoves := forward.moves_step host.channel caller connection eager
  have hbooks := htook.books
  obtain ⟨hclients, verdict, hself⟩ := And.intro htook.clients htook.task
  simp only [workOf, stepJob, hconnection, Bool.false_eq_true, if_false] at hbooks hclients hself
  refine ⟨_, hmoves, hbooks, hclients, ?_⟩
  rw [hself]
  generalize (forward.step eager host.channel caller connection).1 = turn
  cases turn <;> rfl

/-- Where a forward comes from that is at work: it has been there, or it has just been started, or
it has taken its turn. -/
inductive ForwardOrigin (host : Host) (caller : Caller) (number : Nat) (forward : Forward) :
    Event → Host → Prop
  | stays {event : Event} {next : Host} {marked : Bool}
      (htask : host.tasks[caller]? = some (.working (.forward number forward) marked)) :
      ForwardOrigin host caller number forward event next
  | starts {port : UInt16} {next : Host} (hcaller : caller = host.tasks.length)
      (hnumber : number = host.clients.length) (hforward : forward = .create port)
      (hclients : next.clients = host.clients ++ [.fresh]) :
      ForwardOrigin host caller number forward (.step (.forward port)) next
  | turns {eager : Bool} {next : Host} {before : Forward} {connection : Connection}
      {after : Forward.After}
      (htask : host.tasks[caller]? = some (.working (.forward number before) false))
      (hconnection : host.clients[number]? = some connection)
      (hmoves : before.Moves host.channel connection after) (hbooks : next.Books after.2.1)
      (hclients : next.clients = host.clients.set number after.2.2)
      (hnext : after.1.next? = some forward) :
      ForwardOrigin host caller number forward (.step (.turn eager caller)) next

theorem next?_workOf_forward {later : Job}
    (hnext : (host.workOf eager caller (.forward number forward) aborted).1.next? = some later) :
    aborted = false ∧ ∃ connection, host.clients[number]? = some connection ∧
      ∃ next, (forward.step eager host.channel caller connection).1.next? = some next ∧
        later = .forward number next := by
  cases aborted with
  | true => cases hnext
  | false =>
      simp only [workOf, stepJob, Bool.false_eq_true, if_false] at hnext
      split at hnext
      · cases hnext
      · rename_i connection hconnection
        rw [Turn.next?_map, Option.map_eq_some_iff] at hnext
        obtain ⟨next, hnext, rfl⟩ := hnext
        exact ⟨rfl, connection, hconnection, next, hnext, rfl⟩

theorem Happened.origin (h : host.Happened event next)
    (htask : next.tasks[caller]? = some (.working (.forward number forward) aborted)) :
    host.ForwardOrigin caller number forward event next := by
  cases h with
  | @turns eager taker job marked _ htaken htook hyields =>
      obtain ⟨earlier, verdict, -, hbefore, hheard⟩ | ⟨later, verdict, rfl, hnext, hheard⟩ |
        ⟨-, frame, hframe⟩ := htook.origin htask
      · rw [Job.forward_of_hear hheard.symm] at hbefore
        exact .stays hbefore
      · obtain rfl := Job.forward_of_hear hheard.symm
        have hcharge := charge_workOf hnext
        cases job with
        | forward used before =>
            cases hcharge
            obtain ⟨rfl, connection, hconnection, state, hstate, heq⟩ := next?_workOf_forward hnext
            cases heq
            have hmoves := before.moves_step host.channel caller connection eager
            have hbooks := htook.books
            have hclients := htook.clients
            simp only [workOf, stepJob, hconnection, Bool.false_eq_true, if_false]
              at hbooks hclients
            exact .turns htaken hconnection hmoves hbooks hclients hstate
        | call | reply | awaitClose | readStream | writeStream | readDatagrams | writeDatagrams =>
            cases hcharge
      · cases hframe
  | lets hlets =>
      obtain ⟨before, marked, verdict, hbefore, hheard⟩ |
        ⟨-, ⟨hcaller, hstarts⟩ | ⟨frame, hframe⟩⟩ :=
        origin_of_tasks hlets.tasks hlets.fresh htask
      · rw [Job.forward_of_hear hheard.symm] at hbefore
        exact .stays hbefore
      · cases event with
        | step step =>
            cases step <;> cases hstarts
            exact .starts hcaller rfl rfl hlets.clients
        | hear | take | abandon => cases hstarts
      · cases hframe

/-! ### Connections and sessions of forwards -/

theorem Happened.length_clients (h : host.Happened event next) :
    host.clients.length ≤ next.clients.length := by
  cases h with
  | @turns eager caller job aborted _ htask htook hyields =>
      rw [htook.clients]
      cases aborted with
      | true => exact Nat.le_refl _
      | false =>
          cases job with
          | forward number forward =>
              simp only [workOf, stepJob, Bool.false_eq_true, if_false]
              split
              · exact Nat.le_refl _
              · exact Nat.le_of_eq List.length_set.symm
          | call | reply | awaitClose | readStream | writeStream | readDatagrams | writeDatagrams =>
              exact Nat.le_refl _
  | lets hlets =>
      rw [hlets.clients]
      cases event with
      | step step =>
          cases step with
          | forward port => exact List.length_append.symm ▸ Nat.le_add_right _ _
          | line line change =>
              cases line with
              | wire => exact Nat.le_refl _
              | client number => exact Nat.le_of_eq (List.length_modify _ _ _).symm
          | call | awaitClose | abort | turn | advance | silence | stopAccepting | letGo | close
          | fail => exact Nat.le_refl _
      | hear | take | abandon => exact Nat.le_refl _

structure Forwards (host : Host) : Prop where
  client : ∀ (caller : Caller) (number : Nat) (forward : Forward) (aborted : Bool),
    host.tasks[caller]? = some (.working (.forward number forward) aborted) →
      number < host.clients.length
  stands : ∀ (caller : Caller) (number : Nat) (forward : Forward) (aborted : Bool),
    host.tasks[caller]? = some (.working (.forward number forward) aborted) →
      forward.Stands host.channel.nextSession

theorem Forwards.happened (h : host.Forwards) (hhappened : host.Happened event next)
    (hgrows : host.register.Grows next.register) : next.Forwards where
  client := fun caller number forward aborted htask => by
    cases hhappened.origin htask with
    | stays hbefore | turns hbefore =>
        exact Nat.lt_of_lt_of_le (h.client _ _ _ _ hbefore) hhappened.length_clients
    | starts hcaller hnumber hforward hclients =>
        rw [hclients, List.length_append, hnumber]
        exact Nat.lt_succ_self _
  stands := fun caller number forward aborted htask => by
    cases hhappened.origin htask with
    | stays hbefore => exact (h.stands _ _ _ _ hbefore).mono hgrows
    | starts hcaller hnumber hforward => exact .inl (by rw [hforward]; rfl)
    | turns hbefore hconnection hmoves hbooks hclients hnext =>
        rw [hbooks.nextSession]
        exact hmoves.stands (h.stands _ _ _ _ hbefore) hnext

def Owns (host : Host) (caller : Caller) (number : Nat) : Prop :=
  ∀ (other : Caller) (used : Nat) (forward : Forward) (aborted : Bool),
    host.tasks[other]? = some (.working (.forward used forward) aborted) → other ≠ caller →
      used ≠ number

theorem Owns.happened (h : host.Owns caller number) (hnumber : number < host.clients.length)
    (hhappened : host.Happened event next) : next.Owns caller number := by
  intro other used forward aborted htask hne
  cases hhappened.origin htask with
  | stays hbefore | turns hbefore => exact h other used _ _ hbefore hne
  | starts hcaller hused => exact Nat.ne_of_gt (hused ▸ hnumber)

def Unshared (host : Host) (caller : Caller) (id : UInt32) : Prop :=
  ∀ (other : Caller) (number : Nat) (forward : Forward) (aborted : Bool),
    host.tasks[other]? = some (.working (.forward number forward) aborted) → other ≠ caller →
      forward.stage ≠ .opening → forward.stats.session ≠ id

/-- An id that was given away is not the one of a session that is opened later. -/
theorem Unshared.happened {id : UInt32} (h : host.Unshared caller id)
    (hid : id.toNat < host.channel.nextSession) (hhappened : host.Happened event next) :
    next.Unshared caller id := by
  intro other number forward aborted htask hne hstage
  cases hhappened.origin htask with
  | stays hbefore => exact h other number forward _ hbefore hne hstage
  | starts hcaller hnumber hforward =>
      rw [hforward] at hstage
      exact absurd rfl hstage
  | @turns eager _ before connection after hbefore hconnection hmoves hbooks hclients hnext =>
      by_cases hopening : before.stage = .opening
      · obtain ⟨turn, channel, rfl, -, rfl | ⟨error, rfl⟩⟩ | ⟨id, channel, hopens, rfl⟩ :=
          hmoves.of_opening hopening <;> cases hnext
        · exact absurd hopening hstage
        · rintro rfl
          exact absurd hid (Nat.not_lt.mpr hopens.fresh)
      · rw [(hmoves.keeps hopening hnext).2.2]
        exact h other number before _ hbefore hne hopening

end Host

end SessionMux
