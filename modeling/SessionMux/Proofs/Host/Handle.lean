import SessionMux.Proofs.Channel.Endings
import SessionMux.Proofs.Host.Waits

/-!
# Handles of sessions that have ended

A handle knows its session by the id alone. Our side never gives an id away twice, but the peer can
open a session with any id that is not live. So once a session has ended, its handle shows nothing
and its calls fail and change nothing, as long as no later session with the same id is live
(`handle_of_ended`); a handle that outlives this acts on the later session (`handle_of_reopened`).
-/

namespace SessionMux

/-! ### Calls on a session that is not live -/

def Request.session? : Request → Option UInt32
  | send id _ | closeSession id | closeAndWait id _ | sendError id _ => some id
  | openSession .. => none

/-- The errors with which a call on a session fails that is not live. It learns that the channel is
closed only where that is gone, or closed, or no longer writes what is queued. -/
def Request.IsRefused (request : Request) (id : UInt32) (channel : Channel) (present : Bool) :
    ChannelError → Prop
  | .closed => present = false ∨ channel.closed = true ∨ channel.outbox.draining = false
  | .unknownSession session => session = id
  | .payloadTooLarge size max => ∃ payload, request = .send id payload ∧ size = payload.length ∧
      max = channel.config.maxPayload ∧ max < size
  | _ => False

namespace Call

variable {channel : Channel} {id : UInt32}

theorem perform_of_unknown (hfind : channel.sessions.find? id = none) {request : Request}
    (hrequest : request.session? = some id) (clock : Nat) (caller : Caller) :
    ∃ error,
      perform channel clock caller request = (.ends (.error error), channel.giveBack caller) ∧
      (channel.closed = true ∧ error = .closed ∨ error = .unknownSession id) := by
  cases request with
  | openSession port kind => cases hrequest
  | send session payload | closeSession session | closeAndWait session timeout
  | sendError session code =>
      cases hrequest
      cases hclosed : channel.closed with
      | true =>
          refine ⟨.closed, ?_, .inl ⟨rfl, rfl⟩⟩
          simp [perform, Channel.send, Channel.closeSession, Channel.sendError, hclosed, Except.map]
      | false =>
          refine ⟨.unknownSession id, ?_, .inr rfl⟩
          simp [perform, Channel.send, Channel.closeSession, Channel.sendError, hclosed, hfind,
            Except.map]

/-- What a turn of a call comes to on a session that is not live: the call has found that the
channel exists, or waits for a place in the queue, or fails. -/
def Fails (channel : Channel) (present : Bool) (caller : Caller) (request : Request) (id : UInt32)
    (stage : CallStage) : Turn CallStage CallResult → Prop
  | .goes next => next = .asking ∧ stage = .arriving
  | .waits next => next = .asking ∧ (channel.reserve caller).1 = .waiting
  | .ends result =>
    ∃ error, result = .error error ∧ request.IsRefused id channel present error

theorem ask_of_unknown (hfind : channel.sessions.find? id = none) {request : Request}
    (hrequest : request.session? = some id) (present : Bool) (clock : Nat) (caller : Caller)
    (replies : List Frame) :
    (ask channel clock caller request).2.ledger replies = channel.ledger replies ∧
      (ask channel clock caller request).2.register = channel.register ∧
      Fails channel present caller request id .asking (ask channel clock caller request).1 := by
  have hledger : (channel.reserve caller).2.ledger replies = channel.ledger replies :=
    Channel.ledger_reserve caller
  unfold ask
  extract_lets oversize
  have hoversize : ∀ error, oversize = some error →
      request.IsRefused id channel present error := by
    intro error herror
    cases request with
    | send session payload =>
        simp only [oversize, Channel.oversize?] at herror
        split_ifs at herror with hsize
        cases herror
        cases hrequest
        exact ⟨payload, rfl, rfl, rfl, hsize⟩
    | openSession | closeSession | closeAndWait | sendError =>
        simp only [oversize, reduceCtorEq] at herror
  clear_value oversize
  cases oversize with
  | some error => exact ⟨rfl, rfl, error, rfl, hoversize error rfl⟩
  | none =>
      have hsame : (channel.reserve caller).2.sessions.find? id = none := hfind
      have hregister := channel.register_reserve caller
      have hclosed : (channel.reserve caller).2.closed = channel.closed := rfl
      rcases hreserve : channel.reserve caller with ⟨_ | _ | _, next⟩ <;>
        rw [hreserve] at hledger hsame hregister hclosed
      · obtain ⟨error, hperform, hrefused⟩ := perform_of_unknown hsame hrequest clock caller
        simp only [hperform]
        rw [Channel.ledger_giveBack, Channel.register_giveBack]
        refine ⟨hledger, hregister, error, rfl, ?_⟩
        obtain ⟨hended, rfl⟩ | rfl := hrefused
        · exact .inr (.inl (hclosed.symm.trans hended))
        · rfl
      · exact ⟨hledger, hregister, rfl, congrArg Prod.fst hreserve⟩
      · exact ⟨hledger, hregister, .closed, rfl, .inr (.inr (Channel.reserve_eq_refused hreserve))⟩

theorem step_of_unknown (hfind : channel.sessions.find? id = none) {request : Request}
    (hrequest : request.session? = some id) {stage : CallStage}
    (hstage : stage = .arriving ∨ stage = .asking) (present : Bool) (clock : Nat) (caller : Caller)
    (replies : List Frame) :
    (step channel present clock caller request stage).2.ledger replies = channel.ledger replies ∧
      (step channel present clock caller request stage).2.register = channel.register ∧
      Fails channel present caller request id stage
        (step channel present clock caller request stage).1 := by
  obtain rfl | rfl := hstage
  · cases present with
    | true => exact ⟨rfl, rfl, rfl, rfl⟩
    | false => exact ⟨rfl, rfl, .closed, rfl, .inl rfl⟩
  · exact ask_of_unknown hfind hrequest present clock caller replies

end Call

namespace Host

variable {host : Host}

/-- A turn of a call on a session that is not live changes nothing but the call, which goes on to
ask for a place in the queue, or waits for one, or fails. -/
theorem turn_of_unknown (h : host.Waits) {caller : Caller} {request : Request} {stage : CallStage}
    {id : UInt32} (htask : host.tasks[caller]? = some (.working (.call request stage) false))
    (hfind : host.channel.sessions.find? id = none) (hrequest : request.session? = some id)
    (hstage : stage = .arriving ∨ stage = .asking) :
    (host.turn false caller).1.ledger = host.ledger ∧
      (host.turn false caller).1.register = host.register ∧
      ((host.turn false caller).1.tasks[caller]? =
            some (.working (.call request .asking) false) ∧
          (stage = .arriving ∨ (host.channel.reserve caller).1 = .waiting) ∨
        ∃ error, (host.turn false caller).1.outcome? caller = some (.failed error) ∧
          request.IsRefused id host.channel host.present error) := by
  obtain ⟨hcaller, -⟩ := List.getElem?_eq_some_iff.mp htask
  obtain ⟨hledger, hregister, hfails⟩ := Call.step_of_unknown hfind hrequest hstage host.present
    host.clock caller host.replies
  have hsettles := settles_turn htask
  have hwritten : (host.turn false caller).1.register = _ := hsettles.written
  rw [hregister] at hwritten
  have hsame : (host.turn false caller).1.register = host.register := by
    rw [hwritten, ← h.told]
    rfl
  have hheard := hsettles.heard caller _ (List.getElem?_set_self hcaller)
  have hplain : (Job.call request .asking).IsPlain := by
    cases request <;> simp [Job.IsPlain]
  rcases hstep : Call.step host.channel host.present host.clock caller request stage with
    ⟨next | next | result, channel⟩ <;> rw [hstep] at hledger hfails hheard
  · obtain ⟨rfl, hwaiting⟩ := hfails
    obtain ⟨hturned, -⟩ := turn_of_goes htask h.truthful.plain hplain (.inl hstep)
    exact ⟨hturned.trans hledger, hsame, .inl ⟨hheard, .inr hwaiting⟩⟩
  · obtain ⟨rfl, harriving⟩ := hfails
    obtain ⟨hturned, -⟩ := turn_of_goes htask h.truthful.plain hplain (.inr hstep)
    exact ⟨hturned.trans hledger, hsame, .inl ⟨hheard, .inl harriving⟩⟩
  · obtain ⟨error, rfl, hrefused⟩ := hfails
    obtain ⟨hturned, houtcome, -⟩ := turn_of_ends htask h.truthful.plain hstep
    exact ⟨hturned.trans hledger, hsame, .inr ⟨error, houtcome, hrefused⟩⟩

end Host

/-! ### Ids of sessions -/

structure Register.Numbered (register : Register) : Prop where
  below : ∀ id, (id, false) ∈ register.origins → id.toNat < register.nextSession
  distinct : register.origins.Pairwise fun earlier later =>
    earlier.1 = later.1 → earlier.2 = true ∨ later.2 = true

namespace Register

variable {register next : Register}

theorem Grows.numbered (hgrows : register.Grows next) (h : register.Numbered) : next.Numbered := by
  have hkept (horigins : next.origins = register.origins)
      (hnext : register.nextSession ≤ next.nextSession) : next.Numbered := by
    refine ⟨fun id hmem => ?_, ?_⟩
    · rw [horigins] at hmem
      exact Nat.lt_of_lt_of_le (h.below id hmem) hnext
    · rw [horigins]
      exact h.distinct
  cases hgrows with
  | rests horigins hsame => exact hkept horigins (Nat.le_of_eq hsame.symm)
  | exhausts horigins hnext => exact hkept horigins (hnext ▸ le_max_left _ _)
  | @opens id hnext hparity hafter horigins =>
      refine ⟨fun other hmem => ?_, ?_⟩
      · rw [horigins, List.mem_append, List.mem_singleton] at hmem
        rw [hafter]
        obtain hmem | heq := hmem
        · have hbelow := h.below other hmem
          omega
        · cases heq
          omega
      · rw [horigins, List.pairwise_append]
        refine ⟨h.distinct, List.pairwise_singleton _ _, ?_⟩
        rintro ⟨other, inbound⟩ hmem later hlater
        rw [List.mem_singleton] at hlater
        subst hlater
        rintro rfl
        -- The counter is above all ids of our side, so only the peer can have taken this one.
        cases inbound with
        | true => exact .inl rfl
        | false => exact absurd (h.below other hmem) (Nat.not_lt.mpr hnext)
  | @admits id hsame horigins =>
      refine ⟨fun other hmem => ?_, ?_⟩
      · rw [horigins, List.mem_append, List.mem_singleton] at hmem
        rw [hsame]
        obtain hmem | heq := hmem
        · exact h.below other hmem
        · cases heq
      · rw [horigins, List.pairwise_append]
        refine ⟨h.distinct, List.pairwise_singleton _ _, ?_⟩
        rintro earlier - later hlater
        rw [List.mem_singleton] at hlater
        subst hlater
        exact fun _ => .inr rfl

/-- An id that the peer has not used belongs to at most one session. -/
theorem Numbered.count_le_one (h : register.Numbered) {id : UInt32}
    (hours : ∀ origin ∈ register.origins, origin.1 = id → origin.2 = false) :
    (register.origins.map (·.1)).count id ≤ 1 := by
  have hdistinct := h.distinct
  generalize register.origins = origins at hours hdistinct
  induction origins with
  | nil => exact Nat.zero_le _
  | cons origin origins ih =>
      rw [List.forall_mem_cons] at hours
      rw [List.pairwise_cons] at hdistinct
      rw [List.map_cons, List.count_cons]
      split
      · rename_i heq
        have hnone : id ∉ origins.map (·.1) := by
          rintro hmem
          obtain ⟨later, hlater, rfl⟩ := List.mem_map.mp hmem
          have hsame := beq_iff_eq.mp heq
          obtain hpeer | hpeer := hdistinct.1 later hlater hsame
          · cases hpeer.symm.trans (hours.1 hsame)
          · cases hpeer.symm.trans (hours.2 later hlater rfl)
        rw [List.count_eq_zero.mpr hnone]
      · exact ih hours.2 hdistinct.2

end Register

namespace Host

variable {host : Host}

theorem Effect.grows {move : Move} {tasks : List HostTask} {register : Register}
    (heffect : host.Effect move tasks register) : host.register.Grows register := by
  cases heffect with
  | rests hgrows | ends _ _ hgrows => exact hgrows
  | marks | arrives | begins | givesUp => exact .rests rfl rfl
  | acknowledges =>
      unfold Register.acknowledge
      split <;> exact .rests rfl rfl
  | closes =>
      unfold Register.close
      split <;> exact .rests rfl rfl

/-- What a move does to the ledger: a section of work, a frame of the peer, or no more than to take
frames out of the queue. -/
theorem ledger_move (hplain : host.Plain) (move : Move) :
    (∃ sent, host.ledger.Works sent (host.move move).ledger) ∨
      (∃ frame admission, move = .hear frame admission ∧
        host.ledger.Receives frame admission (host.move move).ledger) ∨
      ∃ frames draining, (host.move move).ledger = { host.ledger with frames, draining } := by
  cases move with
  | act action => exact .inl ⟨_, (works_act hplain action).1⟩
  | hear frame admission =>
      exact .inr (.inl ⟨frame, admission, rfl, receives_hear host frame admission⟩)
  | take =>
      rw [Host.move, takeFrames]
      cases htake : host.channel.takeFrame? with
      | none => exact .inr (.inr ⟨host.ledger.frames, host.ledger.draining, rfl⟩)
      | some taken =>
          obtain ⟨frame, channel⟩ := taken
          exact .inr (.inr ⟨_, host.ledger.draining, (ledger_takeFrame htake).2⟩)
  | abandon =>
      right
      right
      rw [Host.move, abandonOutbox, ledger_settleChannel, Channel.ledger_abandonOutbox]
      exact ⟨[], false, rfl⟩

/-- What handles rely on: live sessions find their endpoints, which have not been told of an end,
and the sessions of our side are numbered. -/
structure Housed (host : Host) : Prop where
  waits : host.Waits
  homed : host.ledger.Homed
  unended : host.ledger.Unended
  numbered : host.register.Numbered

theorem housed_create (config : ChannelConfig) (depth : Nat) (reception : Reception) :
    (create config depth reception).Housed where
  waits := waits_create config depth reception
  homed := Ledger.homed_of_empty rfl
  unended := Ledger.unended_of_empty rfl
  numbered := ⟨fun _ hmem => absurd hmem List.not_mem_nil, List.Pairwise.nil⟩

theorem Housed.move (h : host.Housed) (move : Move) : (host.move move).Housed := by
  have hplaces : (host.move move).ledger.Homed ∧ (host.move move).ledger.Unended := by
    obtain ⟨sent, hworks⟩ | ⟨frame, admission, -, hreceives⟩ | ⟨frames, draining, hsame⟩ :=
      ledger_move h.waits.truthful.plain move
    · exact ⟨hworks.homed h.homed, hworks.unended h.homed h.unended⟩
    · exact ⟨hreceives.homed h.homed, hreceives.unended h.homed h.unended⟩
    · rw [hsame]
      exact ⟨h.homed.of_same rfl rfl, h.unended.of_same rfl rfl⟩
  obtain ⟨tasks, register, heffect, hsettles⟩ :=
    effect_move h.waits.truthful.plain h.waits.told move
  have hwritten : (host.move move).register = { register with verdicts := [] } := hsettles.written
  refine ⟨h.waits.move move, hplaces.1, hplaces.2, ?_⟩
  rw [hwritten]
  exact ⟨(heffect.grows.numbered h.numbered).below, (heffect.grows.numbered h.numbered).distinct⟩

theorem Housed.run (h : host.Housed) (moves : List Move) : (moves.foldl Host.move host).Housed := by
  induction moves generalizing host with
  | nil => exact h
  | cons move moves ih => exact ih (h.move move)

theorem Housed.extends (h : host.Housed) (moves : List Move) :
    host.ledger.Extends (moves.foldl Host.move host).ledger := by
  induction moves generalizing host with
  | nil => exact .refl _
  | cons move moves ih =>
      refine Ledger.Extends.trans ?_ (ih (h.move move))
      obtain ⟨sent, hworks⟩ | ⟨frame, admission, -, hreceives⟩ | ⟨frames, draining, hsame⟩ :=
        ledger_move h.waits.truthful.plain move
      · exact hworks.extends
      · exact hreceives.extends
      · exact .of_same (by rw [hsame])

theorem Reachable.housed (h : host.Reachable) : host.Housed := by
  obtain ⟨config, depth, reception, moves, rfl⟩ := h
  exact (housed_create config depth reception).run moves

/-- **Handles of sessions that have ended.** Two sessions share an id only where the peer has opened
one of them. Once the endpoint of a session was told of its end, its handle shows nothing in any
later state in which no later session with the same id is live. There its calls change nothing: each
asks for a place in the queue and waits for one, or fails, because nothing can be sent any more,
because the session is unknown, or because a payload is too long in any case. -/
theorem handle_of_ended (hreachable : host.Reachable) (moves : List Move) :
    let now := moves.foldl Host.move host
    (now.channel.endpoints.Pairwise fun earlier later =>
      earlier.session = later.session → earlier.inbound = true ∨ later.inbound = true) ∧
    ∀ (place : Nat) (endpoint : Endpoint), host.channel.endpoints[place]? = some endpoint →
      .closed ∈ endpoint.told →
      (∀ later ∈ now.channel.endpoints.drop (place + 1), later.session = endpoint.session →
        .closed ∈ later.told) →
      now.shown? endpoint.session = none ∧
      ∀ (caller : Caller) (request : Request) (stage : CallStage),
        now.tasks[caller]? = some (.working (.call request stage) false) →
        request.session? = some endpoint.session → (stage = .arriving ∨ stage = .asking) →
        let next := now.move (.act (.turn caller))
        next.ledger = now.ledger ∧ next.register = now.register ∧
          (next.tasks[caller]? = some (.working (.call request .asking) false) ∧
              (stage = .arriving ∨ (now.channel.reserve caller).1 = .waiting) ∨
            ∃ error, next.outcome? caller = some (.failed error) ∧
              request.IsRefused endpoint.session now.channel now.present error) := by
  intro now
  have hhoused : now.Housed := hreachable.housed.run moves
  refine ⟨?_, fun place endpoint hplace hended hlater => ?_⟩
  · have hdistinct := hhoused.numbered.distinct
    rw [register, Channel.register, List.pairwise_map] at hdistinct
    exact hdistinct
  · have hbefore : host.ledger.endpoints[place]? = some (endpoint.session, endpoint.told) := by
      change (host.channel.endpoints.map fun endpoint =>
        (endpoint.session, endpoint.told))[place]? = _
      rw [List.getElem?_map, hplace]
      rfl
    obtain ⟨more, hafter⟩ := hreachable.housed.extends moves place _ _ hbefore
    have hfind : now.channel.sessions.find? endpoint.session = none := by
      refine Ledger.find?_of_told_closed hhoused.homed hhoused.unended hafter
        (List.mem_append_left _ hended) fun later hmem hsession => ?_
      change later ∈ (now.channel.endpoints.map _).drop (place + 1) at hmem
      rw [← List.map_drop] at hmem
      obtain ⟨other, hother, rfl⟩ := List.mem_map.mp hmem
      exact hlater other hother hsession
    refine ⟨by simp [shown?, hfind], fun caller request stage htask hrequest hstage => ?_⟩
    exact turn_of_unknown hhoused.waits htask hfind hrequest hstage

def parted : Host :=
  [.act (.call (.openSession 80 .queue) false), .act (.turn 0),
    .act (.call (.closeSession 1) true), .act (.turn 1), .act (.turn 1)].foldl Host.move
    (create { (default : ChannelConfig) with maxPayload := 2 } 4 { rules := [], accepting := true })

/-- The peer opens a session with the id and closes it, too; then the first handle is used. -/
theorem handle_of_ended_send :
    let now := [.hear { port := 81, session := 1, body := .control .sessionOpen } (.ok .queue),
      .hear { port := 81, session := 1, body := .control .sessionClose } (.ok .queue),
      .act (.call (.send 1 [7]) true), .act (.turn 2)].foldl Host.move parted
    let next := now.move (.act (.turn 2))
    (∀ later ∈ now.channel.endpoints.drop 1, later.session = 1 → .closed ∈ later.told) ∧
      now.shown? 1 = none ∧ next.ledger = now.ledger ∧ next.register = now.register ∧
      next.outcome? 2 = some (.failed (.unknownSession 1)) := by
  intro now next
  have hlater : ∀ later ∈ now.channel.endpoints.drop 1, later.session = 1 →
      .closed ∈ later.told := by decide
  obtain ⟨-, hhandles⟩ := handle_of_ended ⟨_, _, _, _, rfl⟩
    [.hear { port := 81, session := 1, body := .control .sessionOpen } (.ok .queue),
      .hear { port := 81, session := 1, body := .control .sessionClose } (.ok .queue),
      .act (.call (.send 1 [7]) true), .act (.turn 2)]
  obtain ⟨hshown, hcalls⟩ := hhandles 0
    { session := 1, port := 80, kind := .queue, inbound := false, listening := true,
      told := [.closed] } (by decide) (by decide) hlater
  obtain ⟨hledger, hregister, -⟩ := hcalls 2 (.send 1 [7]) .asking (by decide) rfl (.inr rfl)
  exact ⟨hlater, hshown, hledger, hregister, by decide⟩

/-- The peer opens a session with the id of one that has ended. The handle of that one shows the new
session, and sends on it. -/
theorem handle_of_reopened :
    let now := [.hear { port := 81, session := 1, body := .control .sessionOpen } (.ok .queue),
      .act (.call (.send 1 [7]) true), .act (.turn 2), .act (.turn 2)].foldl Host.move parted
    parted.channel.endpoints.map (·.told) = [[.closed]] ∧ parted.shown? 1 = none ∧
      now.shown? 1 = some { port := 81, endpoint := 1, bytesIn := 0, bytesOut := 1 } ∧
      now.outcome? 2 = some .done ∧ now.channel.endpoints.map (·.session) = [1, 1] := by
  decide

end Host

end SessionMux
