import SessionMux.Forward.Step
import SessionMux.Proofs.Channel.Search
import SessionMux.Proofs.Host.Rest
import SessionMux.Proofs.Link.Connection

/-!
# What a section of a forward's work does

`Forward.Moves` lists it: how the forward goes on, what is done to the ledger of its channel, what
is read from the local side and what is written to it. Everything that holds of a forward is a case
analysis on this list; the sections themselves are looked into only here (`Forward.moves_step`).
-/

namespace SessionMux

/-- A section of local work, whatever replies are held by tasks meanwhile. -/
structure Channel.Works (channel : Channel) (sent : Option (UInt32 × Bytes)) (next : Channel) :
    Prop where
  ledger : ∀ replies, (channel.ledger replies).Works sent (next.ledger replies)
  register : channel.register.Grows next.register

namespace Channel

variable {channel next last : Channel} {caller : Caller} {reservation : Outbox.Reservation}

theorem Works.refl (channel : Channel) : channel.Works none channel where
  ledger := fun _ => .rests
  register := .refl _

theorem Works.of_same {sent : Option (UInt32 × Bytes)}
    (hledger : ∀ replies, (channel.ledger replies).Works sent (next.ledger replies))
    (hregister : next.register = channel.register) : channel.Works sent next where
  ledger := hledger
  register := by
    rw [hregister]
    exact .refl _

/-- To have a place in the queue is no work yet. -/
theorem Works.after_reserve {sent : Option (UInt32 × Bytes)} (hworks : next.Works sent last)
    (hreserve : channel.reserve caller = (reservation, next)) : channel.Works sent last := by
  have hledger (replies : List Frame) :
      (channel.reserve caller).2.ledger replies = channel.ledger replies := ledger_reserve caller
  have hregister := channel.register_reserve caller
  rw [hreserve] at hledger hregister
  constructor
  · intro replies
    rw [← hledger]
    exact hworks.ledger replies
  · rw [← hregister]
    exact hworks.register

theorem Works.of_reserve (hreserve : channel.reserve caller = (reservation, next)) :
    channel.Works none next :=
  (Works.refl next).after_reserve hreserve

theorem Works.send (channel : Channel) (caller : Caller) (id : UInt32) (payload : Bytes) :
    channel.Works
      ((channel.send caller id payload).1.toOption.map fun () => (id, payload))
      (channel.send caller id payload).2 :=
  .of_same (fun _ => works_send caller id payload) (register_send caller id payload)

/-- A place is granted only while somebody takes frames out of the queue. -/
theorem draining_of_granted (hreserve : channel.reserve caller = (.granted, next)) :
    channel.outbox.draining = true := by
  cases hdraining : channel.outbox.draining with
  | true => rfl
  | false =>
      simp [reserve, Outbox.reserve, hdraining] at hreserve

theorem eq_of_reserve (hreserve : channel.reserve caller = (reservation, next)) :
    next = { channel with outbox := next.outbox } := by
  obtain ⟨-, rfl⟩ := Prod.mk.inj hreserve
  rfl

theorem find?_of_unknown {id other : UInt32} {payload : Bytes}
    (hsend : channel.send caller id payload = (.error (.unknownSession other), next)) :
    channel.sessions.find? id = none := by
  rw [send] at hsend
  split at hsend
  · cases hsend
  · split at hsend
    · assumption
    · cases hsend

theorem closed_of_send {id : UInt32} {payload : Bytes} {error : ChannelError}
    (hsend : channel.send caller id payload = (.error error, next))
    (hknown : error ≠ .unknownSession id) : error = .closed ∧ channel.closed = true := by
  rw [send] at hsend
  split at hsend
  · rename_i hclosed
    cases hsend
    exact ⟨rfl, hclosed⟩
  · split at hsend <;> cases hsend
    exact absurd rfl hknown

theorem closed_of_closeSession {id : UInt32} {waits : Bool} {error : ChannelError}
    (hclose : channel.closeSession caller id waits = (.error error, next))
    (hknown : error ≠ .unknownSession id) : error = .closed ∧ channel.closed = true := by
  rw [closeSession] at hclose
  split at hclose
  · rename_i hclosed
    cases hclose
    exact ⟨rfl, hclosed⟩
  · split at hclose <;> cases hclose
    exact absurd rfl hknown

/-- After a session was to be closed on an open channel, it is gone, whether it was there or not. -/
theorem find?_closeSession (hopen : channel.closed = false) (id : UInt32) (waits : Bool) :
    (channel.closeSession caller id waits).2.sessions.find? id = none := by
  rw [closeSession, if_neg (by simp [hopen])]
  split
  · assumption
  · rename_i session hfind
    have hremoved : (channel.removeSession id).sessions.find? id = none := by
      simp only [removeSession, hfind]
      exact (Sessions.find?_erase _ _ _).trans (if_pos rfl)
    cases waits <;> exact hremoved

structure Opens (channel : Channel) (id : UInt32) (port : UInt16) (kind : EndpointKind)
    (next : Channel) : Prop where
  works : channel.Works none next
  fresh : channel.nextSession ≤ id.toNat
  counted : id.toNat < next.nextSession
  sessions : next.sessions = channel.sessions.insert id (.create port channel.endpoints.length)
  endpoints : next.endpoints = channel.endpoints ++ [Endpoint.create id port kind false]

theorem opens_openSession {id : UInt32} {port : UInt16} {kind : EndpointKind}
    (hopen : channel.openSession caller port kind = (.ok id, next)) :
    channel.Opens id port kind next := by
  have hworks : channel.Works none (channel.openSession caller port kind).2 :=
    ⟨fun _ => works_openSession caller port kind, (channel.grows_openSession caller port kind).1⟩
  rw [hopen] at hworks
  rw [openSession] at hopen
  split at hopen
  · cases hopen
  · dsimp only at hopen
    split at hopen
    · cases hopen
    · rename_i found hfound
      obtain ⟨hid, rfl⟩ := Prod.mk.inj hopen
      cases hid
      obtain ⟨-, hnext, -⟩ := firstFree?_eq_some hfound
      refine ⟨hworks, hnext, ?_, rfl, rfl⟩
      rw [hfound]
      exact Nat.lt_add_of_pos_right Nat.two_pos

theorem Opens.after_reserve {id : UInt32} {port : UInt16} {kind : EndpointKind}
    (hopens : next.Opens id port kind last)
    (hreserve : channel.reserve caller = (reservation, next)) :
    channel.Opens id port kind last := by
  have hworks := hopens.works.after_reserve hreserve
  have hfresh := hopens.fresh
  have hsessions := hopens.sessions
  have hendpoints := hopens.endpoints
  rw [eq_of_reserve hreserve] at hfresh hsessions hendpoints
  exact ⟨hworks, hfresh, hopens.counted, hsessions, hendpoints⟩

end Channel

/-- A session is not in the table any more, unless the channel is closed, or nobody takes frames out
of its queue. -/
def Channel.Parts (channel : Channel) (id : UInt32) (next : Channel) : Prop :=
  next.sessions.find? id = none ∨ channel.closed = true ∨ channel.outbox.draining = false

def ForwardStage.IsLeaving : ForwardStage → Prop
  | reporting _ | closing _ => True
  | opening | listening | sending _ | writing .. => False

theorem ForwardStage.IsLeaving.ne_listening {stage : ForwardStage} (h : stage.IsLeaving) :
    stage ≠ .listening := by
  rintro rfl
  exact h

namespace Forward

inductive Fails (forward : Forward) (channel : Channel) : ChannelError → Channel → Prop
  /-- The channel is closed, or nobody takes frames out of its queue. -/
  | closed {next : Channel}
      (hstage : forward.stage = .opening ∨ (∃ payload, forward.stage = .sending payload) ∨
        forward.stage.IsLeaving)
      (hended : channel.closed = true ∨ channel.outbox.draining = false) :
      Fails forward channel .closed next
  | exhausted {next : Channel} (hstage : forward.stage = .opening)
      (hnext : Channel.sessionBound ≤ next.nextSession) :
      Fails forward channel .idsExhausted next
  | oversize {payload : Bytes} {next : Channel} (hstage : forward.stage = .sending payload)
      (hsize : channel.config.maxPayload < payload.length) :
      Fails forward channel (.payloadTooLarge payload.length channel.config.maxPayload) next

inductive Moves (forward : Forward) (channel : Channel) (client : Connection) : After → Prop
  /-- The forward has to wait, for a place in the queue or for something to take in. -/
  | waits {next : Channel} (hworks : channel.Works none next) :
      Moves forward channel client (.waits forward, next, client)
  | opens {id : UInt32} {next : Channel} (hstage : forward.stage = .opening)
      (hopens : channel.Opens id forward.port .forwarded next) :
      Moves forward channel client
        (.goes { forward with
          stats := { forward.stats with session := id }
          endpoint := some channel.endpoints.length
          stage := .listening }, next, client)
  | fails {error : ChannelError} {next : Channel} (hworks : channel.Works none next)
      (hcause : forward.Fails channel error next) :
      Moves forward channel client (.ends (.error error), next, client)
  | reads {payload : Bytes} {after : Connection} (hstage : forward.stage = .listening)
      (hread : client.read (chunkLimit channel) = (.bytes payload, after)) :
      Moves forward channel client
        (.goes { forward with stage := .sending payload }, channel, after)
  | hears {payload : Bytes} (hstage : forward.stage = .listening)
      (hmessage : forward.message? channel = some (.data payload)) :
      Moves forward channel client
        (.goes { forward with
          heard := forward.heard + 1, stage := .writing payload payload.length }, channel, client)
  /-- The peer reports an error. -/
  | warned {code : ErrorCode} (hstage : forward.stage = .listening)
      (hmessage : forward.message? channel = some (.error code)) :
      Moves forward channel client
        (.goes { forward with heard := forward.heard + 1, stage := .closing .peerError }, channel,
          client)
  | sends {payload : Bytes} {next : Channel} (hstage : forward.stage = .sending payload)
      (hworks : channel.Works (some (forward.stats.session, payload)) next)
      (hdraining : channel.outbox.draining = true) :
      Moves forward channel client
        (.goes { forward with
          stats := { forward.stats with bytesOut := forward.stats.bytesOut + payload.length }
          stage := .listening }, next, client)
  /-- The session has ended meanwhile, and the payload goes nowhere. -/
  | drops {payload : Bytes} {next : Channel} (hstage : forward.stage = .sending payload)
      (hgone : channel.sessions.find? forward.stats.session = none)
      (hworks : channel.Works none next) :
      Moves forward channel client (.goes { forward with stage := .listening }, next, client)
  | writes {rest : Bytes} {size count : Nat} {after : Connection}
      (hstage : forward.stage = .writing rest size)
      (hwrite : client.write rest = (.took count, after)) :
      Moves forward channel client
        (.goes { forward with stage := .writing (rest.drop count) size }, channel, after)
  | delivers {size : Nat} (hstage : forward.stage = .writing [] size) :
      Moves forward channel client
        (.goes { forward with
          stats := { forward.stats with bytesIn := forward.stats.bytesIn + size }
          stage := .listening }, channel, client)
  /-- The local side cannot take the rest of a payload. -/
  | breaks {rest : Bytes} {size : Nat} {fault : Fault} {after : Connection}
      (hstage : forward.stage = .writing rest size) (hrest : rest ≠ [])
      (hclient : client.SameBytes after) 
      (hbroken : Connection.WriteResult.IsBroken (client.write rest).1) :
      Moves forward channel client
        (.goes { forward with stage := .reporting fault }, channel, after)
  /-- The local side has come to its end, or has failed. -/
  | leaves {stage : ForwardStage} {next : Channel} {after : Connection}
      (hstage : forward.stage = .listening ∨ forward.stage.IsLeaving) (hleaves : stage.IsLeaving)
      (hworks : channel.Works none next) (hclient : client.SameBytes after)
      (hlast : forward.stage = .listening →
        Connection.ReadResult.IsLast (client.read (chunkLimit channel)).1) :
      Moves forward channel client (.goes { forward with stage }, next, after)
  /-- The session has been closed, or the forward is done with it. -/
  | ends {next : Channel} {after : Connection}
      (hstage : forward.stage = .listening ∨ forward.stage.IsLeaving)
      (hworks : channel.Works none next) (hclient : client.SameBytes after)
      (hmessage : forward.stage = .listening → forward.message? channel = some .closed)
      (hgone : forward.stage.IsLeaving → channel.Parts forward.stats.session next) :
      Moves forward channel client (.ends (.ok forward.stats), next, after)

variable (forward : Forward) (channel : Channel) (caller : Caller) (client : Connection)

variable {forward channel caller} in
theorem Fails.of_refused {reserved next : Channel}
    (hstage : forward.stage = .opening ∨ (∃ payload, forward.stage = .sending payload) ∨
      forward.stage.IsLeaving)
    (hreserve : channel.reserve caller = (.refused, reserved)) :
    forward.Fails channel .closed next :=
  .closed hstage (.inr (Channel.reserve_eq_refused hreserve))

theorem moves_opened (hstage : forward.stage = .opening) :
    forward.Moves channel client (forward.opened channel caller client) := by
  unfold opened
  split <;> rename_i reserved hreserve
  · exact .fails (.of_reserve hreserve) (.of_refused (.inl hstage) hreserve)
  · exact .waits (.of_reserve hreserve)
  · split <;> rename_i hresult
    · have hworks : reserved.Works none _ :=
        ⟨fun _ => Channel.works_openSession caller forward.port .forwarded,
          (reserved.grows_openSession caller forward.port .forwarded).1⟩
      have hopening := reserved.opening_openSession caller forward.port .forwarded
      rw [hresult] at hworks hopening
      refine .fails (hworks.after_reserve hreserve) ?_
      obtain rfl | rfl := hopening.fails _ rfl
      · have hclosed := hopening.closed.mp rfl
        rw [Channel.eq_of_reserve hreserve] at hclosed
        exact .closed (.inl hstage) (.inl hclosed)
      · exact .exhausted hstage (hopening.counter_of_exhausted rfl)
    · rename_i id next
      have hopens := (Channel.opens_openSession hresult).after_reserve hreserve
      have hendpoint : (next.sessions.find? id).map (·.endpoint) =
          some channel.endpoints.length := by
        rw [hopens.sessions, Sessions.find?_insert, if_pos rfl]
        rfl
      simp only [hendpoint]
      exact .opens hstage hopens

theorem moves_hear (hstage : forward.stage = .listening) {message : Message}
    (hmessage : forward.message? channel = some message) :
    forward.Moves channel client (forward.hear channel client message) := by
  cases message with
  | data payload => exact .hears hstage hmessage
  | error code => exact .warned hstage hmessage
  | closed =>
      refine .ends (.inl hstage) (.refl _) (.shutdown _) (fun _ => hmessage) fun hleaving => ?_
      exact absurd hstage hleaving.ne_listening

theorem moves_listen (eager : Bool) (hstage : forward.stage = .listening) :
    forward.Moves channel client (forward.listen eager channel client) := by
  unfold listen
  extract_lets heard read first
  have hheard (after : After) (hsome : heard = some after) :
      forward.Moves channel client after := by
    obtain ⟨message, hmessage, rfl⟩ := Option.map_eq_some_iff.mp hsome
    exact forward.moves_hear channel client hstage hmessage
  have hread (after : After) (hsome : read = some after) : forward.Moves channel client after := by
    simp only [read] at hsome
    have htaken : Connection.ReadResult.taken (client.read (chunkLimit channel)).1 = [] →
        client.SameBytes (client.read (chunkLimit channel)).2 := .of_read
    split at hsome <;> rename_i hresult <;> rw [hresult] at htaken <;> cases hsome
    · exact .reads hstage hresult
    · exact .leaves (.inl hstage) trivial (.refl _) (htaken rfl) fun _ => hresult ▸ trivial
    · exact .leaves (.inl hstage) trivial (.refl _) (htaken rfl) fun _ => hresult ▸ trivial
  cases hresult : first with
  | none => exact .waits (.refl _)
  | some after =>
      simp only [first] at hresult
      split at hresult
      · exact (Option.or_eq_some_iff.mp hresult).elim (hread after) fun h => hheard after h.2
      · exact (Option.or_eq_some_iff.mp hresult).elim (hheard after) fun h => hread after h.2

theorem moves_transmit {payload : Bytes} (hstage : forward.stage = .sending payload) :
    forward.Moves channel client (forward.transmit channel caller client payload) := by
  unfold transmit
  split
  · rename_i hsize
    rw [Channel.oversize?] at hsize
    split_ifs at hsize with hlong
    cases hsize
    exact .fails (.refl _) (.oversize hstage hlong)
  · split <;> rename_i reserved hreserve
    · exact .fails (.of_reserve hreserve)
        (.of_refused (.inr (.inl ⟨payload, hstage⟩)) hreserve)
    · exact .waits (.of_reserve hreserve)
    · have hworks := Channel.Works.send reserved caller forward.stats.session payload
      split <;> rename_i hresult <;> rw [hresult] at hworks
      · exact .sends hstage (hworks.after_reserve hreserve) (Channel.draining_of_granted hreserve)
      · refine .drops hstage ?_ (hworks.after_reserve hreserve)
        have hgone := Channel.find?_of_unknown hresult
        rw [Channel.eq_of_reserve hreserve] at hgone
        exact hgone
      · rename_i hknown
        refine .fails (hworks.after_reserve hreserve) ?_
        obtain ⟨rfl, hclosed⟩ := Channel.closed_of_send hresult (hknown _)
        rw [Channel.eq_of_reserve hreserve] at hclosed
        exact .closed (.inr (.inl ⟨payload, hstage⟩)) (.inl hclosed)

theorem moves_deliver {rest : Bytes} {size : Nat} (hstage : forward.stage = .writing rest size) :
    forward.Moves channel client (forward.deliver channel client rest size) := by
  unfold deliver
  split
  · rename_i hempty
    obtain rfl := List.isEmpty_iff.mp hempty
    exact .delivers hstage
  · rename_i hrest
    rw [List.isEmpty_iff] at hrest
    have hwritten : Connection.WriteResult.count (client.write rest).1 = 0 →
        client.SameBytes (client.write rest).2 := .of_write
    split <;> rename_i hresult <;> rw [hresult] at hwritten
    · obtain rfl := Connection.eq_of_waits hresult
      exact .waits (.refl _)
    · exact .breaks hstage hrest (hwritten rfl) (hresult ▸ trivial)
    · exact .breaks hstage hrest (hwritten rfl) (hresult ▸ trivial)
    · exact .writes hstage hresult

theorem moves_complain {fault : Fault} (hstage : forward.stage = .reporting fault) :
    forward.Moves channel client (forward.complain channel caller client fault) := by
  have hleaving : forward.stage.IsLeaving := by
    rw [hstage]
    trivial
  unfold complain
  simp only
  split <;> rename_i reserved hreserve
  · exact .leaves (.inr hleaving) trivial (.of_reserve hreserve) (.refl _) fun hlistening =>
      absurd hlistening hleaving.ne_listening
  · exact .waits (.of_reserve hreserve)
  · have hworks : reserved.Works none _ :=
      .of_same (fun _ => Channel.works_sendError caller forward.stats.session fault.errorCode)
        (Channel.register_sendError _ _ _)
    exact .leaves (.inr hleaving) trivial (hworks.after_reserve hreserve) (.refl _)
      fun hlistening => absurd hlistening hleaving.ne_listening

theorem moves_finish {next : Channel} (hworks : channel.Works none next)
    (hleaving : forward.stage.IsLeaving) (hgone : channel.Parts forward.stats.session next)
    (cause : ForwardEnd) {closed : Except ChannelError Unit}
    (hclosed : ∀ error, closed = .error error → (∀ id, error ≠ .unknownSession id) →
      error = .closed ∧ (channel.closed = true ∨ channel.outbox.draining = false)) :
    forward.Moves channel client (forward.finish next client cause closed) := by
  have hmessage (hlistening : forward.stage = .listening) :
      forward.message? channel = some .closed := absurd hlistening hleaving.ne_listening
  unfold finish
  split
  · exact .ends (.inr hleaving) hworks (.shutdown _) hmessage fun _ => hgone
  · exact .ends (.inr hleaving) hworks (.shutdown _) hmessage fun _ => hgone
  · exact .ends (.inr hleaving) hworks (.shutdown _) hmessage fun _ => hgone
  · rename_i hknown
    obtain ⟨rfl, hended⟩ := hclosed _ rfl (by simpa using hknown)
    exact .fails hworks (.closed (.inr (.inr hleaving)) hended)
  · exact .ends (.inr hleaving) hworks (.refl _) hmessage fun _ => hgone

theorem moves_close {cause : ForwardEnd} (hstage : forward.stage = .closing cause) :
    forward.Moves channel client (forward.close channel caller client cause) := by
  have hleaving : forward.stage.IsLeaving := by
    rw [hstage]
    trivial
  unfold close
  split <;> rename_i reserved hreserve
  · have hrefused := Channel.reserve_eq_refused hreserve
    refine moves_finish _ _ _ (.of_reserve hreserve) hleaving (.inr (.inr hrefused)) _
      fun error herror _ => ?_
    exact ⟨(Except.error.inj herror).symm, .inr hrefused⟩
  · exact .waits (.of_reserve hreserve)
  · have hworks : reserved.Works none _ :=
      .of_same (fun _ => Channel.works_closeSession caller forward.stats.session false)
        (reserved.register_closeSession caller forward.stats.session false)
    have hsame : reserved.closed = channel.closed := by rw [Channel.eq_of_reserve hreserve]
    have hgone : channel.Parts forward.stats.session
        (reserved.closeSession caller forward.stats.session false).2 := by
      cases hclosed : channel.closed with
      | true => exact .inr (.inl hclosed)
      | false => exact .inl (Channel.find?_closeSession (hsame.trans hclosed) _ _)
    refine moves_finish _ _ _ (hworks.after_reserve hreserve) hleaving hgone _
      fun error herror hknown => ?_
    obtain ⟨rfl, hclosed⟩ := Channel.closed_of_closeSession (Prod.ext herror rfl) (hknown _)
    exact ⟨rfl, .inl (hsame ▸ hclosed)⟩

/-- **Every section of a forward's work is covered.** -/
theorem moves_step (eager : Bool) :
    forward.Moves channel client (forward.step eager channel caller client) := by
  unfold step
  split <;> rename_i hstage
  · exact forward.moves_opened channel caller client hstage
  · exact forward.moves_listen channel client eager hstage
  · exact forward.moves_transmit channel caller client hstage
  · exact forward.moves_deliver channel client hstage
  · exact forward.moves_complain channel caller client hstage
  · exact forward.moves_close channel caller client hstage

variable {forward : Forward} {channel : Channel} {client : Connection} {after : After}

theorem Moves.of_opening (hmoves : forward.Moves channel client after)
    (hopening : forward.stage = .opening) :
    (∃ turn next, after = (turn, next, client) ∧ channel.Works none next ∧
        (turn = .waits forward ∨ ∃ error, turn = .ends (.error error))) ∨
      ∃ id next, channel.Opens id forward.port .forwarded next ∧
        after = (.goes { forward with
          stats := { forward.stats with session := id }
          endpoint := some channel.endpoints.length
          stage := .listening }, next, client) := by
  have hcontra (hstage : forward.stage = .listening ∨ forward.stage.IsLeaving) : False := by
    rw [hopening] at hstage
    obtain hlistening | hleaving := hstage
    · cases hlistening
    · exact hleaving
  cases hmoves with
  | waits hworks => exact .inl ⟨_, _, rfl, hworks, .inl rfl⟩
  | opens hstage hopens => exact .inr ⟨_, _, hopens, rfl⟩
  | fails hworks => exact .inl ⟨_, _, rfl, hworks, .inr ⟨_, rfl⟩⟩
  | reads hstage | hears hstage | warned hstage | sends hstage | drops hstage | writes hstage
  | delivers hstage | breaks hstage =>
      cases hopening.symm.trans hstage
  | leaves hstage | ends hstage => exact (hcontra hstage).elim

end Forward

end SessionMux
