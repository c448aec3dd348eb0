import SessionMux.Proofs.Channel.Delivery
import SessionMux.Proofs.Host.Handle

/-!
# Endpoints are told what arrives, and once of the end

What arrives for an endpoint is read off the run: each frame of the peer, at the time at which it
comes in, is for the endpoint that its session then has in the table. The history of an endpoint is
what arrived for it and, once its session is no longer in the table, the end.
-/

namespace SessionMux.Host

def arrival? (host : Host) (place : Nat) : Move → Option Message
  | .hear frame _ => host.channel.sessions.arrival? frame place
  | _ => none

def arrivals (host : Host) (place : Nat) : List Move → List Message
  | [] => []
  | move :: moves => (host.arrival? place move).toList ++ (host.move move).arrivals place moves

variable {host : Host}

theorem closed_not_mem_arrivals (host : Host) (place : Nat) (moves : List Move) :
    .closed ∉ host.arrivals place moves := by
  induction moves generalizing host with
  | nil => exact List.not_mem_nil
  | cons move moves ih =>
      rw [arrivals, List.mem_append, not_or]
      refine ⟨?_, ih (host.move move)⟩
      intro hmem
      cases move with
      | hear frame admission =>
          rw [arrival?, Sessions.arrival?, Option.mem_toList] at hmem
          split_ifs at hmem
          cases hbody : frame.body <;> simp [hbody, FrameBody.message?] at hmem
      | act | take | abandon => cases hmem

/-- Only frames of the peer bring something. -/
theorem Housed.delivered_quiet (h : host.Housed) {arrived : Nat → List Message}
    (hdelivered : host.ledger.Delivered arrived) {move : Move}
    (hquiet : ∀ frame admission, move ≠ .hear frame admission) :
    (host.move move).ledger.Delivered arrived := by
  obtain ⟨sent, hworks⟩ | ⟨frame, admission, rfl, -⟩ | ⟨frames, draining, hsame⟩ :=
    ledger_move h.waits.truthful.plain move
  · exact hworks.delivered h.homed hdelivered
  · exact absurd rfl (hquiet frame admission)
  · rw [hsame]
    exact hdelivered.of_same rfl rfl

theorem Housed.delivered_move (h : host.Housed) {arrived : Nat → List Message}
    (hdelivered : host.ledger.Delivered arrived) (move : Move) :
    (host.move move).ledger.Delivered fun place =>
      arrived place ++ (host.arrival? place move).toList := by
  by_cases hhears : ∃ frame admission, move = .hear frame admission
  · obtain ⟨frame, admission, rfl⟩ := hhears
    exact (receives_hear host frame admission).delivered h.waits.truthful.truthful h.homed
      hdelivered
  · have hquiet : ∀ frame admission, move ≠ .hear frame admission := by
      intro frame admission heq
      exact hhears ⟨frame, admission, heq⟩
    have hnothing (place : Nat) : host.arrival? place move = none := by
      cases move with
      | hear frame admission => exact absurd rfl (hquiet frame admission)
      | act | take | abandon => rfl
    simp only [hnothing, Option.toList_none, List.append_nil]
    exact h.delivered_quiet hdelivered hquiet

/-- A run brings to each endpoint what its moves bring, one after the other. -/
theorem Housed.delivered_run (h : host.Housed) {arrived : Nat → List Message}
    (hdelivered : host.ledger.Delivered arrived) (moves : List Move) :
    (moves.foldl Host.move host).ledger.Delivered fun place =>
      arrived place ++ host.arrivals place moves := by
  induction moves generalizing host arrived with
  | nil =>
      simp only [arrivals, List.append_nil]
      exact hdelivered
  | cons move moves ih =>
      have hrest := ih (h.move move) (h.delivered_move hdelivered move)
      simp only [List.append_assoc] at hrest
      exact hrest

theorem delivered_create (config : ChannelConfig) (depth : Nat) (reception : Reception) :
    (create config depth reception).ledger.Delivered fun _ => [] where
  told := by
    intro place owner messages hplace
    cases hplace
  vacant := fun _ _ => rfl

/-- **What every endpoint is told.** However long a host has been running, and whatever order its
tasks, its application, its writer and its peer have taken their turns in, each endpoint was told
what arrived for it while its session had it in the table, in order, and then of the end exactly if
its session has it in the table no more. Every live session has an endpoint of its own. A payload
for a session that is not live changes neither the table nor what any endpoint was told. -/
theorem told_exactly (config : ChannelConfig) (depth : Nat) (reception : Reception)
    (moves : List Move) :
    let initial := create config depth reception
    let host := moves.foldl Host.move initial
    (∀ (place : Nat) (endpoint : Endpoint), host.channel.endpoints[place]? = some endpoint →
      .closed ∉ initial.arrivals place moves ∧
        endpoint.told = initial.arrivals place moves ++
          if host.channel.sessions.home? endpoint.session = some place then [] else [.closed]) ∧
      (∀ id session, host.channel.sessions.find? id = some session →
        ∃ endpoint, host.channel.endpoints[session.endpoint]? = some endpoint ∧
          endpoint.session = id) ∧
      (∀ frame admission payload, frame.body = .data payload →
        host.channel.sessions.find? frame.session = none →
        let next := host.move (.hear frame admission)
        next.channel.sessions = host.channel.sessions ∧
          next.channel.endpoints.map (·.told) = host.channel.endpoints.map (·.told)) := by
  intro initial host
  have hinitial : initial.Housed := housed_create config depth reception
  have hhoused : host.Housed := hinitial.run moves
  have hdelivered : host.ledger.Delivered fun place => initial.arrivals place moves :=
    hinitial.delivered_run (delivered_create config depth reception) moves
  refine ⟨?_, ?_, ?_⟩
  · intro place endpoint hplace
    have hledger : host.ledger.endpoints[place]? = some (endpoint.session, endpoint.told) := by
      change (host.channel.endpoints.map fun endpoint =>
        (endpoint.session, endpoint.told))[place]? = _
      rw [List.getElem?_map, hplace, Option.map_some]
    exact ⟨closed_not_mem_arrivals initial place moves, hdelivered.told place _ _ hledger⟩
  · intro id session hfind
    have howner := hhoused.homed.owner hfind
    change ((host.channel.endpoints.map fun endpoint =>
      (endpoint.session, endpoint.told)).map (·.1))[session.endpoint]? = some id at howner
    rw [List.getElem?_map, List.getElem?_map, Option.map_map, Option.map_eq_some_iff] at howner
    exact howner
  · intro frame admission payload hbody hfind next
    obtain ⟨hendpoints, hsessions⟩ := (receives_hear host frame admission).unheard hbody hfind
    refine ⟨hsessions, ?_⟩
    have htold := congrArg (List.map Prod.snd) hendpoints
    change (next.channel.endpoints.map fun endpoint =>
        (endpoint.session, endpoint.told)).map Prod.snd =
      (host.channel.endpoints.map fun endpoint =>
        (endpoint.session, endpoint.told)).map Prod.snd at htold
    rw [List.map_map, List.map_map] at htold
    exact htold

/-- A session that is closed and opened again has a new endpoint, which hears nothing of the old. -/
example :
    let frame (body : FrameBody) : Frame := { port := 80, session := 2, body }
    let host := [frame (.control .sessionOpen), frame (.data [1]), frame (.control .sessionClose),
        frame (.control .sessionOpen), frame (.data [2])].foldl
      (fun host frame => host.move (.hear frame (.ok .queue)))
      (create default 4 { rules := [], accepting := true })
    host.channel.endpoints.map (·.told) = [[.data [1], .closed], [.data [2]]] := by
  decide

end SessionMux.Host
