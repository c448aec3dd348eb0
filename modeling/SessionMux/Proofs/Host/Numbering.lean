import SessionMux.Proofs.Host.Forwarding

/-!
# The ids of our sessions

Whatever the peer opens, the ids that our side gives away rise, and each side keeps to the numbers
of its role. The counter stays below the first number that is no id by at most one
(`Register.Issued`). Once an attempt has failed for want of an id, every later one fails as well,
because the counter never goes back (`Host.sessions_numbered`).
-/

namespace SessionMux

open Channel (sessionBound)

def Role.Uses : Role → Nat → Prop
  | .client, number => number % 2 = 1
  | .server, number => number % 2 = 0 ∧ 2 ≤ number

theorem Role.Uses.of_le {role : Role} {number later : Nat} (h : role.Uses number)
    (hle : number ≤ later) (hparity : later % 2 = number % 2) : role.Uses later := by
  cases role with
  | client => exact hparity.trans h
  | server => exact ⟨hparity.trans h.1, h.2.trans hle⟩

namespace Register

variable {register next : Register} {role : Role}

structure Issued (role : Role) (register : Register) : Prop where
  rising : register.ours.Pairwise (· < ·)
  below : ∀ id ∈ register.ours, role.Uses id.toNat ∧ id.toNat < register.nextSession
  counter : role.Uses register.nextSession
  bounded : register.nextSession ≤ sessionBound + 1

theorem Issued.of_ours (h : register.Issued role) (hours : next.ours = register.ours)
    (hle : register.nextSession ≤ next.nextSession)
    (hparity : next.nextSession % 2 = register.nextSession % 2)
    (hbounded : next.nextSession ≤ sessionBound + 1) : next.Issued role where
  rising := hours ▸ h.rising
  below id hid := by
    obtain ⟨huses, hbelow⟩ := h.below id (hours ▸ hid)
    exact ⟨huses, hbelow.trans_le hle⟩
  counter := h.counter.of_le hle hparity
  bounded := hbounded

theorem Grows.issued (hgrows : register.Grows next) (h : register.Issued role) :
    next.Issued role := by
  cases hgrows with
  | rests horigins hsame =>
      exact h.of_ours (by rw [ours, horigins, ours]) hsame.ge (by rw [hsame]) (hsame ▸ h.bounded)
  | exhausts horigins hnext =>
      have hbounded := h.bounded
      refine h.of_ours (by rw [ours, horigins, ours]) (hnext ▸ le_max_left _ _) ?_ ?_ <;>
        simp only [sessionBound] at hnext hbounded ⊢ <;> omega
  | @opens id hnext hparity hafter horigins =>
      have hours : next.ours = register.ours ++ [id] := by
        rw [ours, horigins, List.filter_append, List.map_append]
        rfl
      have huses := h.counter.of_le hnext hparity
      have hbound := id.toNat_lt
      refine ⟨?_, fun other hother => ?_, ?_, ?_⟩
      · rw [hours, List.pairwise_append]
        refine ⟨h.rising, List.pairwise_singleton _ _, fun other hother last hlast => ?_⟩
        rw [List.mem_singleton.mp hlast, UInt32.lt_iff_toNat_lt]
        exact (h.below other hother).2.trans_le hnext
      · rw [hours, List.mem_append, List.mem_singleton] at hother
        obtain hother | rfl := hother
        · obtain ⟨hother, hbelow⟩ := h.below other hother
          exact ⟨hother, by omega⟩
        · exact ⟨huses, by omega⟩
      · exact huses.of_le (by omega) (by omega)
      · simp only [sessionBound]
        omega
  | admits hsame horigins =>
      have hours : next.ours = register.ours := by
        rw [ours, horigins, List.filter_append, List.map_append]
        exact List.append_nil _
      exact h.of_ours hours hsame.ge (by rw [hsame]) (hsame ▸ h.bounded)

/-- No id that our side has given away is forgotten. -/
theorem Grows.ours_subset (hgrows : register.Grows next) : register.ours ⊆ next.ours :=
  ((hgrows.prefix_origins.filter _).map _).subset

end Register

/-- What an outcome says about ids: which one was given away, or that none is left. -/
def Outcome.Reports (register : Register) : Outcome → Prop
  | .opened id => id ∈ register.ours
  | .failed .idsExhausted => sessionBound ≤ register.nextSession
  | _ => True

namespace Outcome

variable {register next : Register} {outcome : Outcome}

theorem reports_failed {error : ChannelError} (herror : error ≠ .idsExhausted) :
    (failed error).Reports register := by
  cases error with
  | idsExhausted => exact absurd rfl herror
  | _ => trivial

theorem Reports.mono (h : outcome.Reports register) (hgrows : register.Grows next) :
    outcome.Reports next := by
  cases outcome with
  | opened id => exact hgrows.ours_subset h
  | failed error =>
      by_cases herror : error = .idsExhausted
      · subst herror
        exact Nat.le_trans h hgrows.nextSession_le
      · exact reports_failed herror
  | done | closed | forwarded | aborted => trivial

end Outcome

/-! ### What is reported of a search -/

theorem Turn.ends_of_map {State Result State' Result' : Type} {state : State → State'}
    {result : Result → Result'} {turn : Turn State Result} {outcome : Result'}
    (hends : turn.map state result = .ends outcome) :
    ∃ found, turn = .ends found ∧ outcome = result found := by
  cases turn <;> cases hends
  exact ⟨_, rfl, rfl⟩

theorem Forward.Moves.reports {forward : Forward} {channel : Channel} {client : Connection}
    {after : Forward.After} (hmoves : forward.Moves channel client after) {result : ForwardResult}
    (hends : after.1 = .ends result) : (Outcome.ofForward result).Reports after.2.1.register := by
  cases hmoves with
  | fails hworks hcause =>
      cases hends
      cases hcause with
      | closed | oversize => trivial
      | exhausted hstage hnext => exact hnext
  | ends =>
      cases hends
      trivial
  | waits | opens | reads | hears | warned | sends | drops | writes | delivers | breaks
  | leaves => cases hends

namespace Call

variable {channel : Channel} {result : CallResult}

/-- Of all requests, only one to open a session can run out of ids. -/
theorem reports_unit {register : Register} {result : Except ChannelError Unit}
    (hresult : result ≠ .error .idsExhausted) :
    (Outcome.ofCall (result.map fun () => none)).Reports register := by
  cases result with
  | error error => exact Outcome.reports_failed fun heq => hresult (congrArg _ heq)
  | ok => trivial

theorem send_ne_exhausted (caller : Caller) (id : UInt32) (payload : Bytes) :
    (channel.send caller id payload).1 ≠ .error .idsExhausted := by
  unfold Channel.send
  split
  · simp
  · split <;> simp

theorem closeSession_ne_exhausted (caller : Caller) (id : UInt32) (waits : Bool) :
    (channel.closeSession caller id waits).1 ≠ .error .idsExhausted := by
  unfold Channel.closeSession
  split
  · simp
  · split <;> simp

theorem sendError_ne_exhausted (caller : Caller) (id : UInt32) (code : ErrorCode) :
    (channel.sendError caller id code).1 ≠ .error .idsExhausted := by
  unfold Channel.sendError
  split
  · simp
  · split <;> simp

theorem reports_openSession (caller : Caller) (port : UInt16) (kind : EndpointKind) :
    (Outcome.ofCall ((channel.openSession caller port kind).1.map some)).Reports
      (channel.openSession caller port kind).2.register := by
  have hopening := channel.opening_openSession caller port kind
  rcases hresult : (channel.openSession caller port kind).1 with error | id <;>
    rw [hresult] at hopening
  · obtain rfl | rfl := hopening.fails error rfl
    · trivial
    · exact hopening.counter_of_exhausted rfl
  · change id ∈ Register.ours _
    rw [hopening.ours]
    exact List.mem_append_right _ List.mem_cons_self

theorem reports_perform (clock : Nat) (caller : Caller) (request : Request)
    (hends : (perform channel clock caller request).1 = .ends result) :
    (Outcome.ofCall result).Reports (perform channel clock caller request).2.register := by
  cases request with
  | send id payload =>
      cases hends
      exact reports_unit (send_ne_exhausted caller id payload)
  | openSession port kind =>
      cases hends
      exact reports_openSession caller port kind
  | closeSession id =>
      cases hends
      exact reports_unit (closeSession_ne_exhausted caller id false)
  | closeAndWait id timeout =>
      have hresult : (channel.closeSession caller id true).1 ≠ .error .idsExhausted :=
        closeSession_ne_exhausted caller id true
      unfold perform at hends ⊢
      dsimp only at hends ⊢
      split at hends <;> cases hends
      rename_i error next hclose
      rw [hclose] at hresult
      exact Outcome.reports_failed fun heq => hresult (congrArg _ heq)
  | sendError id code =>
      cases hends
      exact reports_unit (sendError_ne_exhausted caller id code)

theorem reports_step (present : Bool) (clock : Nat) (caller : Caller) (request : Request)
    (stage : CallStage)
    (hends : (step channel present clock caller request stage).1 = .ends result) :
    (Outcome.ofCall result).Reports
      (step channel present clock caller request stage).2.register := by
  cases stage with
  | arriving =>
      cases present <;> cases hends
      trivial
  | asking =>
      revert hends
      unfold step ask
      extract_lets oversize
      intro hends
      have hoversize : ∀ error, oversize = some error → error ≠ .idsExhausted := by
        rintro error herror rfl
        simp only [oversize, Channel.oversize?] at herror
        split at herror
        · split_ifs at herror
          cases herror
        · cases herror
      clear_value oversize
      cases oversize with
      | some error =>
          cases hends
          exact Outcome.reports_failed (hoversize error rfl)
      | none =>
          dsimp only at hends ⊢
          split at hends
          · cases hends
            trivial
          · cases hends
          · exact reports_perform clock caller request hends
  | awaiting id deadline verdict =>
      rcases verdict with _ | _ | _
      · unfold step await at hends ⊢
        dsimp only at hends ⊢
        split at hends <;> cases hends
        exact Outcome.reports_failed (by simp)
      · cases hends
        trivial
      · cases hends
        trivial

end Call

namespace Host

variable {host next : Host} {caller : Caller} {job : Job} {event : Event} {role : Role}

theorem reports_workOf {eager aborted : Bool} {outcome : Outcome}
    (hends : (host.workOf eager caller job aborted).1 = .ends outcome) :
    outcome.Reports (host.workOf eager caller job aborted).2.register := by
  cases aborted with
  | true =>
      cases hends
      trivial
  | false =>
      change (host.stepJob eager caller job).1 = .ends outcome at hends
      change outcome.Reports (host.stepJob eager caller job).2.register
      cases job with
      | call request stage =>
          obtain ⟨result, hresult, rfl⟩ := Turn.ends_of_map hends
          exact Call.reports_step host.present host.clock caller request stage hresult
      | forward number forward =>
          simp only [stepJob] at hends ⊢
          cases hconnection : host.clients[number]? with
          | none =>
              rw [hconnection] at hends
              cases hends
              trivial
          | some connection =>
              rw [hconnection] at hends
              obtain ⟨result, hresult, rfl⟩ := Turn.ends_of_map hends
              exact (forward.moves_step host.channel caller connection eager).reports hresult
      | reply frame =>
          simp only [stepJob, stepReply] at hends
          split at hends <;> cases hends <;> trivial
      | awaitClose =>
          simp only [stepJob] at hends
          split at hends <;> cases hends
          trivial
      | readStream | writeStream | readDatagrams | writeDatagrams =>
          obtain ⟨result, -, rfl⟩ := Turn.ends_of_map hends
          trivial

def Reports (host : Host) : Prop :=
  ∀ (caller : Caller) (outcome : Outcome), host.tasks[caller]? = some (.over outcome) →
    outcome.Reports host.register

theorem Reports.happened (h : host.Reports) (hhappened : host.Happened event next)
    (hgrows : host.register.Grows next.register) : next.Reports := by
  intro caller outcome htask
  -- An outcome that was there before.
  have hstill {task : HostTask} (hbefore : host.tasks[caller]? = some task)
      (hover : task = .over outcome) : outcome.Reports next.register :=
    (h caller outcome (hover ▸ hbefore)).mono hgrows
  cases hhappened with
  | @turns eager taker job aborted _ htaken htook hyields =>
      by_cases heq : caller = taker
      · subst heq
        obtain ⟨horigins, hnext⟩ := htook.origins
        exact (reports_workOf (htook.ends htask)).mono (.rests horigins hnext)
      · cases hbefore : host.tasks[caller]? with
        | none =>
            obtain ⟨frame, hframe⟩ := htook.fresh caller _ hbefore htask
            cases hframe
        | some task =>
            obtain ⟨verdict, hafter⟩ := htook.others caller task heq hbefore
            have hsame := Option.some.inj (hafter.symm.trans htask)
            exact hstill hbefore (HostTask.over_of_hear hsame)
  | lets hlets =>
      cases hbefore : host.tasks[caller]? with
      | none =>
          obtain ⟨-, job, -, hjob⟩ | ⟨frame, hframe⟩ := hlets.fresh caller _ hbefore htask
          · cases hjob
          · cases hframe
      | some task =>
          obtain ⟨verdict, hafter⟩ | hafter := hlets.tasks caller task hbefore
          · have hsame := Option.some.inj (hafter.symm.trans htask)
            exact hstill hbefore (HostTask.over_of_hear hsame)
          · have hsame := Option.some.inj (hafter.symm.trans htask)
            exact hstill hbefore (HostTask.over_of_mark hsame)

/-! ### Every run -/

theorem issued_run (h : host.register.Issued role) (events : List Event) :
    (events.foldl happen host).register.Issued role := by
  induction events generalizing host with
  | nil => exact h
  | cons event events ih => exact ih ((host.grows_happen event).issued h)

theorem Reports.run (h : host.Reports) (events : List Event) :
    (events.foldl happen host).Reports := by
  induction events generalizing host with
  | nil => exact h
  | cons event events ih =>
      exact ih (h.happened (host.happened_happen event) (host.grows_happen event))

theorem nextSession_run_le (host : Host) (events : List Event) :
    host.channel.nextSession ≤ (events.foldl happen host).channel.nextSession := by
  induction events generalizing host with
  | nil => exact Nat.le_refl _
  | cons event events ih => exact (host.grows_happen event).nextSession_le.trans (ih _)

theorem Begun.issued (h : host.Begun) : host.register.Issued host.channel.config.role := by
  have hempty : host.register.ours = [] ∧
      host.register.nextSession = host.channel.config.role.firstSession := by
    cases h <;> exact ⟨rfl, rfl⟩
  obtain ⟨hours, hnext⟩ := hempty
  have hnone (id : UInt32) : id ∉ host.register.ours := hours ▸ List.not_mem_nil
  refine ⟨hours ▸ .nil, fun id hid => absurd hid (hnone id), ?_, ?_⟩ <;> rw [hnext] <;>
    cases host.channel.config.role <;> simp [Role.Uses, Role.firstSession, sessionBound]

theorem Begun.reports (h : host.Begun) : host.Reports := by
  intro caller outcome htask
  cases h with
  | create => cases htask
  | overStream | overDatagrams => rcases caller with _ | _ | caller <;> cases htask

/-- A call that has a place in the queue comes to what opening a session comes to. -/
theorem outcome?_of_granted {port : UInt16} {kind : EndpointKind} (eager : Bool)
    (htask : host.tasks[caller]? =
      some (.working (.call (.openSession port kind) .asking) false))
    (hgranted : (host.channel.reserve caller).1 = .granted) :
    let opened := (host.channel.reserve caller).2.openSession caller port kind
    (host.step (.turn eager caller)).outcome? caller = some (.ofCall (opened.1.map some)) ∧
      (host.step (.turn eager caller)).channel.nextSession = opened.2.nextSession := by
  intro opened
  obtain ⟨htook, -⟩ := took_takeTurn eager htask
  have hask : Call.ask host.channel host.clock caller (.openSession port kind) =
      (.ends (opened.1.map some), opened.2) := by
    unfold Call.ask
    dsimp only
    rw [← Prod.eta (host.channel.reserve caller), hgranted]
    rfl
  have hwork : host.workOf eager caller (.call (.openSession port kind) .asking) false =
      (.ends (.ofCall (opened.1.map some)), { host with channel := opened.2 }) := by
    simp only [workOf, stepJob, Call.step, hask, Bool.false_eq_true, if_false]
    rfl
  rw [hwork] at htook
  obtain ⟨verdict, hself⟩ := htook.task
  refine ⟨?_, htook.origins.2⟩
  rw [outcome?, step, hself]
  rfl

/-- **Our sessions are numbered**, whatever has happened before. The ids that our side gives away
rise and are numbers of its role, and the counter goes past the last id by one at most. To open a
session, a search passes over live ids, no more of them than there are live sessions, and comes to
the least id that is free; it fails for want of an id exactly if none is. A call that has a place in
the queue comes to just that. The id that a caller is told was given away. Once one is told that no
id is left, no later attempt finds one, as long as the channel is open. -/
theorem sessions_numbered {begun : Host} (hbegun : begun.Begun) (events : List Event) :
    let role := begun.channel.config.role
    let host := events.foldl happen begun
    let channel := host.channel
    let ours := host.register.ours
    (ours.Pairwise (· < ·) ∧ ∀ id ∈ ours, role.Uses id.toNat ∧ id.toNat < channel.nextSession) ∧
      (role.Uses channel.nextSession ∧ channel.nextSession ≤ sessionBound + 1) ∧
      (∀ (caller : Caller) (id : UInt32), host.outcome? caller = some (.opened id) → id ∈ ours) ∧
      (∀ (caller : Caller) (port : UInt16) (kind : EndpointKind),
        let opened := (channel.reserve caller).2.openSession caller port kind
        channel.Opening opened.1 opened.2 ∧
          (∀ id, opened.1 = .ok id → role.Uses id.toNat ∧ ∀ earlier ∈ ours, earlier < id) ∧
          ∀ eager, host.tasks[caller]? =
              some (.working (.call (.openSession port kind) .asking) false) →
            (channel.reserve caller).1 = .granted →
            let next := host.step (.turn eager caller)
            next.outcome? caller = some (.ofCall (opened.1.map some)) ∧
              next.channel.nextSession = opened.2.nextSession) ∧
      ∀ caller, host.outcome? caller = some (.failed .idsExhausted) →
        ∀ (later : List Event) (other : Caller) (port : UInt16) (kind : EndpointKind),
          let last := (later.foldl happen host).channel
          ((last.reserve other).2.openSession other port kind).1 =
            .error (if last.closed then .closed else .idsExhausted) := by
  intro role host channel ours
  have hissued : host.register.Issued role := issued_run hbegun.issued events
  have hreports : host.Reports := hbegun.reports.run events
  have hopening (channel : Channel) (caller : Caller) (port : UInt16) (kind : EndpointKind) :
      channel.Opening ((channel.reserve caller).2.openSession caller port kind).1
        ((channel.reserve caller).2.openSession caller port kind).2 := by
    have h := (channel.reserve caller).2.opening_openSession caller port kind
    exact ⟨h.closed, h.exhausted, h.fails, h.least, h.seeks, h.ours, h.rests⟩
  refine ⟨⟨hissued.rising, hissued.below⟩, ⟨hissued.counter, hissued.bounded⟩,
    fun caller id houtcome => hreports caller _ (task_of_outcome? houtcome),
    fun caller port kind => ⟨hopening channel caller port kind, fun id hid => ?_,
      fun eager htask hgranted => outcome?_of_granted eager htask hgranted⟩,
    fun caller houtcome later other port kind => ?_⟩
  · have hfree := ((hopening channel caller port kind).least id hid).1
    refine ⟨hissued.counter.of_le hfree.above hfree.parity, fun earlier hearlier => ?_⟩
    rw [UInt32.lt_iff_toNat_lt]
    exact (hissued.below earlier hearlier).2.trans_le hfree.above
  · have hexhausted : sessionBound ≤ host.channel.nextSession :=
      hreports caller _ (task_of_outcome? houtcome)
    exact (hopening _ other port kind).of_exhausted
      (hexhausted.trans (host.nextSession_run_le later))

/-- A client whose peer has taken the first odd id. -/
theorem sessions_numbered_past_peer :
    let begun := create default 4 { rules := [], accepting := true }
    let host := [.hear { port := 80, session := 1, body := .control .sessionOpen } (.ok .queue),
      .step (.call (.openSession 80 .queue) false), .step (.turn false 0)].foldl happen begun
    begun.Begun ∧ host.outcome? 0 = some (.opened 3) ∧ 3 ∈ host.register.ours ∧
      host.channel.nextSession = 5 := by
  intro begun host
  have hbegun : begun.Begun := .create _ _ _
  have houtcome : host.outcome? 0 = some (.opened 3) := by decide
  obtain ⟨-, -, htold, -⟩ := sessions_numbered hbegun
    [.hear { port := 80, session := 1, body := .control .sessionOpen } (.ok .queue),
      .step (.call (.openSession 80 .queue) false), .step (.turn false 0)]
  exact ⟨hbegun, houtcome, htold 0 3 houtcome, by decide⟩

end Host

end SessionMux
