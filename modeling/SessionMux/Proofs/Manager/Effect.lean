import SessionMux.Manager.Run
import SessionMux.Proofs.Host.Release

/-!
# What a move does to a manager

A manager runs (`Manager.Move`): calls for channels are made, dropped and take turns, engines dial,
devices call home, channels do what channels do, and each of these fares as it likes.
`Manager.Effect` lists everything that a move can do to the calls, to the gates at which they stand,
to the engines that dial for them and to the channels with their table. Each move is shown to be one
of these once, here; what holds of every run is then a case analysis.
-/

namespace SessionMux.Manager

/-- What can happen to a manager. Whoever takes a turn need have nothing to do. -/
inductive Move
  | connect (address : SocketAddress) (transport : Transport)
  /-- A call comes to the gate that has looked for a channel before and found none. -/
  | enqueue (address : SocketAddress) (transport : Transport)
  | drop (call : Nat)
  | turn (eager : Bool) (call : Nat)
  | dial (number : Nat) (answer : Answer Unit)
  | accept (ip : IpAddress) (transport : Transport)
  | home (eager : Bool) (number : Nat) (answer : Answer Unit)
  | watcher (channel : Nat)
  | channel (number : Nat) (step : Host.Step)
  | wait (milliseconds : Nat)
  | closeAll

def move (manager : Manager) : Move → Manager
  | .connect address transport => manager.connect address transport
  | .enqueue address transport => manager.enqueue address transport
  | .drop call => manager.dropCall call
  | .turn eager call => manager.stepCall eager call
  | .dial number answer => manager.stepEngine number answer
  | .accept ip transport => manager.accept ip transport
  | .home eager number answer => manager.stepHome eager number answer
  | .watcher channel => manager.stepWatcher channel
  | .channel number step => manager.onHost number (·.step step)
  | .wait milliseconds => { manager with clock := manager.clock + milliseconds }
  | .closeAll => manager.closeAll

structure Same (manager next : Manager) : Prop where
  calls : next.calls = manager.calls
  gates : next.gates = manager.gates
  dialling : next.dialling = manager.dialling
  dials : next.dials = manager.dials
  channels : next.channels = manager.channels
  table : next.table = manager.table
  shutdown : next.shutdown = manager.shutdown

inductive Effect (manager : Manager) : Move → Manager → Prop
  | rests {move : Move} {next : Manager} (hsame : manager.Same next) : Effect manager move next
  | channel {number : Nat} {step : Host.Step} :
      Effect manager (.channel number step) (manager.onHost number (·.step step))
  | works {number : Nat} {answer : Answer Unit} :
      Effect manager (.dial number answer)
        (manager.onEngine number fun engine => (engine.step manager.clock answer).1)
  | connects {address : SocketAddress} {transport : Transport} :
      Effect manager (.connect address transport) (manager.connect address transport)
  | enqueues {address : SocketAddress} {transport : Transport} :
      Effect manager (.enqueue address transport) (manager.enqueue address transport)
  /-- A call that has the turn finds no open channel and starts an engine. -/
  | dials {eager : Bool} {number gate : Nat} {call : ConnectCall}
      (hcall : manager.calls[number]? = some call) (hstage : call.stage = .queued gate)
      (hturn : manager.hasTurn number gate = true) (hnone : manager.get? call.device = none)
      (hrunning : manager.shutdown = false) :
      Effect manager (.turn eager number) (manager.dial number gate call)
  /-- A call that has the turn need not dial. -/
  | finds {eager : Bool} {number gate : Nat} {call : ConnectCall}
      {result : Except ManagerError Nat} (hcall : manager.calls[number]? = some call)
      (hstage : call.stage = .queued gate)
      (hfound : ∀ channel, result = .ok channel → manager.get? call.device = some channel) :
      Effect manager (.turn eager number) (manager.stepAside number gate (.leaving gate result))
  | fails {eager : Bool} {number gate dial : Nat} {call : ConnectCall} {error : ManagerError}
      {change : Engine Backoff Unit → Engine Backoff Unit}
      (hcall : manager.calls[number]? = some call) (hstage : call.stage = .dialling gate dial)
      (hends : ∀ engine, (change engine).state.isTerminal = true) :
      Effect manager (.turn eager number)
        ((manager.onEngine dial change).stepAside number gate (.leaving gate (.error error)))
  /-- An engine has come to its connection, and the call makes a channel of it. Where the manager
  has shut down, the call has seen the connection first. -/
  | establishes {eager : Bool} {number gate dial : Nat} {call : ConnectCall}
      {change : Engine Backoff Unit → Engine Backoff Unit}
      (hcall : manager.calls[number]? = some call) (hstage : call.stage = .dialling gate dial)
      (hends : ∀ engine, (change engine).state.isTerminal = true)
      (hoffered : manager.dials[dial]?.bind (·.engine.offered) = some (.ok ()))
      (heager : manager.shutdown = true → eager = true) :
      Effect manager (.turn eager number)
        (((manager.onEngine dial change).addChannel call.device call.transport
          (some call.transport)).stepAside number gate
            (.leaving gate (.ok manager.channels.length)))
  | leaves {eager : Bool} {number gate : Nat} {call : ConnectCall}
      {result : Except ManagerError Nat} (hcall : manager.calls[number]? = some call)
      (hstage : call.stage = .leaving gate result) :
      Effect manager (.turn eager number) (manager.leaveGate number gate call result)
  | drops {number gate : Nat} {call : ConnectCall} (hcall : manager.calls[number]? = some call)
      (hstage : call.stage = .queued gate) :
      Effect manager (.drop number) (manager.stepAside number gate .dropped)
  | dropsDial {number gate dial : Nat} {call : ConnectCall}
      (hcall : manager.calls[number]? = some call) (hstage : call.stage = .dialling gate dial) :
      Effect manager (.drop number)
        ((manager.onEngine dial Engine.abandonWait).stepAside number gate .dropped)
  /-- A device has called home, and has no open channel when its connection is secured. Where the
  manager has shut down, this was seen first. -/
  | registers {eager : Bool} {number deadline : Nat} {home : HomeCall}
      (hhome : manager.homes[number]? = some home) (hstage : home.stage = .securing deadline)
      (hnone : manager.get? (.callingHome home.ip) = none)
      (heager : manager.shutdown = true → eager = true) :
      Effect manager (.home eager number (.connection ()))
        ((manager.setHome number (.over none)).addChannel (.callingHome home.ip) home.transport
          none)
  | forgets {number : Nat} {managed : ManagedChannel}
      (hmanaged : manager.channels[number]? = some managed) (hclosed : managed.isClosed = true) :
      Effect manager (.watcher number) (manager.unwatch number managed)
  | redials {number : Nat} {managed : ManagedChannel} {address : SocketAddress}
      {transport : Transport} (hmanaged : manager.channels[number]? = some managed)
      (hclosed : managed.isClosed = true) (hrunning : manager.shutdown = false) :
      Effect manager (.watcher number)
        ((manager.unwatch number managed).connect address transport)
  | closes : Effect manager .closeAll manager.closeAll

variable {manager next : Manager}

theorem Same.refl (manager : Manager) : manager.Same manager := ⟨rfl, rfl, rfl, rfl, rfl, rfl, rfl⟩

theorem same_setHome (number : Nat) (stage : ArrivalStage) :
    manager.Same (manager.setHome number stage) := ⟨rfl, rfl, rfl, rfl, rfl, rfl, rfl⟩

/-- A turn in which a result may be seen, or else that the manager has shut down. -/
theorem effect_choice {move : Move} {eager : Bool} {result surrender : Option Manager}
    (hresult : ∀ next, result = some next → eager = true ∨ surrender = none →
      manager.Effect move next)
    (hsurrender : ∀ next, surrender = some next → manager.Effect move next) :
    manager.Effect move
      ((if eager then result.or surrender else surrender.or result).getD manager) := by
  have hchosen (next : Manager)
      (hnext : (if eager then result.or surrender else surrender.or result) = some next) :
      manager.Effect move next := by
    split at hnext
    · rename_i heager
      obtain hfirst | ⟨-, hsecond⟩ := Option.or_eq_some_iff.mp hnext
      · exact hresult next hfirst (.inl heager)
      · exact hsurrender next hsecond
    · obtain hfirst | ⟨hnone, hsecond⟩ := Option.or_eq_some_iff.mp hnext
      · exact hsurrender next hfirst
      · exact hresult next hsecond (.inr hnone)
  generalize (if eager then result.or surrender else surrender.or result) = turn at hchosen
  cases turn with
  | none => exact .rests (.refl manager)
  | some next => exact hchosen next rfl

theorem isTerminal_cancel {Memory Conn : Type} (engine : Engine Memory Conn) :
    engine.cancel.2.state.isTerminal = true := by
  unfold Engine.cancel
  split
  · assumption
  · unfold Engine.refuse
    split <;> rfl

/-! ### What the parts of a move leave alone -/

theorem onHost_eq (manager : Manager) (number : Nat) (change : Host → Host) :
    ∃ events, manager.onHost number change = { manager with
      channels := manager.channels.modify number fun managed =>
        { managed with host := change managed.host }
      events } := by
  unfold onHost
  split
  · rename_i hnone
    refine ⟨manager.events, ?_⟩
    rw [List.modify_eq_self (List.getElem?_eq_none_iff.mp hnone)]
  · rename_i managed hmanaged
    rw [modify_eq_set _ hmanaged]
    exact ⟨_, rfl⟩

theorem onEngine_eq (manager : Manager) (number : Nat)
    (change : Engine Backoff Unit → Engine Backoff Unit) :
    ∃ events, manager.onEngine number change = { manager with
      dials := manager.dials.modify number fun dial => { dial with engine := change dial.engine }
      events } := by
  unfold onEngine
  split
  · rename_i hnone
    refine ⟨manager.events, ?_⟩
    rw [List.modify_eq_self (List.getElem?_eq_none_iff.mp hnone)]
  · rename_i dial hdial
    rw [modify_eq_set _ hdial]
    exact ⟨_, rfl⟩

theorem calls_onEngine (manager : Manager) (number : Nat)
    (change : Engine Backoff Unit → Engine Backoff Unit) :
    (manager.onEngine number change).calls = manager.calls := by
  obtain ⟨events, heq⟩ := manager.onEngine_eq number change
  rw [heq]

theorem channels_onEngine (manager : Manager) (number : Nat)
    (change : Engine Backoff Unit → Engine Backoff Unit) :
    (manager.onEngine number change).channels = manager.channels := by
  obtain ⟨events, heq⟩ := manager.onEngine_eq number change
  rw [heq]

theorem addChannel_eq (manager : Manager) (device : Device) (transport : Transport)
    (redial : Option Transport) :
    ∃ managed events, managed.device = device ∧
      manager.addChannel device transport redial = { manager with
        channels := manager.channels ++ [managed]
        table := (device, manager.channels.length) :: manager.table.filter (·.1 ≠ device)
        events } :=
  ⟨_, _, rfl, rfl⟩

def closeEach (channels : List ManagedChannel) (numbers : List Nat) : List ManagedChannel :=
  numbers.foldl (fun channels number => channels.modify number fun managed =>
    { managed with host := managed.host.close.2 }) channels

theorem foldl_close_eq (numbers : List Nat) (manager : Manager) :
    ∃ events, numbers.foldl (fun manager number => manager.onHost number (·.close.2)) manager =
      { manager with channels := closeEach manager.channels numbers, events } := by
  induction numbers generalizing manager with
  | nil => exact ⟨manager.events, rfl⟩
  | cons number numbers ih =>
      obtain ⟨events, heq⟩ := manager.onHost_eq number (·.close.2)
      obtain ⟨later, hrest⟩ := ih (manager.onHost number (·.close.2))
      refine ⟨later, hrest.trans ?_⟩
      rw [heq]
      rfl

theorem closeAll_eq (manager : Manager) :
    ∃ events, manager.closeAll = { manager with
      shutdown := true
      channels := closeEach manager.channels (manager.table.map Prod.snd)
      table := []
      events } := by
  obtain ⟨events, heq⟩ :=
    foldl_close_eq (manager.table.map Prod.snd) { manager with shutdown := true }
  refine ⟨events, ?_⟩
  unfold closeAll
  extract_lets close closed
  have hclosed : closed = _ := heq
  rw [hclosed]

/-! ### Turns of a call -/

variable {number gate dial : Nat} {call : ConnectCall}

theorem effect_stepQueued (eager : Bool) (hcall : manager.calls[number]? = some call)
    (hstage : call.stage = .queued gate) :
    manager.Effect (.turn eager number) (manager.stepQueued number gate call) := by
  unfold stepQueued
  split
  · exact .rests (.refl manager)
  · rename_i hturn
    cases hget : manager.get? call.device with
    | some channel =>
        refine .finds hcall hstage fun found hfound => ?_
        cases hfound
        exact hget
    | none =>
        cases hshutdown : manager.shutdown with
        | true => exact .finds hcall hstage fun found hfound => by cases hfound
        | false => exact .dials hcall hstage (by simpa using hturn) hget hshutdown

/-- A call takes the result of its engine. -/
theorem effect_takeResult {eager : Bool} (hcall : manager.calls[number]? = some call)
    (hstage : call.stage = .dialling gate dial) (heager : manager.shutdown = true → eager = true)
    (htake : manager.takeResult? number gate call dial = some next) :
    manager.Effect (.turn eager number) next := by
  simp only [takeResult?, Option.bind_eq_bind] at htake
  obtain ⟨found, hfound, htake⟩ := Option.bind_eq_some_iff.mp htake
  obtain ⟨⟨result, engine⟩, hresult, htake⟩ := Option.bind_eq_some_iff.mp htake
  obtain ⟨offered, hoffered, hpair⟩ := Option.map_eq_some_iff.mp hresult
  obtain ⟨rfl, rfl⟩ := Prod.mk.inj hpair
  cases offered with
  | error error =>
      cases htake
      exact .fails hcall hstage fun _ => isTerminal_cancel _
  | ok connection =>
      cases htake
      rw [channels_onEngine]
      refine .establishes hcall hstage (fun _ => isTerminal_cancel _) ?_ heager
      rw [hfound]
      exact hoffered

theorem effect_giveUp {eager : Bool} (hcall : manager.calls[number]? = some call)
    (hstage : call.stage = .dialling gate dial)
    (hgiveUp : manager.giveUp? number gate dial = some next) :
    manager.Effect (.turn eager number) next := by
  unfold giveUp? at hgiveUp
  split at hgiveUp
  · cases hgiveUp
    exact .fails hcall hstage fun _ => isTerminal_cancel _
  · cases hgiveUp

theorem effect_stepCall (manager : Manager) (eager : Bool) (number : Nat) :
    manager.Effect (.turn eager number) (manager.stepCall eager number) := by
  unfold stepCall
  split
  · exact .rests (.refl manager)
  · rename_i call hcall
    split
    · rename_i gate hstage
      exact effect_stepQueued eager hcall hstage
    · rename_i gate dial hstage
      refine effect_choice (fun next htake hfirst => ?_) fun next => effect_giveUp hcall hstage
      refine effect_takeResult hcall hstage (fun hshutdown => ?_) htake
      obtain heager | hnone := hfirst
      · exact heager
      · rw [giveUp?, if_pos hshutdown] at hnone
        cases hnone
    · rename_i gate result hstage
      exact .leaves hcall hstage
    · exact .rests (.refl manager)
    · exact .rests (.refl manager)

theorem effect_dropCall (manager : Manager) (number : Nat) :
    manager.Effect (.drop number) (manager.dropCall number) := by
  unfold dropCall
  split
  · exact .rests (.refl manager)
  · rename_i call hcall
    split
    · rename_i gate hstage
      exact .drops hcall hstage
    · rename_i gate dial hstage
      exact .dropsDial hcall hstage
    · exact .rests (.refl manager)
    · exact .rests (.refl manager)
    · exact .rests (.refl manager)

/-! ### Turns of others -/

theorem effect_secured {eager : Bool} {number deadline : Nat} {home : HomeCall}
    {answer : Answer Unit} (hhome : manager.homes[number]? = some home)
    (hstage : home.stage = .securing deadline) (heager : manager.shutdown = true → eager = true)
    (hsecured : manager.secured? number home deadline answer = some next) :
    manager.Effect (.home eager number answer) next := by
  unfold secured? at hsecured
  cases answer with
  | connection connection =>
      cases hsecured
      unfold register
      extract_lets device answered
      split
      · exact .rests (same_setHome _ _)
      · rename_i hopen
        have hnone : manager.get? (.callingHome home.ip) = none :=
          Option.not_isSome_iff_eq_none.mp hopen
        exact .registers hhome hstage hnone heager
  | fault | crash =>
      cases hsecured
      exact .rests (same_setHome _ _)
  | pending =>
      simp only at hsecured
      split at hsecured
      · cases hsecured
        exact .rests (same_setHome _ _)
      · cases hsecured

theorem effect_stepHome (manager : Manager) (eager : Bool) (number : Nat) (answer : Answer Unit) :
    manager.Effect (.home eager number answer) (manager.stepHome eager number answer) := by
  unfold stepHome
  split
  · exact .rests (.refl manager)
  · rename_i home hhome
    split
    · split <;> exact .rests (same_setHome _ _)
    · rename_i deadline hstage
      refine effect_choice (fun next hsecured hfirst => ?_) fun next hsurrender => ?_
      · refine effect_secured hhome hstage (fun hshutdown => ?_) hsecured
        obtain heager | hnone := hfirst
        · exact heager
        · rw [if_pos hshutdown] at hnone
          cases hnone
      · split at hsurrender
        · cases hsurrender
          exact .rests (same_setHome _ _)
        · cases hsurrender
    · exact .rests (.refl manager)

theorem effect_stepWatcher (manager : Manager) (number : Nat) :
    manager.Effect (.watcher number) (manager.stepWatcher number) := by
  unfold stepWatcher
  split
  · exact .rests (.refl manager)
  · rename_i managed hmanaged
    split
    · exact .rests (.refl manager)
    · rename_i hended
      have hclosed : managed.isClosed = true := by
        simp only [Bool.not_eq_true, Bool.not_eq_false', Bool.and_eq_true] at hended
        exact hended.2
      extract_lets seen
      split
      · split
        · rename_i hredials
          refine .redials hmanaged hclosed ?_
          have hrunning : seen.shutdown = false := by
            simpa using (Bool.and_eq_true_iff.mp hredials).2
          exact hrunning
        · exact .forgets hmanaged hclosed
      · exact .forgets hmanaged hclosed

/-- **Every move is one of the effects.** -/
theorem effect_move (manager : Manager) (move : Move) :
    manager.Effect move (manager.move move) := by
  cases move with
  | connect address transport => exact .connects
  | enqueue address transport => exact .enqueues
  | drop call => exact effect_dropCall manager call
  | turn eager call => exact effect_stepCall manager eager call
  | dial number answer => exact .works
  | accept ip transport => exact .rests ⟨rfl, rfl, rfl, rfl, rfl, rfl, rfl⟩
  | home eager number answer => exact effect_stepHome manager eager number answer
  | watcher channel => exact effect_stepWatcher manager channel
  | channel number step => exact .channel
  | wait milliseconds => exact .rests ⟨rfl, rfl, rfl, rfl, rfl, rfl, rfl⟩
  | closeAll => exact .closes

end SessionMux.Manager
