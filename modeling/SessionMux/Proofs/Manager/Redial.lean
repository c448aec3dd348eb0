import SessionMux.Proofs.Manager.Table

/-!
# Which address is dialled

A manager knows a device that is dialled by its internet address and port, and by nothing else of
its address: neither flow nor scope. What a channel was made for never changes
(`Manager.prefix_origins_run`), and a call that has come to a channel has come to one of its own
device (`Manager.Traced`). So two addresses share a channel only if they agree up to flow and scope,
and a watcher has the address dialled again for which its channel was made, up to these
(`Manager.addresses_told_apart`). Addresses that differ in nothing but the scope are not told apart,
and the scope is not dialled again (`Manager.scopes_confused`).
-/

namespace SessionMux

/-! ### Addresses and devices -/

namespace SocketAddress

def IsPlain : SocketAddress → Prop
  | v4 .. => True
  | v6 _ _ flow scope => flow = 0 ∧ scope = 0

def Agrees (address other : SocketAddress) : Prop :=
  address.ip = other.ip ∧ address.port = other.port

variable {address other : SocketAddress}

theorem agrees_ofIp (address : SocketAddress) : (ofIp address.ip address.port).Agrees address := by
  cases address <;> exact ⟨rfl, rfl⟩

theorem IsPlain.ofIp_eq (h : address.IsPlain) : ofIp address.ip address.port = address := by
  cases address with
  | v4 => rfl
  | v6 ip port flow scope =>
      obtain ⟨rfl, rfl⟩ := h
      rfl

theorem Agrees.eq_of_isPlain (h : address.Agrees other) (hplain : address.IsPlain)
    (hother : other.IsPlain) : address = other := by
  rw [← hplain.ofIp_eq, ← hother.ofIp_eq, h.1, h.2]

theorem dialled_eq_iff_agrees : Device.dialled address = Device.dialled other ↔
    address.Agrees other := by
  rw [Device.dialled, Device.dialled, Device.mk.injEq, Option.some.injEq]
  rfl

end SocketAddress

theorem getElem?_of_prefix {α : Type} {values later : List α} {value : α}
    {place : Nat} (hgrown : values <+: later) (hvalue : values[place]? = some value) :
    later[place]? = some value := by
  obtain ⟨rear, rfl⟩ := hgrown
  rw [List.getElem?_append_left (List.getElem?_eq_some_iff.mp hvalue).1]
  exact hvalue

theorem map_modify_of_same {α β : Type} (view : α → β) (change : α → α)
    (hsame : ∀ value, view (change value) = view value) (values : List α) (place : Nat) :
    (values.modify place change).map view = values.map view := by
  rw [map_modify_of_comm view change id hsame, List.modify_id]

def ManagedChannel.origin (managed : ManagedChannel) : Device × Option Transport :=
  (managed.device, managed.redial)

/-- What a call has come to, whether it is over or still has to let go of its gate. -/
def ConnectCall.decided? (call : ConnectCall) : Option (Except ManagerError Nat) :=
  match call.stage with
  | .leaving _ result | .over result => some result
  | .queued _ | .dialling .. | .dropped => none

namespace Manager

variable {manager next : Manager} {number gate : Nat} {call : ConnectCall} {stage : ConnectStage}

/-! ### What a channel was made for -/

def origins (manager : Manager) : List (Device × Option Transport) :=
  manager.channels.map ManagedChannel.origin

theorem origins_onHost (manager : Manager) (number : Nat) (change : Host → Host) :
    (manager.onHost number change).origins = manager.origins := by
  obtain ⟨events, heq⟩ := manager.onHost_eq number change
  rw [heq]
  exact map_modify_of_same ManagedChannel.origin
    (fun managed => { managed with host := change managed.host }) (fun _ => rfl) manager.channels
      number

theorem origins_onEngine (manager : Manager) (number : Nat)
    (change : Engine Backoff Unit → Engine Backoff Unit) :
    (manager.onEngine number change).origins = manager.origins := by
  rw [origins, channels_onEngine, origins]

theorem origins_addChannel (manager : Manager) (device : Device) (transport : Transport)
    (redial : Option Transport) :
    (manager.addChannel device transport redial).origins =
      manager.origins ++ [(device, redial)] :=
  List.map_append

theorem origins_unwatch {managed : ManagedChannel}
    (hmanaged : manager.channels[number]? = some managed) :
    (manager.unwatch number managed).origins = manager.origins := by
  change (manager.channels.set number { managed with watched := false }).map
    ManagedChannel.origin = _
  rw [← modify_eq_set (fun managed => { managed with watched := false }) hmanaged]
  exact map_modify_of_same ManagedChannel.origin (fun managed => { managed with watched := false })
    (fun _ => rfl) manager.channels number

theorem map_origin_closeEach (numbers : List Nat) (channels : List ManagedChannel) :
    (closeEach channels numbers).map ManagedChannel.origin =
      channels.map ManagedChannel.origin := by
  induction numbers generalizing channels with
  | nil => rfl
  | cons number numbers ih =>
      exact (ih _).trans (map_modify_of_same ManagedChannel.origin
        (fun managed => { managed with host := managed.host.close.2 }) (fun _ => rfl) channels
          number)

theorem calls_closeAll (manager : Manager) : manager.closeAll.calls = manager.calls := by
  obtain ⟨events, heq⟩ := manager.closeAll_eq
  rw [heq]

theorem origins_closeAll (manager : Manager) : manager.closeAll.origins = manager.origins := by
  obtain ⟨events, heq⟩ := manager.closeAll_eq
  rw [heq]
  exact map_origin_closeEach _ manager.channels

theorem origins_enqueue (manager : Manager) (address : SocketAddress) (transport : Transport) :
    (manager.enqueue address transport).origins = manager.origins := by
  unfold enqueue
  extract_lets device number
  split <;> rfl

theorem origins_connect (manager : Manager) (address : SocketAddress) (transport : Transport) :
    (manager.connect address transport).origins = manager.origins := by
  unfold connect
  split
  · rfl
  · exact origins_enqueue manager address transport

/-- Channels come about and are never made for anything else. -/
theorem prefix_origins_effect {move : Move} (heffect : manager.Effect move next) :
    manager.origins <+: next.origins := by
  have hkept (heq : next.origins = manager.origins) : manager.origins <+: next.origins := by
    rw [heq]
  have hadds {before : Manager} {device : Device} {transport : Transport}
      {redial : Option Transport} (hbefore : before.origins = manager.origins)
      (heq : next.origins = (before.addChannel device transport redial).origins) :
      manager.origins <+: next.origins := by
    rw [heq, origins_addChannel, hbefore]
    exact List.prefix_append _ _
  cases heffect with
  | rests hsame => exact hkept (congrArg (List.map ManagedChannel.origin) hsame.channels)
  | channel => exact hkept (origins_onHost _ _ _)
  | works => exact hkept (origins_onEngine _ _ _)
  | connects => exact hkept (origins_connect _ _ _)
  | enqueues => exact hkept (origins_enqueue _ _ _)
  | dials | finds | leaves | drops => exact hkept rfl
  | fails | dropsDial => exact hkept (origins_onEngine _ _ _)
  | establishes => exact hadds (origins_onEngine _ _ _) rfl
  | registers => exact hadds rfl rfl
  | forgets hmanaged => exact hkept (origins_unwatch hmanaged)
  | redials hmanaged =>
      exact hkept ((origins_connect _ _ _).trans (origins_unwatch hmanaged))
  | closes => exact hkept (origins_closeAll _)

theorem prefix_origins_run (manager : Manager) (moves : List Move) :
    manager.origins <+: (moves.foldl move manager).origins := by
  induction moves generalizing manager with
  | nil => exact List.prefix_rfl
  | cons move moves ih =>
      exact (prefix_origins_effect (manager.effect_move move)).trans (ih (manager.move move))

/-! ### What a call has come to -/

def Traced (manager : Manager) : Prop :=
  ∀ (number : Nat) (call : ConnectCall) (channel : Nat), manager.calls[number]? = some call →
    call.decided? = some (.ok channel) →
      ∃ redial, manager.origins[channel]? = some (call.device, redial)

theorem traced_create (config : ManagerConfig) (reception : Reception) :
    (create config reception).Traced := by
  intro number call channel hcall
  cases hcall

theorem Tabled.origin_of_entry? (h : manager.Tabled) {device : Device}
    (hentry : manager.entry? device = some number) :
    ∃ redial, manager.origins[number]? = some (device, redial) := by
  obtain ⟨managed, hmanaged, rfl⟩ := h.owned device number (mem_of_lookup hentry)
  refine ⟨managed.redial, ?_⟩
  rw [origins, List.getElem?_map, hmanaged]
  rfl

theorem Traced.of_calls (h : manager.Traced) (horigins : manager.origins <+: next.origins)
    (hcalls : ∀ (number : Nat) (later : ConnectCall) (channel : Nat),
      next.calls[number]? = some later → later.decided? = some (.ok channel) →
        (∃ call, manager.calls[number]? = some call ∧ call.decided? = some (.ok channel) ∧
          call.device = later.device) ∨
        ∃ redial, next.origins[channel]? = some (later.device, redial)) : next.Traced := by
  intro number later channel hlater hdecided
  obtain ⟨call, hcall, hbefore, hdevice⟩ | hnew := hcalls number later channel hlater hdecided
  · obtain ⟨redial, horigin⟩ := h number call channel hcall hbefore
    exact ⟨redial, hdevice ▸ getElem?_of_prefix horigins horigin⟩
  · exact hnew

/-- A call goes on to another stage. -/
theorem Traced.goes (h : manager.Traced) (horigins : manager.origins <+: next.origins)
    (hcall : manager.calls[number]? = some call)
    (hcalls : next.calls = (manager.setCall number stage).calls)
    (hstage : ∀ channel, ({ call with stage } : ConnectCall).decided? = some (.ok channel) →
      call.decided? = some (.ok channel) ∨
        ∃ redial, next.origins[channel]? = some (call.device, redial)) : next.Traced := by
  refine h.of_calls horigins fun other later channel hlater hdecided => ?_
  rw [hcalls] at hlater
  by_cases heq : other = number
  · subst heq
    rw [call?_setCall_self hcall] at hlater
    cases hlater
    exact (hstage channel hdecided).imp_left fun hbefore => ⟨call, hcall, hbefore, rfl⟩
  · rw [call?_setCall_ne heq] at hlater
    exact .inl ⟨later, hlater, hdecided, rfl⟩

theorem Traced.addCall (h : manager.Traced) (horigins : next.origins = manager.origins)
    (hcalls : next.calls = (manager.addCall call).calls)
    (hnew : ∀ channel, call.decided? = some (.ok channel) →
      ∃ redial, manager.origins[channel]? = some (call.device, redial)) : next.Traced := by
  refine h.of_calls (by rw [horigins]) fun other later channel hlater hdecided => ?_
  rw [hcalls] at hlater
  obtain hold | ⟨-, rfl⟩ := of_getElem?_concat hlater
  · exact .inl ⟨later, hold, hdecided, rfl⟩
  · rw [horigins]
    exact .inr (hnew channel hdecided)

theorem Traced.enqueue (h : manager.Traced) (address : SocketAddress) (transport : Transport) :
    (manager.enqueue address transport).Traced := by
  unfold Manager.enqueue
  extract_lets device number
  split <;> exact h.addCall rfl rfl fun channel hdecided => by cases hdecided

theorem Traced.connect (h : manager.Traced) (htabled : manager.Tabled) (address : SocketAddress)
    (transport : Transport) : (manager.connect address transport).Traced := by
  unfold Manager.connect
  split
  · rename_i channel hget
    refine h.addCall rfl rfl fun found hdecided => ?_
    cases hdecided
    exact htabled.origin_of_entry? (get?_eq_some_iff.mp hget).1
  · exact h.enqueue address transport

theorem Traced.effect (h : manager.Traced) (htabled : manager.Tabled) {move : Move}
    (heffect : manager.Effect move next) : next.Traced := by
  have horigins := prefix_origins_effect heffect
  have hkept (hcalls : next.calls = manager.calls) : next.Traced := by
    refine h.of_calls horigins fun number later channel hlater hdecided => ?_
    rw [hcalls] at hlater
    exact .inl ⟨later, hlater, hdecided, rfl⟩
  have hengine (dial number : Nat) (change : Engine Backoff Unit → Engine Backoff Unit)
      (stage : ConnectStage) : ((manager.onEngine dial change).setCall number stage).calls =
        (manager.setCall number stage).calls := by
    rw [setCall, calls_onEngine, setCall]
  cases heffect with
  | rests hsame => exact hkept hsame.calls
  | @channel number step =>
      obtain ⟨events, heq⟩ := manager.onHost_eq number (·.step step)
      exact hkept (by rw [heq])
  | works => exact hkept (calls_onEngine _ _ _)
  | connects => exact h.connect htabled _ _
  | enqueues => exact h.enqueue _ _
  | dials hcall => exact h.goes horigins hcall rfl fun channel hdecided => by cases hdecided
  | finds hcall _ hfound =>
      refine h.goes horigins hcall rfl fun channel hdecided => .inr ?_
      have hget := hfound channel (Option.some.inj hdecided)
      exact htabled.origin_of_entry? (get?_eq_some_iff.mp hget).1
  | fails hcall | dropsDial hcall =>
      exact h.goes horigins hcall (hengine _ _ _ _) fun channel hdecided => by cases hdecided
  | @establishes _ number gate dial call change hcall =>
      refine h.goes horigins hcall (hengine _ _ _ _) fun channel hdecided => .inr ?_
      cases hdecided
      refine ⟨some call.transport, ?_⟩
      change (((manager.onEngine dial change).addChannel call.device call.transport
        (some call.transport)).origins)[manager.channels.length]? = _
      rw [origins_addChannel, origins_onEngine, ← List.length_map ManagedChannel.origin]
      exact List.getElem?_concat_length
  | leaves hcall hstage =>
      refine h.goes horigins hcall rfl fun channel hdecided => .inl ?_
      rw [ConnectCall.decided?, hstage]
      exact hdecided
  | drops hcall => exact h.goes horigins hcall rfl fun channel hdecided => by cases hdecided
  | registers => exact hkept rfl
  | forgets => exact hkept rfl
  | @redials number managed _ _ hmanaged hclosed =>
      have hforgot : (manager.unwatch number managed).Traced := by
        refine h.of_calls ?_ fun _ later _ hlater hdecided => .inl ⟨later, hlater, hdecided, rfl⟩
        rw [origins_unwatch hmanaged]
      exact hforgot.connect (htabled.unwatch hmanaged hclosed) _ _
  | closes => exact hkept (calls_closeAll manager)

theorem Traced.run (h : manager.Traced) (htabled : manager.Tabled) (hgated : manager.Gated)
    (moves : List Move) : (moves.foldl Manager.move manager).Traced := by
  induction moves generalizing manager with
  | nil => exact h
  | cons move moves ih =>
      have heffect := manager.effect_move move
      exact ih (h.effect htabled heffect) (htabled.effect hgated heffect) (hgated.move move)

/-! ### What an engine dials -/

def Aimed (manager : Manager) : Prop :=
  ∀ (number : Nat) (call : ConnectCall) (gate place : Nat), manager.calls[number]? = some call →
    call.stage = .dialling gate place →
      (manager.dials.map Dial.address)[place]? = some call.address

theorem aimed_create (config : ManagerConfig) (reception : Reception) :
    (create config reception).Aimed := by
  intro number call gate place hcall
  cases hcall

theorem addresses_onEngine (manager : Manager) (number : Nat)
    (change : Engine Backoff Unit → Engine Backoff Unit) :
    (manager.onEngine number change).dials.map Dial.address = manager.dials.map Dial.address := by
  obtain ⟨events, heq⟩ := manager.onEngine_eq number change
  rw [heq]
  exact map_modify_of_same Dial.address (fun dial => { dial with engine := change dial.engine })
    (fun _ => rfl) manager.dials number

theorem Aimed.of_calls (h : manager.Aimed)
    (hdials : next.dials.map Dial.address = manager.dials.map Dial.address)
    (hcalls : ∀ (number : Nat) (call : ConnectCall) (gate place : Nat),
      next.calls[number]? = some call → call.stage = .dialling gate place →
        manager.calls[number]? = some call) : next.Aimed := by
  intro number call gate place hcall hstage
  rw [hdials]
  exact h number call gate place (hcalls number call gate place hcall hstage) hstage

theorem Aimed.goes (h : manager.Aimed) (hstage : ∀ gate place, stage ≠ .dialling gate place)
    (hdials : next.dials.map Dial.address = manager.dials.map Dial.address)
    (hcalls : next.calls = (manager.setCall number stage).calls) : next.Aimed :=
  h.of_calls hdials fun _ _ _ _ => dialling_of_goes hstage hcalls

theorem Aimed.addCall (h : manager.Aimed)
    (hstage : ∀ gate place, call.stage ≠ .dialling gate place)
    (hdials : next.dials = manager.dials) (hcalls : next.calls = (manager.addCall call).calls) :
    next.Aimed :=
  h.of_calls (by rw [hdials]) fun _ _ _ _ => dialling_of_addCall hstage hcalls

theorem Aimed.enqueue (h : manager.Aimed) (address : SocketAddress) (transport : Transport) :
    (manager.enqueue address transport).Aimed := by
  unfold Manager.enqueue
  extract_lets device number
  split <;> exact h.addCall (fun _ _ h => by cases h) rfl rfl

theorem Aimed.connect (h : manager.Aimed) (address : SocketAddress) (transport : Transport) :
    (manager.connect address transport).Aimed := by
  unfold Manager.connect
  split
  · exact h.addCall (fun _ _ h => by cases h) rfl rfl
  · exact h.enqueue address transport

theorem Aimed.dial (h : manager.Aimed) (hcall : manager.calls[number]? = some call) :
    (manager.dial number gate call).Aimed := by
  intro other found place dial hfound hdialling
  change (manager.setCall number (.dialling gate manager.dials.length)).calls[other]? = some found
    at hfound
  change ((manager.dials ++ [_]).map Dial.address)[dial]? = some found.address
  rw [List.map_append]
  by_cases heq : other = number
  · subst heq
    rw [call?_setCall_self hcall] at hfound
    cases hfound
    cases hdialling
    rw [← List.length_map Dial.address]
    exact List.getElem?_concat_length
  · rw [call?_setCall_ne heq] at hfound
    exact getElem?_of_prefix (List.prefix_append _ _) (h other found place dial hfound hdialling)

theorem Aimed.effect (h : manager.Aimed) {move : Move} (heffect : manager.Effect move next) :
    next.Aimed := by
  have hkept {later : Manager} (hcalls : later.calls = manager.calls)
      (hdials : later.dials.map Dial.address = manager.dials.map Dial.address) : later.Aimed :=
    h.of_calls hdials fun _ _ _ _ hcall _ => hcalls ▸ hcall
  have hengine (dial : Nat) (change : Engine Backoff Unit → Engine Backoff Unit) :
      (manager.onEngine dial change).Aimed :=
    hkept (calls_onEngine _ _ _) (addresses_onEngine _ _ _)
  cases heffect with
  | rests hsame => exact hkept hsame.calls (by rw [hsame.dials])
  | @channel number step =>
      obtain ⟨events, heq⟩ := manager.onHost_eq number (·.step step)
      exact hkept (by rw [heq]) (by rw [heq])
  | works => exact hengine _ _
  | connects => exact h.connect _ _
  | enqueues => exact h.enqueue _ _
  | dials hcall => exact h.dial hcall
  | finds | leaves | drops => exact h.goes (fun _ _ h => by cases h) rfl rfl
  | fails | dropsDial | establishes =>
      exact (hengine _ _).goes (fun _ _ h => by cases h) rfl rfl
  | registers | forgets => exact hkept rfl rfl
  | @redials number managed =>
      have hforgot : (manager.unwatch number managed).Aimed := hkept rfl rfl
      exact hforgot.connect _ _
  | closes =>
      obtain ⟨events, heq⟩ := manager.closeAll_eq
      exact hkept (by rw [heq]) (by rw [heq])

theorem Aimed.run (h : manager.Aimed) (moves : List Move) :
    (moves.foldl Manager.move manager).Aimed := by
  induction moves generalizing manager with
  | nil => exact h
  | cons move moves ih => exact ih (h.effect (manager.effect_move move))

/-! ### What a watcher has dialled -/

/-- Whether the watcher of a channel has the device dialled again when it takes its turn, if it was
dialled at all. -/
def redials (manager : Manager) (number : Nat) : Bool :=
  (manager.channels[number]?.any fun managed => managed.watched && managed.isClosed) &&
    (manager.config.reconnectOnDrop && !manager.shutdown)

theorem calls_connect (manager : Manager) (address : SocketAddress) (transport : Transport) :
    ∃ call : ConnectCall, call.address = address ∧ call.transport = transport ∧
      (manager.connect address transport).calls = manager.calls ++ [call] := by
  unfold connect
  split
  · exact ⟨_, rfl, rfl, rfl⟩
  · unfold enqueue
    extract_lets device number
    split <;> exact ⟨_, rfl, rfl, rfl⟩

/-- A turn of a call in which a channel is made makes it for the device of the call. -/
theorem origins_stepCall {eager : Bool} (hcall : manager.calls[number]? = some call)
    (hmade : manager.channels.length < (manager.stepCall eager number).channels.length) :
    (manager.stepCall eager number).origins =
      manager.origins ++ [(call.device, some call.transport)] := by
  have heffect := effect_stepCall manager eager number
  generalize manager.stepCall eager number = next at heffect hmade
  cases heffect with
  | rests hsame =>
      rw [hsame.channels] at hmade
      exact absurd hmade (Nat.lt_irrefl _)
  | dials | finds | leaves => exact absurd hmade (Nat.lt_irrefl _)
  | @fails _ _ _ dial _ _ change =>
      change _ < (manager.onEngine dial change).channels.length at hmade
      rw [channels_onEngine] at hmade
      exact absurd hmade (Nat.lt_irrefl _)
  | @establishes _ _ gate dial found change hfound =>
      cases hcall.symm.trans hfound
      change ((manager.onEngine dial change).addChannel call.device call.transport
        (some call.transport)).origins = _
      rw [origins_addChannel, origins_onEngine]

theorem exists_of_origin {device : Device} {transport : Transport}
    (horigin : manager.origins[number]? = some (device, some transport)) :
    ∃ managed, manager.channels[number]? = some managed ∧ managed.device = device ∧
      managed.redial = some transport := by
  rw [origins, List.getElem?_map] at horigin
  obtain ⟨managed, hmanaged, heq⟩ := Option.map_eq_some_iff.mp horigin
  obtain ⟨hdevice, hredial⟩ := Prod.mk.inj heq
  exact ⟨managed, hmanaged, hdevice, hredial⟩

/-- The watcher of a channel that was dialled calls for the internet address and port of its device,
over the same transport, or for nothing. -/
theorem calls_stepWatcher {address : SocketAddress} {transport : Transport}
    (horigin : manager.origins[number]? = some (.dialled address, some transport)) :
    (manager.redials number = false → (manager.stepWatcher number).calls = manager.calls) ∧
      (manager.redials number = true → ∃ again : ConnectCall,
        again.address = .ofIp address.ip address.port ∧ again.transport = transport ∧
          (manager.stepWatcher number).calls = manager.calls ++ [again]) := by
  obtain ⟨managed, hmanaged, hdevice, hredial⟩ := exists_of_origin horigin
  have haddress : redialAddress? managed.device = some (.ofIp address.ip address.port) := by
    rw [hdevice]
    rfl
  have hredials : manager.redials number = ((managed.watched && managed.isClosed) &&
      (manager.config.reconnectOnDrop && !manager.shutdown)) := by
    rw [redials, hmanaged, Option.any_some]
  have hstep : manager.stepWatcher number =
      if managed.watched && managed.isClosed then
        if manager.config.reconnectOnDrop && !manager.shutdown then
          (manager.unwatch number managed).connect (.ofIp address.ip address.port) transport
        else manager.unwatch number managed
      else manager := by
    simp only [stepWatcher, hmanaged, hredial, haddress]
    cases managed.watched && managed.isClosed <;> rfl
  rw [hredials, hstep]
  cases managed.watched && managed.isClosed with
  | false => exact ⟨fun _ => rfl, (by cases ·)⟩
  | true =>
      cases manager.config.reconnectOnDrop && !manager.shutdown with
      | false => exact ⟨fun _ => rfl, (by cases ·)⟩
      | true => exact ⟨(by cases ·), fun _ => calls_connect _ _ _⟩

/-! ### Runs -/

/-- **What tells addresses apart.** However calls, devices that call home, channels and watchers
take their turns: two addresses have the same channel in the table, and two calls come to the same
channel, only if the addresses agree in internet address and port, so that no two addresses do that
have neither flow nor scope; an engine is after the very address of its call; and when a call has
made a channel and this has dropped, its watcher has that internet address and port dialled again,
over the same transport, which is the very address of the call where that has neither flow nor
scope. -/
theorem addresses_told_apart (config : ManagerConfig) (reception : Reception)
    (before between : List Move) :
    let begun := before.foldl move (create config reception)
    (∀ (first second : SocketAddress) (channel : Nat),
      begun.entry? (.dialled first) = some channel →
        begun.entry? (.dialled second) = some channel →
          first.Agrees second ∧ (first.IsPlain → second.IsPlain → first = second)) ∧
    (∀ (number other channel : Nat) (call found : ConnectCall),
      begun.calls[number]? = some call → begun.calls[other]? = some found →
        call.decided? = some (.ok channel) → found.decided? = some (.ok channel) →
          call.address.Agrees found.address ∧
            (call.address.IsPlain → found.address.IsPlain → call.address = found.address)) ∧
    (∀ (number gate place : Nat) (call : ConnectCall), begun.calls[number]? = some call →
      call.stage = .dialling gate place → ∃ dial, begun.dials[place]? = some dial ∧
        dial.address = call.address) ∧
    ∀ (eager : Bool) (number : Nat) (call : ConnectCall), begun.calls[number]? = some call →
      let made := begun.move (.turn eager number)
      let channel := begun.channels.length
      let dropped := between.foldl move made
      let redialled := dropped.move (.watcher channel)
      channel < made.channels.length →
        (dropped.redials channel = false → redialled.calls = dropped.calls) ∧
        (dropped.redials channel = true → ∃ again : ConnectCall,
          redialled.calls = dropped.calls ++ [again] ∧ again.transport = call.transport ∧
            again.address.Agrees call.address ∧
              (call.address.IsPlain → again.address = call.address)) := by
  intro begun
  have htabled : begun.Tabled :=
    (tabled_create config reception).run (gated_create config reception) before
  have htraced : begun.Traced := (traced_create config reception).run
    (tabled_create config reception) (gated_create config reception) before
  have haimed : begun.Aimed := (aimed_create config reception).run before
  -- A channel was made for one device, which tells an address up to flow and scope.
  have hagree {first second : SocketAddress} {channel : Nat} {one other : Option Transport}
      (hone : begun.origins[channel]? = some (.dialled first, one))
      (hother : begun.origins[channel]? = some (.dialled second, other)) :
      first.Agrees second ∧ (first.IsPlain → second.IsPlain → first = second) := by
    have hdevices := congrArg Prod.fst (Option.some.inj (hone.symm.trans hother))
    have hagrees := SocketAddress.dialled_eq_iff_agrees.mp hdevices
    exact ⟨hagrees, hagrees.eq_of_isPlain⟩
  refine ⟨fun first second channel hfirst hsecond => ?_,
    fun number other channel call found hcall hfound hdecided hagain => ?_,
    fun number gate place call hcall hstage => ?_, fun eager number call hcall => ?_⟩
  · obtain ⟨one, hone⟩ := htabled.origin_of_entry? hfirst
    obtain ⟨other, hother⟩ := htabled.origin_of_entry? hsecond
    exact hagree hone hother
  · obtain ⟨one, hone⟩ := htraced number call channel hcall hdecided
    obtain ⟨other, hother⟩ := htraced other found channel hfound hagain
    exact hagree hone hother
  · have haddress := haimed number call gate place hcall hstage
    rw [List.getElem?_map] at haddress
    exact Option.map_eq_some_iff.mp haddress
  · intro made channel dropped redialled hmade
    have horigins : made.origins = begun.origins ++ [(call.device, some call.transport)] :=
      origins_stepCall hcall hmade
    -- Whatever happens until the channel drops, it stays the one that the call made.
    have horigin : dropped.origins[channel]? =
        some (Device.dialled call.address, some call.transport) := by
      refine getElem?_of_prefix (prefix_origins_run made between) ?_
      have hlength : begun.origins.length = channel := List.length_map _
      rw [horigins, ← hlength]
      exact List.getElem?_concat_length
    obtain ⟨hrests, hredials⟩ := calls_stepWatcher horigin
    refine ⟨hrests, fun hdue => ?_⟩
    obtain ⟨again, haddress, htransport, hcalls⟩ := hredials hdue
    refine ⟨again, hcalls, htransport, ?_, fun hplain => haddress.trans hplain.ofIp_eq⟩
    rw [haddress]
    exact SocketAddress.agrees_ofIp call.address

def linkLocal (scope : UInt32) : SocketAddress := .v6 (.ofEnds [0xfe80] [1]) 1069 0 scope

def dialLocal (scope : UInt32) : List Move :=
  [.connect (linkLocal scope) .tcp, .turn false 0, .dial 0 .pending, .dial 0 .pending,
    .dial 0 (.connection ()), .dial 0 (.connection ())]

def askAgain (scope : UInt32) : List Move :=
  [.turn false 0, .turn false 0, .connect (linkLocal scope) .tcp]

def localManager (moves : List Move) : Manager :=
  moves.foldl move (create { maxPayload := 2, backoff := .default, reconnectOnDrop := true }
    { rules := [], accepting := true })

/-- Addresses of two scopes share an entry and a channel, and agree. The channel of an address
without a scope drops, and that very address is dialled again. -/
theorem addresses_told_apart_of_linkLocal :
    let shared := localManager (dialLocal 2 ++ askAgain 3)
    let begun := localManager (dialLocal 0)
    let dropped := [Move.turn false 0, .channel 0 .close].foldl move (begun.move (.turn false 0))
    (shared.entry? (.dialled (linkLocal 2)) = some 0 ∧
      shared.entry? (.dialled (linkLocal 3)) = some 0 ∧ (linkLocal 2).Agrees (linkLocal 3)) ∧
    (∃ call found, shared.calls = [call, found] ∧ call.decided? = some (.ok 0) ∧
      found.decided? = some (.ok 0) ∧ call.address.Agrees found.address) ∧
    (∃ dial, begun.dials[0]? = some dial ∧ dial.address = linkLocal 0) ∧
    dropped.redials 0 = true ∧ ∃ again : ConnectCall,
      (dropped.move (.watcher 0)).calls = dropped.calls ++ [again] ∧
        again.address = linkLocal 0 := by
  intro shared begun dropped
  obtain ⟨hentries, hcalls, -⟩ := addresses_told_apart
    { maxPayload := 2, backoff := .default, reconnectOnDrop := true }
    { rules := [], accepting := true } (dialLocal 2 ++ askAgain 3) []
  obtain ⟨-, -, haimed, hredialled⟩ := addresses_told_apart
    { maxPayload := 2, backoff := .default, reconnectOnDrop := true }
    { rules := [], accepting := true } (dialLocal 0) [.turn false 0, .channel 0 .close]
  have hredials : dropped.redials 0 = true := rfl
  obtain ⟨-, hdue⟩ := hredialled false 0 _ rfl (by decide)
  obtain ⟨again, hagain, -, -, haddress⟩ := hdue hredials
  refine ⟨⟨rfl, rfl, ?_⟩, ⟨_, _, rfl, rfl, rfl, ?_⟩, haimed 0 0 0 _ rfl rfl, hredials, again,
    hagain, haddress ⟨rfl, rfl⟩⟩
  · exact (hentries (linkLocal 2) (linkLocal 3) 0 rfl rfl).1
  · exact (hcalls 0 1 0 _ _ rfl rfl rfl rfl).1

/-- Two addresses that differ in their scopes share an entry of the table and get one channel, and
when this drops, neither of them is dialled. -/
theorem scopes_confused :
    let shared := localManager (dialLocal 2 ++ askAgain 3)
    let redialled := (shared.move (.channel 0 .close)).move (.watcher 0)
    linkLocal 2 ≠ linkLocal 3 ∧ shared.channelCount = 1 ∧
      shared.calls.map ConnectCall.address = [linkLocal 2, linkLocal 3] ∧
      shared.entry? (.dialled (linkLocal 2)) = some 0 ∧
      shared.entry? (.dialled (linkLocal 3)) = some 0 ∧
      shared.result? 0 = some (.ok 0) ∧ shared.result? 1 = some (.ok 0) ∧
      redialled.calls.map ConnectCall.address = [linkLocal 2, linkLocal 3, linkLocal 0] := by
  refine ⟨by decide, ?_, ?_, ?_, ?_, ?_, ?_, ?_⟩ <;> rfl

end Manager

end SessionMux
