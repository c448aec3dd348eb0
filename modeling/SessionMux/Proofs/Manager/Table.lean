import SessionMux.Proofs.Manager.Dials

/-!
# The table of a manager

A manager has one channel for each device. A channel gets into the table where the device has no
open one: a device that calls home is looked for in the very section that puts its channel there,
and a device that is dialled had none when the dial began, and has got none since, for nobody else
dials it meanwhile (`Manager.Vacant`). So the table lists every open channel (`Manager.Tabled`), and
no channel has to go before it is closed (`one_channel_per_device`).
-/

namespace SessionMux.Manager

variable {manager next : Manager} {device : Device} {number gate : Nat} {call : ConnectCall}
  {stage : ConnectStage}

def Vacant (manager : Manager) (device : Device) : Prop :=
  ∀ (number : Nat) (managed : ManagedChannel), manager.channels[number]? = some managed →
    managed.device = device → managed.isClosed = true

structure Tabled (manager : Manager) : Prop where
  owned : ∀ (device : Device) (number : Nat), (device, number) ∈ manager.table →
    ∃ managed, manager.channels[number]? = some managed ∧ managed.device = device
  listed : ∀ (number : Nat) (managed : ManagedChannel),
    manager.channels[number]? = some managed → managed.isClosed = false →
      manager.entry? managed.device = some number
  vacant : ∀ (number : Nat) (call : ConnectCall) (gate dial : Nat),
    manager.calls[number]? = some call → call.stage = .dialling gate dial →
      manager.Vacant call.device

theorem tabled_create (config : ManagerConfig) (reception : Reception) :
    (create config reception).Tabled where
  owned := by
    intro device number hmem
    cases hmem
  listed := by
    intro number managed hmanaged
    cases hmanaged
  vacant := by
    intro number call gate dial hcall
    cases hcall

theorem isOpen_iff : manager.isOpen number = true ↔
    ∃ managed, manager.channels[number]? = some managed ∧ managed.isClosed = false := by
  simp [isOpen, Option.any_eq_true]

theorem get?_eq_some_iff : manager.get? device = some number ↔
    manager.entry? device = some number ∧ manager.isOpen number = true := by
  rw [get?, Option.filter_eq_some_iff]

/-- Where the table shows no open channel, there is none. -/
theorem Tabled.vacant_of_get? (h : manager.Tabled) (hnone : manager.get? device = none) :
    manager.Vacant device := by
  rintro number managed hmanaged rfl
  cases hclosed : managed.isClosed with
  | true => rfl
  | false =>
      have hopen : manager.isOpen number = true := isOpen_iff.mpr ⟨managed, hmanaged, hclosed⟩
      have hget := get?_eq_some_iff.mpr ⟨h.listed number managed hmanaged hclosed, hopen⟩
      cases hnone.symm.trans hget

theorem Vacant.of_channels (h : manager.Vacant device)
    (hchannels : next.channels = manager.channels) : next.Vacant device := by
  rw [Vacant, hchannels]
  exact h

/-! ### What a move preserves -/

/-- The calls go on, and the channels are left alone. -/
theorem Tabled.of_calls (h : manager.Tabled) (hchannels : next.channels = manager.channels)
    (htable : next.table = manager.table)
    (hcalls : ∀ (number : Nat) (call : ConnectCall) (gate dial : Nat),
      next.calls[number]? = some call → call.stage = .dialling gate dial →
        manager.calls[number]? = some call ∨ manager.get? call.device = none) : next.Tabled where
  owned := by
    rw [htable, hchannels]
    exact h.owned
  listed := by
    rw [hchannels]
    intro number managed hmanaged hopen
    rw [Manager.entry?, htable]
    exact h.listed number managed hmanaged hopen
  vacant := by
    intro number call gate dial hcall hstage
    refine Vacant.of_channels ?_ hchannels
    obtain hold | hnone := hcalls number call gate dial hcall hstage
    · exact h.vacant number call gate dial hold hstage
    · exact h.vacant_of_get? hnone

/-- Nobody begins to dial when a call goes on to another stage. -/
theorem Tabled.goes (h : manager.Tabled) (hstage : ∀ gate dial, stage ≠ .dialling gate dial)
    (hchannels : next.channels = manager.channels) (htable : next.table = manager.table)
    (hcalls : next.calls = (manager.setCall number stage).calls) : next.Tabled :=
  h.of_calls hchannels htable fun _ _ _ _ hcall hdialling =>
    .inl (dialling_of_goes hstage hcalls hcall hdialling)

theorem Tabled.dial (h : manager.Tabled) (hcall : manager.calls[number]? = some call)
    (hnone : manager.get? call.device = none) : (manager.dial number gate call).Tabled := by
  refine h.of_calls rfl rfl fun other later place dial hlater _ => ?_
  change (manager.setCall number (.dialling gate manager.dials.length)).calls[other]? = some later
    at hlater
  by_cases heq : other = number
  · subst heq
    rw [call?_setCall_self hcall] at hlater
    cases hlater
    exact .inr hnone
  · rw [call?_setCall_ne heq] at hlater
    exact .inl hlater

theorem Tabled.addCall (h : manager.Tabled) (hstage : ∀ gate dial, call.stage ≠ .dialling gate dial)
    (hchannels : next.channels = manager.channels) (htable : next.table = manager.table)
    (hcalls : next.calls = (manager.addCall call).calls) : next.Tabled :=
  h.of_calls hchannels htable fun _ _ _ _ hcall hdialling =>
    .inl (dialling_of_addCall hstage hcalls hcall hdialling)

theorem Tabled.enqueue (h : manager.Tabled) (address : SocketAddress) (transport : Transport) :
    (manager.enqueue address transport).Tabled := by
  unfold Manager.enqueue
  extract_lets device number
  split <;> exact h.addCall (fun _ _ h => by cases h) rfl rfl rfl

theorem Tabled.connect (h : manager.Tabled) (address : SocketAddress) (transport : Transport) :
    (manager.connect address transport).Tabled := by
  unfold Manager.connect
  split
  · exact h.addCall (fun _ _ h => by cases h) rfl rfl rfl
  · exact h.enqueue address transport

/-- Channels may be closed, but are not opened again. -/
theorem Tabled.onHost (h : manager.Tabled) (number : Nat) {change : Host → Host}
    (hchange : ∀ host : Host, host.channel.closed = true → (change host).channel.closed = true) :
    (manager.onHost number change).Tabled := by
  obtain ⟨events, heq⟩ := manager.onHost_eq number change
  rw [heq]
  have hbefore {other : Nat} {later : ManagedChannel}
      (hlater : (manager.channels.modify number fun managed =>
        { managed with host := change managed.host })[other]? = some later) :
      ∃ managed, manager.channels[other]? = some managed ∧ managed.device = later.device ∧
        (managed.isClosed = true → later.isClosed = true) := by
    rw [List.getElem?_modify] at hlater
    obtain ⟨managed, hmanaged, rfl⟩ := Option.map_eq_some_iff.mp hlater
    refine ⟨managed, hmanaged, ?_⟩
    split
    · exact ⟨rfl, hchange managed.host⟩
    · exact ⟨rfl, id⟩
  refine ⟨fun device other hmem => ?_, fun other later hlater hopen => ?_,
    fun caller call gate dial hcall hstage other later hlater hdevice => ?_⟩
  · obtain ⟨managed, hmanaged, hdevice⟩ := h.owned device other hmem
    refine ⟨_, by rw [List.getElem?_modify, hmanaged]; rfl, ?_⟩
    split <;> exact hdevice
  · obtain ⟨managed, hmanaged, hsame, hstays⟩ := hbefore hlater
    rw [← hsame]
    refine h.listed other managed hmanaged ?_
    rw [← Bool.not_eq_true] at hopen ⊢
    exact fun hclosed => hopen (hstays hclosed)
  · obtain ⟨managed, hmanaged, hsame, hstays⟩ := hbefore hlater
    exact hstays (h.vacant caller call gate dial hcall hstage other managed hmanaged
      (hsame.trans hdevice))

/-- A channel is put into the table where the device has no open one and is not being dialled. -/
theorem Tabled.addChannel (h : manager.Tabled) (hvacant : manager.Vacant device)
    (hidle : ∀ (number : Nat) (call : ConnectCall) (gate dial : Nat),
      manager.calls[number]? = some call → call.stage = .dialling gate dial →
        call.device ≠ device) (transport : Transport) (redial : Option Transport) :
    (manager.addChannel device transport redial).Tabled := by
  obtain ⟨new, events, hnew, heq⟩ := manager.addChannel_eq device transport redial
  rw [heq]
  refine ⟨fun other place hmem => ?_, fun place managed hmanaged hopen => ?_,
    fun caller call gate dial hcall hstage place managed hmanaged hdevice => ?_⟩
  · obtain hfirst | hold := List.mem_cons.mp hmem
    · cases hfirst
      exact ⟨new, List.getElem?_concat_length, hnew⟩
    · obtain ⟨managed, hmanaged, hdevice⟩ := h.owned other place (List.mem_filter.mp hold).1
      refine ⟨managed, ?_, hdevice⟩
      rw [List.getElem?_append_left (List.getElem?_eq_some_iff.mp hmanaged).1]
      exact hmanaged
  · rw [Manager.entry?, lookup_cons]
    obtain hold | ⟨rfl, rfl⟩ := of_getElem?_concat hmanaged
    · have hne : managed.device ≠ device := by
        intro hdevice
        rw [hvacant place managed hold hdevice] at hopen
        cases hopen
      rw [if_neg hne, lookup_filter_ne, if_neg hne]
      exact h.listed place managed hold hopen
    · rw [if_pos hnew]
  · obtain hold | ⟨rfl, rfl⟩ := of_getElem?_concat hmanaged
    · exact h.vacant caller call gate dial hcall hstage place managed hold hdevice
    · exact absurd (hdevice.symm.trans hnew) (hidle caller call gate dial hcall hstage)

/-- A closed channel is taken out of the table, and no other. -/
theorem Tabled.unwatch (h : manager.Tabled) {managed : ManagedChannel}
    (hmanaged : manager.channels[number]? = some managed) (hclosed : managed.isClosed = true) :
    (manager.unwatch number managed).Tabled := by
  have hbound : number < manager.channels.length := (List.getElem?_eq_some_iff.mp hmanaged).1
  have hchannel (other : Nat) : (manager.unwatch number managed).channels[other]? =
      if number = other then some { managed with watched := false }
      else manager.channels[other]? := by
    change (manager.channels.set number { managed with watched := false })[other]? = _
    rw [List.getElem?_set, if_pos hbound]
  refine ⟨fun device other hmem => ?_, fun other later hlater hopen => ?_,
    fun caller call gate dial hcall hstage other later hlater hdevice => ?_⟩
  · obtain ⟨found, hfound, hdevice⟩ := h.owned device other (List.mem_filter.mp hmem).1
    rw [hchannel]
    split
    · rename_i heq
      subst heq
      cases hmanaged.symm.trans hfound
      exact ⟨_, rfl, hdevice⟩
    · exact ⟨found, hfound, hdevice⟩
  · rw [hchannel] at hlater
    split at hlater
    · cases hlater
      cases hclosed.symm.trans hopen
    · rename_i hne
      refine lookup_filter_ne_entry (h.listed other later hlater hopen) fun heq => ?_
      exact hne (congrArg Prod.snd heq).symm
  · rw [hchannel] at hlater
    split at hlater
    · cases hlater
      exact hclosed
    · exact h.vacant caller call gate dial hcall hstage other later hlater hdevice

theorem of_closeEach (numbers : List Nat) {channels : List ManagedChannel}
    {later : ManagedChannel} (hlater : (closeEach channels numbers)[number]? = some later) :
    ∃ managed, channels[number]? = some managed ∧ managed.device = later.device ∧
      (managed.isClosed = true ∨ number ∈ numbers → later.isClosed = true) := by
  induction numbers generalizing channels with
  | nil => exact ⟨later, hlater, rfl, fun h => h.elim id fun hmem => by cases hmem⟩
  | cons first numbers ih =>
      obtain ⟨middle, hmiddle, hdevice, hcloses⟩ := ih hlater
      rw [List.getElem?_modify] at hmiddle
      obtain ⟨managed, hmanaged, rfl⟩ := Option.map_eq_some_iff.mp hmiddle
      refine ⟨managed, hmanaged, ?_, ?_⟩
      · rw [← hdevice]
        split <;> rfl
      · rintro (hclosed | hmem)
        · refine hcloses (.inl ?_)
          split
          · exact managed.host.follows_close.closed hclosed
          · exact hclosed
        · obtain rfl | hrest := List.mem_cons.mp hmem
          · rw [if_pos rfl] at hcloses
            exact hcloses (.inl managed.host.closed_close)
          · exact hcloses (.inr hrest)

/-- Every open channel is in the table, so all are closed when those in the table are. -/
theorem Tabled.closeAll (h : manager.Tabled) : manager.closeAll.Tabled := by
  obtain ⟨events, heq⟩ := manager.closeAll_eq
  rw [heq]
  have hclosed {number : Nat} {later : ManagedChannel} (hlater :
      (closeEach manager.channels (manager.table.map Prod.snd))[number]? = some later) :
      later.isClosed = true := by
    obtain ⟨managed, hmanaged, -, hcloses⟩ := of_closeEach _ hlater
    refine hcloses ?_
    cases hopen : managed.isClosed with
    | true => exact .inl rfl
    | false =>
        have hlookup := h.listed number managed hmanaged hopen
        exact .inr (List.mem_map_of_mem (f := Prod.snd) (mem_of_lookup hlookup))
  refine ⟨fun device number hmem => ?_, fun number later hlater hopen => ?_,
    fun _ _ _ _ _ _ number later hlater _ => hclosed hlater⟩
  · cases hmem
  · cases (hclosed hlater).symm.trans hopen

theorem Tabled.effect (h : manager.Tabled) (hgated : manager.Gated) {move : Move}
    (heffect : manager.Effect move next) : next.Tabled := by
  have hengine (dial : Nat) (change : Engine Backoff Unit → Engine Backoff Unit) :
      (manager.onEngine dial change).Tabled := by
    obtain ⟨events, heq⟩ := manager.onEngine_eq dial change
    rw [heq]
    exact h.of_calls rfl rfl fun _ _ _ _ hcall _ => .inl hcall
  cases heffect with
  | rests hsame =>
      refine h.of_calls hsame.channels hsame.table fun _ _ _ _ hcall _ => .inl ?_
      rw [← hsame.calls]
      exact hcall
  | @channel number step =>
      exact h.onHost number fun host => (host.follows_step step).closed
  | works => exact hengine _ _
  | connects => exact h.connect _ _
  | enqueues => exact h.enqueue _ _
  | dials hcall _ _ hnone => exact h.dial hcall hnone
  | finds | drops | leaves => exact h.goes (fun _ _ h => by cases h) rfl rfl rfl
  | fails | dropsDial =>
      exact (hengine _ _).goes (fun _ _ h => by cases h) rfl rfl rfl
  | @establishes _ number gate dial call change hcall hstage =>
      have hgone : ((manager.onEngine dial change).stepAside number gate
          (.leaving gate (.ok manager.channels.length))).Tabled :=
        (hengine dial change).goes (fun _ _ h => by cases h) rfl rfl rfl
      have hvacant := h.vacant number call gate dial hcall hstage
      refine hgone.addChannel (hvacant.of_channels (channels_onEngine _ _ _)) ?_ _ _
      intro other found place engine hfound hdialling hdevice
      change ((manager.onEngine dial change).setCall number _).calls[other]? = some found at hfound
      have hcalls := calls_onEngine manager dial change
      by_cases heq : other = number
      · subst heq
        rw [call?_setCall_self (by rw [hcalls]; exact hcall)] at hfound
        cases hfound
        cases hdialling
      · rw [call?_setCall_ne heq, hcalls] at hfound
        exact heq (hgated.dialling_unique hfound hcall hdialling hstage hdevice)
  | @registers _ number _ _ _ _ hnone =>
      have hset : (manager.setHome number (.over none)).Tabled :=
        h.of_calls rfl rfl fun _ _ _ _ hcall _ => .inl hcall
      have hvacant := h.vacant_of_get? hnone
      refine hset.addChannel hvacant ?_ _ _
      intro other found place engine hfound hdialling hdevice
      cases congrArg Device.port hdevice
  | forgets hmanaged hclosed => exact h.unwatch hmanaged hclosed
  | redials hmanaged hclosed => exact (h.unwatch hmanaged hclosed).connect _ _
  | closes => exact h.closeAll

theorem Tabled.run (h : manager.Tabled) (hgated : manager.Gated) (moves : List Move) :
    (moves.foldl move manager).Tabled := by
  induction moves generalizing manager with
  | nil => exact h
  | cons move moves ih =>
      exact ih (h.effect hgated (manager.effect_move move)) (hgated.move move)

/-! ### What stays in the table -/

theorem entry?_enqueue (address : SocketAddress) (transport : Transport) :
    entry? (manager.enqueue address transport) device = manager.entry? device := by
  unfold enqueue
  extract_lets found number
  split <;> rfl

theorem entry?_connect (address : SocketAddress) (transport : Transport) :
    entry? (manager.connect address transport) device = manager.entry? device := by
  unfold connect
  split
  · rfl
  · exact entry?_enqueue address transport

theorem entry?_unwatch {other : Nat} (hentry : manager.entry? device = some other)
    (hne : other ≠ number) (managed : ManagedChannel) :
    entry? (manager.unwatch number managed) device = some other :=
  lookup_filter_ne_entry hentry fun heq => hne (congrArg Prod.snd heq)

/-- Where a device has no open channel, a new one takes nothing open out of the table. -/
theorem Tabled.entry?_addChannel (h : manager.Tabled) {added : Device}
    (hvacant : manager.Vacant added) (hentry : manager.entry? device = some number)
    (hopen : manager.isOpen number = true) (transport : Transport) (redial : Option Transport) :
    entry? (manager.addChannel added transport redial) device = some number := by
  obtain ⟨managed, hmanaged, hclosed⟩ := isOpen_iff.mp hopen
  obtain ⟨found, hfound, hdevice⟩ := h.owned device number (mem_of_lookup hentry)
  cases hmanaged.symm.trans hfound
  have hne : device ≠ added := by
    rintro rfl
    rw [hvacant number managed hmanaged hdevice] at hclosed
    cases hclosed
  change List.lookup device ((added, manager.channels.length) ::
    manager.table.filter (·.1 ≠ added)) = some number
  rw [lookup_cons, if_neg hne, lookup_filter_ne, if_neg hne]
  exact hentry

/-- A channel stays in the table as long as it is open. -/
theorem Tabled.entry?_effect (h : manager.Tabled) {move : Move}
    (heffect : manager.Effect move next) (hmove : move ≠ .closeAll)
    (hentry : manager.entry? device = some number) (hopen : manager.isOpen number = true) :
    next.entry? device = some number := by
  have hne {other : Nat} {managed : ManagedChannel}
      (hmanaged : manager.channels[other]? = some managed) (hclosed : managed.isClosed = true) :
      number ≠ other := by
    rintro rfl
    obtain ⟨found, hfound, hunclosed⟩ := isOpen_iff.mp hopen
    cases hmanaged.symm.trans hfound
    cases hclosed.symm.trans hunclosed
  have hengine (dial : Nat) (change : Engine Backoff Unit → Engine Backoff Unit) :
      entry? (manager.onEngine dial change) device = some number := by
    obtain ⟨events, heq⟩ := manager.onEngine_eq dial change
    rw [heq]
    exact hentry
  cases heffect with
  | rests hsame =>
      rw [Manager.entry?, hsame.table]
      exact hentry
  | @channel other step =>
      obtain ⟨events, heq⟩ := manager.onHost_eq other (·.step step)
      rw [heq]
      exact hentry
  | works => exact hengine _ _
  | connects =>
      rw [entry?_connect]
      exact hentry
  | enqueues =>
      rw [entry?_enqueue]
      exact hentry
  | dials | finds | leaves | drops => exact hentry
  | fails | dropsDial => exact hengine _ _
  | @establishes _ caller gate dial call change hcall hstage =>
      obtain ⟨events, heq⟩ := manager.onEngine_eq dial change
      rw [heq]
      have hvacant := h.vacant caller call gate dial hcall hstage
      exact h.entry?_addChannel hvacant hentry hopen call.transport (some call.transport)
  | @registers _ _ _ home _ _ hnone =>
      exact h.entry?_addChannel (h.vacant_of_get? hnone) hentry hopen home.transport none
  | forgets hmanaged hclosed => exact entry?_unwatch hentry (hne hmanaged hclosed) _
  | redials hmanaged hclosed =>
      rw [entry?_connect]
      exact entry?_unwatch hentry (hne hmanaged hclosed) _
  | closes => exact absurd rfl hmove

/-- A watcher takes no other channel out of the table than its own. -/
theorem entry?_stepWatcher {other : Nat} (hentry : manager.entry? device = some other)
    (hne : other ≠ number) : entry? (manager.stepWatcher number) device = some other := by
  have heffect := manager.effect_stepWatcher number
  generalize manager.stepWatcher number = next at heffect
  cases heffect with
  | rests hsame =>
      rw [Manager.entry?, hsame.table]
      exact hentry
  | forgets => exact entry?_unwatch hentry hne _
  | redials =>
      rw [entry?_connect]
      exact entry?_unwatch hentry hne _

/-! ### Runs -/

/-- **One channel for each device.** However calls, devices that call home, channels and watchers
take their turns: no two calls dial a device at a time, and no two engines do; what is open stays in
the table, unless all channels are closed for good; every open channel is in the table under its
device, so that a device has one at most; and a watcher leaves every channel there but its own. -/
theorem one_channel_per_device (config : ManagerConfig) (reception : Reception)
    (moves : List Move) :
    let manager := moves.foldl move (create config reception)
    (∀ (first second gate place dial engine : Nat) (call other : ConnectCall),
      manager.calls[first]? = some call → manager.calls[second]? = some other →
        call.stage = .dialling gate dial → other.stage = .dialling place engine →
          call.device = other.device → first = second) ∧
    (∀ (first second : Nat) (dial other : Dial),
      manager.dials[first]? = some dial → manager.dials[second]? = some other →
        dial.isUnderWay = true → other.isUnderWay = true →
          Device.dialled dial.address = Device.dialled other.address → first = second) ∧
    (∀ (next : Move) (device : Device) (number : Nat), next ≠ .closeAll →
      manager.entry? device = some number → manager.isOpen number = true →
        entry? (manager.move next) device = some number) ∧
    (∀ (number : Nat) (managed : ManagedChannel), manager.channels[number]? = some managed →
      managed.isClosed = false → manager.entry? managed.device = some number) ∧
    (∀ (first second : Nat) (managed other : ManagedChannel),
      manager.channels[first]? = some managed → manager.channels[second]? = some other →
        managed.isClosed = false → other.isClosed = false → managed.device = other.device →
          first = second) ∧
    ∀ (number other : Nat) (device : Device), manager.entry? device = some other →
      other ≠ number → entry? (manager.move (.watcher number)) device = some other := by
  intro manager
  have hgated : manager.Gated := (gated_create config reception).run moves
  have hwanted : manager.Wanted := (wanted_create config reception).run moves
  have htabled : manager.Tabled :=
    (tabled_create config reception).run (gated_create config reception) moves
  refine ⟨fun first second gate place dial engine call other hcall hother hdials hagain => ?_,
    fun first second dial other => hwanted.dials_unique hgated, fun next device number => ?_,
    htabled.listed, fun first second managed other hmanaged hother hopen hagain hdevice => ?_,
    fun number other device => entry?_stepWatcher⟩
  · exact hgated.dialling_unique hcall hother hdials hagain
  · exact htabled.entry?_effect (manager.effect_move next)
  · have hfirst := htabled.listed first managed hmanaged hopen
    have hsecond := htabled.listed second other hother hagain
    rw [hdevice, hsecond] at hfirst
    exact (Option.some.inj hfirst).symm

/-- A device calls home, its channel is closed, and it calls home again before the watcher has seen
that. Meanwhile two calls ask for another device, and the first of them dials. -/
def reunion : List Move :=
  let address : SocketAddress := .v4 default 830
  [.accept address.ip .tcp, .home false 0 .pending, .home false 0 (.connection ()),
    .channel 0 .close, .accept address.ip .tcp, .home false 1 .pending,
    .home false 1 (.connection ()), .connect address .tcp, .connect address .tcp, .turn false 0]

def reunited : Manager :=
  reunion.foldl move (create { maxPayload := 2, backoff := .default, reconnectOnDrop := true }
    { rules := [], accepting := true })

/-- The new channel is in the table, and stays there when another call has its turn or the watcher
of the closed channel. -/
theorem one_channel_per_device_of_reunion :
    reunited.dials.map Dial.isUnderWay = [true] ∧
      reunited.channels.map ManagedChannel.isClosed = [true, false] ∧
      let device := Device.callingHome (SocketAddress.v4 default 830).ip
      reunited.entry? device = some 1 ∧
      entry? (reunited.move (.turn false 1)) device = some 1 ∧
      entry? (reunited.move (.watcher 0)) device = some 1 := by
  refine ⟨rfl, rfl, ?_⟩
  intro device
  obtain ⟨managed, hmanaged, hopen, hdevice⟩ : ∃ managed,
      reunited.channels[1]? = some managed ∧ managed.isClosed = false ∧
        managed.device = device := ⟨_, rfl, rfl, rfl⟩
  obtain ⟨-, -, hstays, hlisted, -, hwatcher⟩ := one_channel_per_device
    { maxPayload := 2, backoff := .default, reconnectOnDrop := true }
    { rules := [], accepting := true } reunion
  have hentry : reunited.entry? device = some 1 := hdevice ▸ hlisted 1 managed hmanaged hopen
  refine ⟨hentry, ?_, hwatcher 0 1 device hentry (by decide)⟩
  refine hstays (.turn false 1) device 1 (fun h => by cases h) hentry ?_
  exact isOpen_iff.mpr ⟨managed, hmanaged, hopen⟩

end SessionMux.Manager
