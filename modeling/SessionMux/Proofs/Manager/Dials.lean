import SessionMux.Proofs.Manager.Gate

/-!
# Who dials

A call that has the turn starts an engine and waits for it, and whatever ends this wait ends the
engine as well. So every engine that has not come to its result yet dials for a call that waits for
it (`Manager.Wanted`), and since one call dials a device at a time, one engine does
(`Wanted.dials_unique`).
-/

namespace SessionMux

namespace Engine

variable {Memory Conn : Type} {engine : Engine Memory Conn}

theorem isTerminal_complete (connection : Conn) :
    (engine.complete connection).state.isTerminal = true := by
  unfold complete
  extract_lets ended connected
  split
  · assumption
  · split <;> rfl

/-- What has come to its result stays so, however the work goes on. -/
theorem isTerminal_step (hterminal : engine.state.isTerminal = true) (clock : Nat)
    (answer : Answer Conn) : (engine.step clock answer).1.state.isTerminal = true := by
  unfold step
  extract_lets timeout cancelled
  split
  · exact hterminal
  · exact hterminal
  · exact hterminal
  · rw [proceed, if_pos hterminal]
    exact hterminal
  · split <;> exact hterminal
  · split <;> exact hterminal
  · split
    · exact hterminal
    · exact hterminal
    · exact hterminal
    · split <;> exact hterminal
  · split
    · exact isTerminal_complete _
    · rw [fail, if_pos hterminal]
      exact hterminal
  · split
    · exact hterminal
    · split <;> exact hterminal

end Engine

def Dial.isUnderWay (dial : Dial) : Bool := !dial.engine.state.isTerminal

namespace Manager

variable {manager next : Manager} {number gate dial : Nat} {call : ConnectCall}
  {stage : ConnectStage}

def Wanted (manager : Manager) : Prop :=
  ∀ (number : Nat) (dial : Dial), manager.dials[number]? = some dial → dial.isUnderWay = true →
    ∃ (caller : Nat) (call : ConnectCall) (gate : Nat), manager.calls[caller]? = some call ∧
      call.stage = .dialling gate number ∧ call.address = dial.address

/-! ### What a move preserves -/

theorem Wanted.of_calls (h : manager.Wanted) (hdials : next.dials = manager.dials)
    (hcalls : ∀ (caller : Nat) (call : ConnectCall) (gate number : Nat),
      manager.calls[caller]? = some call → call.stage = .dialling gate number →
        next.calls[caller]? = some call) : next.Wanted := by
  intro number dial hdial hopen
  rw [hdials] at hdial
  obtain ⟨caller, call, gate, hcall, hstage, haddress⟩ := h number dial hdial hopen
  exact ⟨caller, call, gate, hcalls caller call gate number hcall hstage, hstage, haddress⟩

/-- An engine at work is not taken up again when it has come to its result. -/
theorem Wanted.onEngine (h : manager.Wanted) (number : Nat)
    {change : Engine Backoff Unit → Engine Backoff Unit}
    (hchange : ∀ engine, engine.state.isTerminal = true →
      (change engine).state.isTerminal = true) : (manager.onEngine number change).Wanted := by
  obtain ⟨events, heq⟩ := manager.onEngine_eq number change
  rw [heq]
  intro other later hlater hopen
  rw [List.getElem?_modify] at hlater
  obtain ⟨dial, hdial, rfl⟩ := Option.map_eq_some_iff.mp hlater
  have haddress : (if number = other then { dial with engine := change dial.engine }
      else dial : Dial).address = dial.address := by
    split <;> rfl
  have hbefore : dial.isUnderWay = true := by
    split at hopen
    · cases hterminal : dial.engine.state.isTerminal with
      | true =>
          rw [Dial.isUnderWay, hchange dial.engine hterminal] at hopen
          cases hopen
      | false => rw [Dial.isUnderWay, hterminal, Bool.not_false]
    · exact hopen
  obtain ⟨caller, call, gate, hcall, hstage, hsame⟩ := h other dial hdial hbefore
  exact ⟨caller, call, gate, hcall, hstage, hsame.trans haddress.symm⟩

/-- A call that does not dial goes on to another stage. -/
theorem Wanted.goes (h : manager.Wanted) (hcall : manager.calls[number]? = some call)
    (hidle : ∀ gate dial, call.stage ≠ .dialling gate dial)
    (hdials : next.dials = manager.dials)
    (hcalls : next.calls = (manager.setCall number stage).calls) : next.Wanted := by
  refine h.of_calls hdials fun other found gate dial hfound hdialling => ?_
  have hne : other ≠ number := by
    rintro rfl
    cases hcall.symm.trans hfound
    exact hidle gate dial hdialling
  rw [hcalls, call?_setCall_ne hne]
  exact hfound

/-- A call goes on, and the engine that dialled for it has come to its result. -/
theorem Wanted.ends (h : manager.Wanted) (hcall : manager.calls[number]? = some call)
    (hstage : call.stage = .dialling gate dial)
    {change : Engine Backoff Unit → Engine Backoff Unit}
    (hends : ∀ engine, (change engine).state.isTerminal = true)
    (hdials : next.dials = (manager.onEngine dial change).dials)
    (hcalls : next.calls = ((manager.onEngine dial change).setCall number stage).calls) :
    next.Wanted := by
  have hchanged := h.onEngine dial fun engine (_ : engine.state.isTerminal = true) => hends engine
  intro other later hlater hopen
  rw [hdials] at hlater
  obtain ⟨caller, found, place, hfound, hdialling, haddress⟩ := hchanged other later hlater hopen
  rw [calls_onEngine] at hfound
  have hne : caller ≠ number := by
    rintro rfl
    cases hcall.symm.trans hfound
    -- the engine of this call is the one that has ended
    cases hstage.symm.trans hdialling
    obtain ⟨events, heq⟩ := manager.onEngine_eq dial change
    rw [heq, List.getElem?_modify_eq] at hlater
    obtain ⟨before, -, rfl⟩ := Option.map_eq_some_iff.mp hlater
    rw [Dial.isUnderWay, hends] at hopen
    cases hopen
  refine ⟨caller, found, place, ?_, hdialling, haddress⟩
  rw [hcalls, call?_setCall_ne hne, calls_onEngine]
  exact hfound

theorem Wanted.starts (h : manager.Wanted) (hcall : manager.calls[number]? = some call)
    (hstage : call.stage = .queued gate) : (manager.dial number gate call).Wanted := by
  intro other later hlater hopen
  obtain hold | ⟨rfl, rfl⟩ := of_getElem?_concat hlater
  · have hkept : Wanted { manager.setCall number (.dialling gate manager.dials.length) with
        dials := manager.dials } := by
      refine h.goes hcall (fun place dial hdialling => ?_) rfl rfl
      cases hstage.symm.trans hdialling
    exact hkept other later hold hopen
  · exact ⟨number, _, gate, call?_setCall_self hcall _, rfl, rfl⟩

theorem Wanted.addCall (h : manager.Wanted) (hdials : next.dials = manager.dials)
    (hcalls : next.calls = (manager.addCall call).calls) : next.Wanted := by
  refine h.of_calls hdials fun caller found gate number hfound _ => ?_
  rw [hcalls, Manager.addCall, List.getElem?_append_left (List.getElem?_eq_some_iff.mp hfound).1]
  exact hfound

theorem Wanted.enqueue (h : manager.Wanted) (address : SocketAddress) (transport : Transport) :
    (manager.enqueue address transport).Wanted := by
  unfold Manager.enqueue
  extract_lets device number
  split <;> exact h.addCall rfl rfl

theorem Wanted.connect (h : manager.Wanted) (address : SocketAddress) (transport : Transport) :
    (manager.connect address transport).Wanted := by
  unfold Manager.connect
  split
  · exact h.addCall rfl rfl
  · exact h.enqueue address transport

theorem Wanted.effect (h : manager.Wanted) {move : Move} (heffect : manager.Effect move next) :
    next.Wanted := by
  cases heffect with
  | rests hsame =>
      refine h.of_calls hsame.dials fun caller call gate number hcall _ => ?_
      rw [hsame.calls]
      exact hcall
  | @channel number step =>
      obtain ⟨events, heq⟩ := manager.onHost_eq number (·.step step)
      rw [heq]
      exact h.of_calls rfl fun _ _ _ _ hcall _ => hcall
  | works => exact h.onEngine _ fun engine hterminal => Engine.isTerminal_step hterminal _ _
  | connects => exact h.connect _ _
  | enqueues => exact h.enqueue _ _
  | dials hcall hstage => exact h.starts hcall hstage
  | finds hcall hstage | drops hcall hstage | leaves hcall hstage =>
      refine h.goes hcall (fun gate dial hdialling => ?_) rfl rfl
      cases hstage.symm.trans hdialling
  | fails hcall hstage hends => exact h.ends hcall hstage hends rfl rfl
  | establishes hcall hstage hends => exact h.ends hcall hstage hends rfl rfl
  | dropsDial hcall hstage =>
      exact h.ends hcall hstage (fun _ => isTerminal_cancel _) rfl rfl
  | registers => exact h.of_calls rfl fun _ _ _ _ hcall _ => hcall
  | forgets => exact h.of_calls rfl fun _ _ _ _ hcall _ => hcall
  | @redials number managed =>
      have hforgot : (manager.unwatch number managed).Wanted :=
        h.of_calls rfl fun _ _ _ _ hcall _ => hcall
      exact hforgot.connect _ _
  | closes =>
      obtain ⟨events, heq⟩ := manager.closeAll_eq
      rw [heq]
      exact h.of_calls rfl fun _ _ _ _ hcall _ => hcall

theorem Wanted.run (h : manager.Wanted) (moves : List Move) :
    (moves.foldl Manager.move manager).Wanted := by
  induction moves generalizing manager with
  | nil => exact h
  | cons move moves ih => exact ih (h.effect (manager.effect_move move))

theorem wanted_create (config : ManagerConfig) (reception : Reception) :
    (create config reception).Wanted := by
  intro number dial hdial
  cases hdial

/-- **One dial a device at a time.** -/
theorem Wanted.dials_unique (h : manager.Wanted) (hgated : manager.Gated) {first second : Nat}
    {dial other : Dial} (hdial : manager.dials[first]? = some dial)
    (hother : manager.dials[second]? = some other) (hopen : dial.isUnderWay = true)
    (hagain : other.isUnderWay = true)
    (hdevice : Device.dialled dial.address = Device.dialled other.address) : first = second := by
  obtain ⟨caller, call, gate, hcall, hstage, haddress⟩ := h first dial hdial hopen
  obtain ⟨rival, found, place, hfound, hdials, hsame⟩ := h second other hother hagain
  have hdevices : call.device = found.device := by
    rw [ConnectCall.device, ConnectCall.device, haddress, hsame]
    exact hdevice
  have hcaller := hgated.dialling_unique hcall hfound hstage hdials hdevices
  subst hcaller
  cases hcall.symm.trans hfound
  cases hstage.symm.trans hdials
  rfl

end Manager

end SessionMux
