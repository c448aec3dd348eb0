import SessionMux.Proofs.Host.Numbering
import SessionMux.Proofs.Host.Output

/-!
# Frames cross as datagrams

A channel over datagrams lets out what a datagram can carry: payloads are measured against a limit
that leaves room for the header, and codes are two bytes long. So each frame that is put into the
queue has an encoding, which is no longer than a datagram may be, and a receiver with the same limit
decodes the frame from it (`Frame.Crosses`). Control codes stand in the queue under their names,
under which they are decoded; only the code of an error may come back spelled in another way.
-/

namespace SessionMux

/-! ### Control codes under their names -/

def Frame.Spelled (frame : Frame) : Prop :=
  ∀ code, frame.body = .control code → code.normalize = code

theorem ControlCode.normalize_of_isNamed {code : ControlCode} (hnamed : code.isNamed = true) :
    code.normalize = code := by
  cases code with
  | sessionOpen | sessionClose | sessionCloseAck => rfl
  | other number => cases hnamed

namespace Frame

variable {frame : Frame}

theorem spelled_of_control (code : ControlCode) (hbody : frame.body = .control code)
    (hnamed : code.isNamed = true) : frame.Spelled := by
  intro other hother
  obtain rfl : code = other := FrameBody.control.inj (hbody.symm.trans hother)
  exact ControlCode.normalize_of_isNamed hnamed

theorem spelled_of_error (code : ErrorCode) (hbody : frame.body = .error code) :
    frame.Spelled := by
  intro other hother
  cases hbody.symm.trans hother

theorem Spelled.named_eq (h : frame.Spelled) (hop : frame.op ≠ .error) : frame.named = frame := by
  obtain ⟨port, session, body⟩ := frame
  cases body with
  | data payload => rfl
  | control code => simp only [named, h code rfl]
  | error code => exact absurd rfl hop

end Frame

/-- Whatever is done to a ledger, control codes are let out under their names. -/
theorem Ledger.Does.spelled {ledger next : Ledger} {deed : Deed} (hdoes : ledger.Does deed next)
    (h : ledger.Lets Frame.Spelled) : next.Lets Frame.Spelled := by
  cases hdoes with
  | works hworks =>
      refine hworks.lets (fun _ => Frame.spelled_of_control) (fun _ => Frame.spelled_of_error) h ?_
      intro frame id payload _ hbody code hcode
      cases hbody.symm.trans hcode
  | hears hreceives =>
      exact hreceives.lets (fun _ => Frame.spelled_of_control) (fun _ => Frame.spelled_of_error) h
  | reports => exact h
  | takes hframes =>
      intro frame hmem
      refine h frame ?_
      rw [hframes, List.cons_append]
      exact List.mem_cons_of_mem _ hmem
  | @loses front rear reply hreplies =>
      intro frame hmem
      refine h frame ?_
      rw [hreplies]
      simp only [List.mem_append, List.mem_cons] at hmem ⊢
      tauto
  | abandons =>
      intro frame hmem
      exact h frame (List.mem_append_right _ hmem)

/-! ### Frames and datagrams -/

namespace Frame

/-- A frame crosses as a datagram. A receiver with the limit decodes it, and finds at most the code
of an error spelled in another way. -/
structure Crosses (limit : Nat) (frame : Frame) (datagram : Bytes) : Prop where
  encode : frame.encode = .ok datagram
  length_le : datagram.length ≤ maxDatagram
  decode : ∃ received, decodeDatagram datagram limit = .ok received ∧ received.Same frame ∧
    (frame.op ≠ .error → received = frame)

variable {limit : Nat} {frame : Frame} {datagram : Bytes}

/-- A limit that leaves room for the header, and no less than a code. -/
theorem exists_crosses (hcode : 2 ≤ limit) (hlimit : limit ≤ maxDatagramPayload)
    (hfits : frame.Fits limit) (hspelled : frame.Spelled) :
    ∃ datagram, frame.Crosses limit datagram := by
  have hlength : frame.payloadLength ≤ limit := by
    by_cases hdata : frame.op = .data
    · exact hfits.payloadLength_le hdata
    · rw [payloadLength_of_code hdata]
      exact hcode
  have hroom : Header.byteCount + frame.payloadLength ≤ maxDatagram :=
    (Nat.add_le_add_left (hlength.trans hlimit) _).trans (by decide)
  have hannounced : frame.payloadLength < lengthBound :=
    (hlength.trans hlimit).trans_lt (by decide)
  refine ⟨_, encode_eq hannounced, ?_, _, decodeDatagram_encode hannounced hlength,
    frame.named_same, hspelled.named_eq⟩
  rw [List.length_append, Header.length_encode]
  exact hroom

theorem Crosses.of_encode (hcrosses : ∃ datagram, frame.Crosses limit datagram)
    (hencode : frame.encode = .ok datagram) : frame.Crosses limit datagram := by
  obtain ⟨other, hother⟩ := hcrosses
  obtain rfl : other = datagram := Except.ok.inj (hother.encode.symm.trans hencode)
  exact hother

theorem forall₂_crosses {frames : List Frame} {datagrams : List Bytes}
    (hcrosses : ∀ frame ∈ frames, ∃ datagram, frame.Crosses limit datagram)
    (hencoded : frames.map encode = datagrams.map .ok) :
    List.Forall₂ (Crosses limit) frames datagrams := by
  induction frames generalizing datagrams with
  | nil =>
      rw [List.map_nil, eq_comm, List.map_eq_nil_iff] at hencoded
      rw [hencoded]
      exact .nil
  | cons frame frames ih =>
      cases datagrams with
      | nil => cases hencoded
      | cons datagram datagrams =>
          obtain ⟨hfirst, hothers⟩ := List.forall_mem_cons.mp hcrosses
          obtain ⟨hencode, hrest⟩ := List.cons.inj hencoded
          exact .cons (.of_encode hfirst hencode) (ih hothers hrest)

end Frame

namespace Host

variable {host : Host} {limit : Nat} {caller : Caller}

/-! ### What is put into the queue -/

/-- What holds of every frame in the queue, after every step, holds of all that are ever put
there. -/
theorem forall_posted {motive : Host → Prop} {kind : Frame → Prop}
    (hstep : ∀ (host : Host) (step : Step), motive host → motive (host.step step))
    (hqueue : ∀ host : Host, motive host → ∀ frame ∈ host.channel.outbox.frames, kind frame)
    (h : motive host) (steps : List Step) : ∀ frame ∈ host.posted steps, kind frame := by
  induction steps generalizing host with
  | nil => exact List.forall_mem_nil _
  | cons step steps ih =>
      have hnext : motive (host.step step) := hstep host step h
      refine List.forall_mem_append.mpr ⟨fun frame hmem => ?_, ih hnext⟩
      exact hqueue _ hnext frame (List.mem_of_mem_drop hmem)

structure Sendable (limit : Nat) (host : Host) : Prop where
  fitting : host.Fitting limit
  spelled : host.ledger.Lets Frame.Spelled

theorem sendable_overDatagrams (config : ChannelConfig) (reception : Reception) :
    (overDatagrams config reception).Sendable config.overDatagrams.maxPayload where
  fitting := (Begun.overDatagrams config reception).footing.fitting
  spelled := by
    rw [ledger_overDatagrams]
    exact List.forall_mem_nil _

theorem Sendable.step (h : host.Sendable limit) (step : Step) :
    (host.step step).Sendable limit where
  fitting := h.fitting.step step
  spelled := by
    obtain ⟨deeds, hruns⟩ := (host.happened_happen (.step step)).runs
    exact hruns.preserves (fun _ _ _ _ hdoes => hdoes.spelled) h.spelled

theorem Sendable.run (h : host.Sendable limit) (steps : List Step) :
    (steps.foldl Host.step host).Sendable limit := by
  induction steps generalizing host with
  | nil => exact h
  | cons step steps ih => exact ih (h.step step)

theorem Sendable.exists_crosses (h : host.Sendable limit) (hcode : 2 ≤ limit)
    (hlimit : limit ≤ maxDatagramPayload) (steps : List Step) :
    ∀ frame ∈ host.posted steps, ∃ datagram, frame.Crosses limit datagram := by
  refine forall_posted (motive := Sendable limit) (fun _ step h => h.step step) ?_ h steps
  intro host h frame hmem
  refine Frame.exists_crosses hcode hlimit ?_ ?_
  · exact h.fitting.outgoing (List.mem_append_left _ hmem)
  · exact h.spelled frame (List.mem_append_left _ hmem)

/-- A writer has in hand what was put into the queue. If it can be encoded, the writer goes on with
the datagram, and the channel is none the wiser. -/
theorem turn_of_holding {posted : List Frame} (hright : Account.datagrams.Right host posted)
    (hcrew : host.Crew .writeDatagrams .readDatagrams) {frame : Frame}
    (htask : host.tasks[caller]? = some (.working (.writeDatagrams (.holding frame)) false))
    (eager : Bool) : frame ∈ posted ∧ ∀ datagram, frame.encode = .ok datagram →
      let next := host.step (.turn eager caller)
      next.tasks[caller]? = some (.working (.writeDatagrams (.sending datagram)) false) ∧
        next.channel = { host.channel with signals := [] } := by
  constructor
  · obtain ⟨rfl, -⟩ := hcrew.writes caller _ _ htask rfl
    cases hright with
    | works hworking h =>
        obtain ⟨writer, rfl, later, ⟨sent, rfl, -⟩, hlater⟩ := h
        cases hworking.symm.trans htask
        obtain rfl := hlater
        exact List.mem_append_right _ List.mem_cons_self
    | ended hover => cases hover.symm.trans htask
  · intro datagram hencode
    obtain ⟨htook, -⟩ := took_takeTurn eager htask
    have hwork : host.workOf eager caller (.writeDatagrams (.holding frame)) false =
        (.goes (.writeDatagrams (.sending datagram)), host) := by
      simp only [workOf, stepJob, DatagramWriter.step, hencode, Bool.false_eq_true, if_false]
      rfl
    rw [hwork] at htook
    obtain ⟨verdict, hself⟩ := htook.task
    exact ⟨hself, htook.channel⟩

/-! ### What is sent -/

/-- A payload that is not too long is not refused for its length. -/
theorem ask_ne_oversize {channel : Channel} {payload : Bytes}
    (hlength : payload.length ≤ channel.config.maxPayload) (clock : Nat) (id : UInt32)
    (size max : Nat) :
    (Call.ask channel clock caller (.send id payload)).1 ≠
      .ends (.error (.payloadTooLarge size max)) := by
  have hnone : channel.oversize? payload = none := if_neg (Nat.not_lt.mpr hlength)
  unfold Call.ask
  simp only [hnone]
  split
  · simp
  · simp
  · simp only [Call.perform, Channel.send]
    split
    · simp [Except.map]
    · split <;> simp [Except.map]

theorem turn_of_send {id : UInt32} {payload : Bytes} (eager : Bool)
    (htask : host.tasks[caller]? = some (.working (.call (.send id payload) .asking) false)) :
    let limit := host.channel.config.maxPayload
    let next := host.step (.turn eager caller)
    ((∃ size max, next.outcome? caller = some (.failed (.payloadTooLarge size max))) ↔
        limit < payload.length) ∧
      (limit < payload.length →
        next.outcome? caller = some (.failed (.payloadTooLarge payload.length limit)) ∧
          next.channel =
            { host.channel with outbox := host.channel.outbox.release caller, signals := [] }) := by
  intro limit next
  obtain ⟨htook, -⟩ := took_takeTurn eager htask
  have hlong (hlength : limit < payload.length) :
      next.outcome? caller = some (.failed (.payloadTooLarge payload.length limit)) ∧
        next.channel =
          { host.channel with outbox := host.channel.outbox.release caller, signals := [] } := by
    have hoversize : host.channel.oversize? payload =
        some (.payloadTooLarge payload.length limit) := if_pos hlength
    have hwork : host.workOf eager caller (.call (.send id payload) .asking) false =
        (.ends (.failed (.payloadTooLarge payload.length limit)), host) := by
      simp only [workOf, stepJob, Call.step, Call.ask, hoversize, Bool.false_eq_true, if_false]
      rfl
    rw [hwork] at htook
    obtain ⟨verdict, hself⟩ := htook.task
    refine ⟨?_, htook.channel⟩
    rw [outcome?, show next.tasks[caller]? = _ from hself]
    rfl
  refine ⟨⟨?_, fun hlength => ⟨_, _, (hlong hlength).1⟩⟩, hlong⟩
  rintro ⟨size, max, houtcome⟩
  refine Nat.lt_of_not_le fun hlength => ?_
  obtain ⟨result, hask, hresult⟩ := Turn.ends_of_map (htook.ends (task_of_outcome? houtcome))
  refine ask_ne_oversize hlength host.clock id size max (hask.trans (congrArg Turn.ends ?_))
  cases result with
  | error error =>
      cases hresult
      rfl
  | ok opened => cases opened <;> cases hresult

/-- **What is queued for datagrams crosses**, whatever the limit is that was asked for, if it is
enough for a code. Every frame that was ever put into the queue can be encoded, its datagram is not
too long, and a peer with the same limit decodes the frame that was queued. The datagrams that were
sent are those of the first frames, and a writer with a frame in hand goes on with its datagram. A
send is refused for its length exactly if it is beyond the limit, and then nothing changes but that
the caller waits for a place in the queue no more: the channel stays as open as it was. -/
theorem datagrams_cross (config : ChannelConfig) (hcode : 2 ≤ config.maxPayload)
    (reception : Reception) (steps : List Step) (hkeeps : ∀ step ∈ steps, step.KeepsOutput) :
    let limit := config.overDatagrams.maxPayload
    let begun := overDatagrams config reception
    let host := steps.foldl step begun
    (∀ frame ∈ begun.posted steps, ∃ datagram, frame.Crosses limit datagram) ∧
      (∃ front, front <+: begun.posted steps ∧
        List.Forall₂ (Frame.Crosses limit) front host.wire.written) ∧
      (∀ (caller : Caller) (frame : Frame) (eager : Bool),
        host.tasks[caller]? = some (.working (.writeDatagrams (.holding frame)) false) →
          let next := host.step (.turn eager caller)
          frame ∈ begun.posted steps ∧ ∃ datagram, frame.Crosses limit datagram ∧
            next.tasks[caller]? = some (.working (.writeDatagrams (.sending datagram)) false) ∧
            next.channel = { host.channel with signals := [] }) ∧
      ∀ (caller : Caller) (id : UInt32) (payload : Bytes) (eager : Bool),
        host.tasks[caller]? = some (.working (.call (.send id payload) .asking) false) →
          let next := host.step (.turn eager caller)
          ((∃ size max, next.outcome? caller = some (.failed (.payloadTooLarge size max))) ↔
              limit < payload.length) ∧
            (limit < payload.length →
              next.outcome? caller = some (.failed (.payloadTooLarge payload.length limit)) ∧
                next.channel = { host.channel with
                  outbox := host.channel.outbox.release caller, signals := [] }) := by
  intro limit begun host
  have hbegun : begun.Sendable limit := sendable_overDatagrams config reception
  have hright : Account.datagrams.Right host (begun.posted steps) :=
    (right_overDatagrams config reception).run (crew_overDatagrams config reception) steps hkeeps
  have hcrosses : ∀ frame ∈ begun.posted steps, ∃ datagram, frame.Crosses limit datagram :=
    hbegun.exists_crosses (le_min hcode (by decide)) (min_le_right _ _) steps
  refine ⟨hcrosses, ?_, fun caller frame eager htask => ?_, fun caller id payload eager htask => ?_⟩
  · obtain ⟨later, front, hposted, hwritten⟩ := hright.sent
    refine ⟨front, ⟨later, hposted.symm⟩, Frame.forall₂_crosses (fun frame hmem => ?_) hwritten⟩
    refine hcrosses frame ?_
    rw [hposted]
    exact List.mem_append_left _ hmem
  · have hcrew : host.Crew .writeDatagrams .readDatagrams :=
      (crew_overDatagrams config reception).run steps
    obtain ⟨hmem, hturn⟩ := turn_of_holding hright hcrew htask eager
    obtain ⟨datagram, hdatagram⟩ := hcrosses frame hmem
    exact ⟨hmem, datagram, hdatagram, hturn datagram hdatagram.encode⟩
  · have hlimit : host.channel.config.maxPayload = limit :=
      (hbegun.run steps).fitting.channel.limit_eq
    rw [← hlimit]
    exact turn_of_send eager htask

/-- The least limit. A payload that just meets it is in the writer's hand, and one that exceeds it
by a byte is about to be sent. -/
theorem datagrams_cross_least_limit :
    let config := { (default : ChannelConfig) with maxPayload := 2 }
    let begun := overDatagrams config { rules := [], accepting := true }
    let steps : List Step := [.call (.openSession 80 .queue) false, .turn false 2, .turn false 0,
      .turn false 0, .turn false 0, .call (.send 1 [7, 8]) false, .turn false 3, .turn false 0,
      .call (.send 1 [7, 8, 9]) false]
    let host := steps.foldl step begun
    let data : Frame := { port := 80, session := 1, body := .data [7, 8] }
    (∃ front, front <+: begun.posted steps ∧
        List.Forall₂ (Frame.Crosses 2) front host.wire.written) ∧
      host.wire.written.length = 1 ∧
      data ∈ begun.posted steps ∧
      (host.step (.turn false 4)).outcome? 4 = some (.failed (.payloadTooLarge 3 2)) ∧
      (host.step (.turn false 4)).channel.closed = false := by
  intro config begun steps host data
  have hkeeps : ∀ step ∈ steps, step.KeepsOutput := by
    simp only [steps, List.forall_mem_cons, Step.KeepsOutput]
    exact ⟨trivial, trivial, trivial, trivial, trivial, trivial, trivial, trivial, trivial,
      List.forall_mem_nil _⟩
  have hholds : host.tasks[0]? = some (.working (.writeDatagrams (.holding data)) false) := by
    decide
  have hasks : host.tasks[4]? = some (.working (.call (.send 1 [7, 8, 9]) .asking) false) := by
    decide
  have hwritten : host.wire.written.length = 1 := by decide
  have hopen : (host.step (.turn false 4)).channel.closed = false := by decide
  have hcross := datagrams_cross config (by decide) { rules := [], accepting := true } steps hkeeps
  have hlimit : config.overDatagrams.maxPayload = 2 := rfl
  have hbegun : overDatagrams config { rules := [], accepting := true } = begun := rfl
  have hhost : steps.foldl step begun = host := rfl
  -- From here on, nothing is to be evaluated any more.
  rw [hlimit, hbegun] at hcross
  clear_value host begun
  obtain ⟨-, hfront, hwriter, hsend⟩ := hcross
  rw [hhost] at hfront hwriter hsend
  exact ⟨hfront, hwritten, (hwriter 0 data false hholds).1,
    ((hsend 4 1 [7, 8, 9] false hasks).2 (by decide)).1, hopen⟩

end Host

end SessionMux
