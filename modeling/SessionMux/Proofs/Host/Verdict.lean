import SessionMux.Proofs.Host.Waits

/-!
# How a wait for an acknowledgement ends

A caller closes a session and waits for the peer to acknowledge that. Followed from the turn in
which it begins to wait to the move with which it ends, the wait has one of four causes, and each
outcome has its own (`wait_verdict`). Nothing that happens to the waits of other sessions is among
them. But a later wait for a session with the same id is: the first caller then learns that the
channel is closed, which it need not be (`displaced_while_open`).
-/

namespace SessionMux.Host

open Register

variable {host : Host} {move : Move} {tasks : List HostTask} {register : Register}
  {caller : Caller} {id : UInt32}

/-- In its next turn a caller closes a session and begins to wait for the acknowledgement. -/
def BeginsWait (host : Host) (caller : Caller) (id : UInt32) (timeout : Nat) : Prop :=
  host.tasks[caller]? = some (.working (.call (.closeAndWait id timeout) .asking) false) ∧
    ∃ deadline, (host.move (.act (.turn caller))).tasks[caller]? = some
      (.working (.call (.closeAndWait id timeout) (.awaiting id deadline none)) false)

/-- In a run another caller closes a session with the same id, and begins to wait in the place of
the one who waits already. -/
def Displaced (start : Host) (caller : Caller) (id : UInt32) (moves : List Move) : Prop :=
  ∃ front other timeout rear, moves = front ++ .act (.turn other) :: rear ∧ other ≠ caller ∧
    (front.foldl Host.move start).BeginsWait other id timeout

def Causes (start : Host) (caller : Caller) (id : UInt32) (moves : List Move) : Verdict → Prop
  | .acknowledged => ∃ frame admission, .hear frame admission ∈ moves ∧
      frame.body = .control .sessionCloseAck ∧ frame.session = id
  | .forsaken =>
    (moves.foldl Host.move start).channel.closed = true ∨ start.Displaced caller id moves

/-! ### One move -/

theorem Effect.closed (heffect : host.Effect move tasks register)
    (hclosed : host.register.closed = true) : register.closed = true := by
  cases heffect with
  | rests hgrows hwaits | ends htask hends hgrows hwaits => rw [hwaits.closed, hclosed]
  | marks | arrives | begins | givesUp => exact hclosed
  | acknowledges hbody =>
      unfold Register.acknowledge
      split <;> exact hclosed
  | closes =>
      rw [Register.close, if_pos hclosed, hclosed]

theorem Waits.closed_move (h : host.Waits) (hclosed : host.channel.closed = true) (move : Move) :
    (host.move move).channel.closed = true := by
  obtain ⟨tasks, register, heffect, hsettles⟩ := effect_move h.truthful.plain h.told move
  have hwritten := congrArg Register.closed hsettles.written
  exact hwritten.trans (heffect.closed hclosed)

theorem Effect.begins_wait (h : host.Waits) {timeout : Nat}
    (htask : host.tasks[caller]? =
      some (.working (.call (.closeAndWait id timeout) .asking) false))
    (hsettles : Settles
      (host.tasks.set caller (.working
        (.call (.closeAndWait id timeout) (.awaiting id (host.clock + timeout) none)) false))
      (host.register.await caller id) (host.move (.act (.turn caller)))) :
    host.BeginsWait caller id timeout := by
  obtain ⟨hcaller, -⟩ := List.getElem?_eq_some_iff.mp htask
  have hheard := hsettles.heard caller _ (List.getElem?_set_self hcaller)
  rw [h.keeps.lookup_await h.told htask id, HostTask.hear_none] at hheard
  exact ⟨htask, _, hheard⟩

/-- A verdict that a waiting caller learns in a move has its cause in this move. -/
theorem Effect.causes (h : host.Waits) (heffect : host.Effect move tasks register)
    (hsettles : Settles tasks register (host.move move)) {task : HostTask}
    (htask : host.tasks[caller]? = some task) (hopen : task.IsOpen)
    (hawaited : task.awaited? = some id) {verdict : Verdict}
    (hlookup : register.verdicts.lookup caller = some verdict) :
    host.Causes caller id [move] verdict := by
  have hmem : (id, caller) ∈ host.register.pendingClose :=
    h.keeps.mem_of_open h.told htask hopen hawaited
  have hsilent (hverdicts : register.verdicts = []) : host.Causes caller id [move] verdict := by
    rw [hverdicts] at hlookup
    cases hlookup
  cases heffect with
  | rests hgrows hwaits | ends _ _ hgrows hwaits => exact hsilent (hwaits.verdicts.trans h.told)
  | marks | arrives => exact hsilent h.told
  | @begins other session timeout hother =>
      obtain ⟨rfl, known, hforsaken⟩ := (lookup_forsake h.told _ caller verdict).mp hlookup
      obtain ⟨hknown, hsession⟩ := List.mem_filter.mp hforsaken
      obtain rfl := h.keeps.eq_of_awaited htask hawaited hknown
      obtain rfl : known = session := of_decide_eq_true hsession
      exact .inr ⟨[], other, timeout, [], rfl, h.keeps.ne_of_asking hother hmem,
        Effect.begins_wait h hother hsettles⟩
  | @givesUp other request session deadline hother hdue =>
      -- Whoever gives up is the one who is known for this session, so nobody else is forsaken.
      obtain ⟨rfl, known, hforsaken⟩ := (lookup_forsake h.told _ caller verdict).mp hlookup
      obtain ⟨hknown, hcondition⟩ := List.mem_filter.mp hforsaken
      simp only [Bool.and_eq_true, decide_eq_true_eq] at hcondition
      obtain ⟨rfl, hne⟩ := hcondition
      have hgiver := h.keeps.lookup_eq (h.keeps.mem_of_open h.told hother trivial rfl)
      have hwaiter := h.keeps.lookup_eq hknown
      exact absurd (Option.some.inj (hwaiter.symm.trans hgiver)) hne
  | @acknowledges frame admission hbody =>
      obtain ⟨rfl, hknown⟩ := lookup_acknowledge h.told hlookup
      have hsession := h.keeps.eq_of_awaited htask hawaited hknown
      exact ⟨frame, admission, List.mem_cons_self, hbody, hsession⟩
  | closes =>
      unfold Register.close at hlookup hsettles
      split at hlookup
      · rw [h.told] at hlookup
        cases hlookup
      · rename_i hnot
        rw [if_neg hnot] at hsettles
        obtain ⟨rfl, -⟩ := (lookup_forsake h.told _ caller verdict).mp hlookup
        exact .inl (congrArg Register.closed hsettles.written)

/-- How a task comes out of a move that waits for an acknowledgement, before it learns anything: it
waits on, or it ends with a verdict that it had learnt already, or because its time is up. -/
theorem Effect.task (heffect : host.Effect move tasks register) {request : Request}
    {deadline : Nat} {verdict : Option Verdict} {aborted : Bool}
    (htask : host.tasks[caller]? =
      some (.working (.call request (.awaiting id deadline verdict)) aborted)) :
    (∃ marked, tasks[caller]? =
        some (.working (.call request (.awaiting id deadline verdict)) marked) ∧
      (marked = true → aborted = true ∨ move = .act (.abort caller))) ∨
    ∃ outcome, tasks[caller]? = some (.over outcome) ∧
      (aborted = true ∧ outcome = .aborted ∨
        (∃ learnt, verdict = some learnt ∧ outcome = .ofCall learnt.result) ∨
        deadline ≤ host.clock ∧ outcome = .failed (.closeTimeout id)) := by
  obtain ⟨hcaller, -⟩ := List.getElem?_eq_some_iff.mp htask
  cases heffect with
  | rests | acknowledges | closes => exact .inl ⟨aborted, htask, .inl⟩
  | @marks other other_request stage was hother =>
      left
      by_cases heq : other = caller
      · subst heq
        cases htask.symm.trans hother
        exact ⟨true, List.getElem?_set_self hcaller, fun _ => .inr rfl⟩
      · rw [List.getElem?_set_ne heq]
        exact ⟨aborted, htask, .inl⟩
  | arrives hother | begins hother =>
      exact .inl ⟨aborted, task_set_of_ne hother htask nofun, .inl⟩
  | @ends other task outcome next hother hends =>
      by_cases heq : other = caller
      · subst heq
        cases htask.symm.trans hother
        refine .inr ⟨outcome, List.getElem?_set_self hcaller, ?_⟩
        obtain ⟨rfl, rfl⟩ | ⟨rfl, hlearnt⟩ := hends
        · exact .inl ⟨rfl, rfl⟩
        · exact .inr (.inl hlearnt)
      · left
        rw [List.getElem?_set_ne heq]
        exact ⟨aborted, htask, .inl⟩
  | @givesUp other other_request session due hother hdue =>
      by_cases heq : other = caller
      · subst heq
        cases htask.symm.trans hother
        exact .inr ⟨_, List.getElem?_set_self hcaller, .inr (.inr ⟨hdue, rfl⟩)⟩
      · left
        rw [List.getElem?_set_ne heq]
        exact ⟨aborted, htask, .inl⟩

/-- A task that is over stays over. -/
theorem Effect.task_over (heffect : host.Effect move tasks register) {outcome : Outcome}
    (htask : host.tasks[caller]? = some (.over outcome)) :
    tasks[caller]? = some (.over outcome) := by
  cases heffect with
  | rests | acknowledges | closes => exact htask
  | marks hother | arrives hother | begins hother | givesUp hother =>
      exact task_set_of_ne hother htask nofun
  | ends hother hends =>
      refine task_set_of_ne hother htask ?_
      rintro rfl
      exact hends

theorem Waits.over_move (h : host.Waits) {outcome : Outcome}
    (htask : host.tasks[caller]? = some (.over outcome)) (move : Move) :
    (host.move move).tasks[caller]? = some (.over outcome) := by
  obtain ⟨tasks, register, heffect, hsettles⟩ := effect_move h.truthful.plain h.told move
  exact hsettles.heard caller _ (heffect.task_over htask)

/-- A caller who waits waits on after a move, and what it has learnt in it has its cause there, or
ends with it. -/
theorem Waits.awaiting_move (h : host.Waits) {request : Request} {deadline : Nat}
    {verdict : Option Verdict} {aborted : Bool}
    (htask : host.tasks[caller]? =
      some (.working (.call request (.awaiting id deadline verdict)) aborted)) (move : Move) :
    (∃ learnt marked, (host.move move).tasks[caller]? =
        some (.working (.call request (.awaiting id deadline learnt)) marked) ∧
      (marked = true → aborted = true ∨ move = .act (.abort caller)) ∧
      (learnt = verdict ∨ ∃ new, learnt = some new ∧ host.Causes caller id [move] new)) ∨
    ∃ outcome, (host.move move).tasks[caller]? = some (.over outcome) ∧
      (aborted = true ∧ outcome = .aborted ∨
        (∃ learnt, verdict = some learnt ∧ outcome = .ofCall learnt.result) ∨
        deadline ≤ host.clock ∧ outcome = .failed (.closeTimeout id)) := by
  obtain ⟨tasks, register, heffect, hsettles⟩ := effect_move h.truthful.plain h.told move
  obtain ⟨marked, hmarked, hcause⟩ | ⟨outcome, hover, hreason⟩ := heffect.task htask
  · left
    have hheard := hsettles.heard caller _ hmarked
    cases verdict with
    | some learnt => exact ⟨some learnt, marked, hheard, hcause, .inl rfl⟩
    | none =>
        refine ⟨_, marked, hheard, hcause, ?_⟩
        cases hlookup : register.verdicts.lookup caller with
        | none => exact .inl rfl
        | some new =>
            exact .inr ⟨new, rfl, heffect.causes h hsettles htask trivial rfl hlookup⟩
  · exact .inr ⟨outcome, hsettles.heard caller _ hover, hreason⟩

/-! ### A whole wait -/

theorem Causes.concat {start : Host} (h : start.Waits) {moves : List Move} {verdict : Verdict}
    (hcauses : start.Causes caller id moves verdict) (move : Move) :
    start.Causes caller id (moves ++ [move]) verdict := by
  cases verdict with
  | acknowledged =>
      obtain ⟨frame, admission, hmem, hframe⟩ := hcauses
      exact ⟨frame, admission, List.mem_append_left _ hmem, hframe⟩
  | forsaken =>
      obtain hclosed | ⟨front, other, timeout, rear, rfl, hother⟩ := hcauses
      · left
        rw [List.foldl_concat]
        exact (h.run moves).closed_move hclosed move
      · exact .inr ⟨front, other, timeout, rear ++ [move], by simp, hother⟩

theorem Causes.of_last {start : Host} {moves : List Move} {verdict : Verdict}
    (hcauses : (moves.foldl Host.move start).Causes caller id [move] verdict) :
    start.Causes caller id (moves ++ [move]) verdict := by
  cases verdict with
  | acknowledged =>
      obtain ⟨frame, admission, hmem, hframe⟩ := hcauses
      exact ⟨frame, admission, List.mem_append_right _ hmem, hframe⟩
  | forsaken =>
      obtain hclosed | ⟨front, other, timeout, rear, hsplit, hne, hbegins⟩ := hcauses
      · left
        rw [List.foldl_concat]
        exact hclosed
      · refine .inr ⟨moves ++ front, other, timeout, rear, ?_, hne, ?_⟩
        · rw [hsplit, List.append_assoc]
        · rw [List.foldl_append]
          exact hbegins

def Awaits (start : Host) (caller : Caller) (request : Request) (id : UInt32) (deadline : Nat)
    (moves : List Move) : Prop :=
  ∃ verdict aborted, (moves.foldl Host.move start).tasks[caller]? =
      some (.working (.call request (.awaiting id deadline verdict)) aborted) ∧
    (aborted = true → .act (.abort caller) ∈ moves) ∧
    ∀ learnt, verdict = some learnt → start.Causes caller id moves learnt

theorem Awaits.concat {start : Host} (h : start.Waits) {request : Request} {deadline : Nat}
    {moves : List Move} (hawaits : start.Awaits caller request id deadline moves) (move : Move) :
    start.Awaits caller request id deadline (moves ++ [move]) ∨
      ∃ outcome, ((moves ++ [move]).foldl Host.move start).tasks[caller]? =
        some (.over outcome) := by
  obtain ⟨verdict, aborted, htask, haborted, hverdict⟩ := hawaits
  rw [Awaits, List.foldl_concat]
  obtain ⟨learnt, marked, hnext, hmarked, hlearnt⟩ | ⟨outcome, hover, -⟩ :=
    (h.run moves).awaiting_move htask move
  · refine .inl ⟨learnt, marked, hnext, fun hmark => ?_, fun new hnew => ?_⟩
    · obtain hbefore | rfl := hmarked hmark
      · exact List.mem_append_left _ (haborted hbefore)
      · exact List.mem_append_right _ List.mem_cons_self
    · obtain rfl | ⟨last, rfl, hcause⟩ := hlearnt
      · exact (hverdict new hnew).concat h move
      · cases hnew
        exact hcause.of_last
  · exact .inr ⟨outcome, hover⟩

theorem awaits_or_over {start : Host} (h : start.Waits) {request : Request} {deadline : Nat}
    (htask : start.tasks[caller]? =
      some (.working (.call request (.awaiting id deadline none)) false)) (moves : List Move) :
    start.Awaits caller request id deadline moves ∨
      ∃ outcome, (moves.foldl Host.move start).tasks[caller]? = some (.over outcome) := by
  induction moves using List.reverseRecOn with
  | nil => exact .inl ⟨none, false, htask, nofun, nofun⟩
  | append_singleton moves move ih =>
      obtain hawaits | ⟨outcome, hover⟩ := ih
      · exact hawaits.concat h move
      · right
        rw [List.foldl_concat]
        exact ⟨outcome, (h.run moves).over_move hover move⟩

/-- The wait that begins lasts for its own timeout, on a channel that is open. -/
theorem BeginsWait.started (h : host.Waits) {timeout : Nat}
    (hbegins : host.BeginsWait caller id timeout) :
    host.channel.closed = false ∧ (host.move (.act (.turn caller))).tasks[caller]? =
      some (.working
        (.call (.closeAndWait id timeout) (.awaiting id (host.clock + timeout) none)) false) := by
  obtain ⟨htask, deadline, hawaiting⟩ := hbegins
  obtain ⟨hcaller, -⟩ := List.getElem?_eq_some_iff.mp htask
  obtain ⟨tasks, register, heffect, hsettles⟩ :=
    effect_move h.truthful.plain h.told (.act (.turn caller))
  have hheard := hsettles.heard caller
  rw [hawaiting] at hheard
  cases heffect with
  | rests | closes => cases hheard _ htask
  | arrives hother | givesUp hother => cases htask.symm.trans hother
  | ends => cases hheard _ (List.getElem?_set_self hcaller)
  | begins hother hopen =>
      cases htask.symm.trans hother
      have hsame := hheard _ (List.getElem?_set_self hcaller)
      generalize (host.register.await caller id).verdicts.lookup caller = learnt at hsame
      cases hsame
      exact ⟨hopen, hawaiting⟩

/-- A caller whose time is up ends its wait in its next turn. -/
theorem isSome_outcome?_of_due (hplain : host.Plain) {request : Request} {deadline : Nat}
    {verdict : Option Verdict} {aborted : Bool}
    (htask : host.tasks[caller]? =
      some (.working (.call request (.awaiting id deadline verdict)) aborted))
    (hdue : deadline ≤ host.clock) :
    ((host.move (.act (.turn caller))).outcome? caller).isSome := by
  change ((host.turn false caller).1.outcome? caller).isSome
  cases aborted with
  | true =>
      rw [turn_eq_of_aborted htask, outcome?_finish htask, Option.isSome_some]
  | false =>
      have hends : ∃ result channel, Call.step host.channel host.present host.clock caller request
          (.awaiting id deadline verdict) = (.ends result, channel) := by
        rcases verdict with _ | _ | _
        · exact ⟨_, _, by rw [Call.step, Call.await, if_pos hdue]⟩
        · exact ⟨_, _, rfl⟩
        · exact ⟨_, _, rfl⟩
      obtain ⟨result, channel, hstep⟩ := hends
      rw [(turn_of_ends htask hplain hstep).2.1, Option.isSome_some]

/-- **How a wait ends.** Whatever a run has done before, and whatever it does while a caller waits
for the acknowledgement of a close: the caller's first turn after its own timeout ends the wait. It
learns that the close was acknowledged only after an acknowledgement has come in meanwhile for the
id of the session, be it for this close or for another one of the same id, which an acknowledgement
does not tell apart; that the channel is closed only if it was closed in the meantime, or if another
caller has begun to wait for a session with the same id; and that the close timed out only when its
own timeout has passed since it began to wait. Apart from that, a wait ends only by being
aborted. -/
theorem wait_verdict {before : Host} (hreachable : before.Reachable) {timeout : Nat}
    (hbegins : before.BeginsWait caller id timeout) (later : List Move)
    (hwaits : (later.foldl Host.move (before.move (.act (.turn caller)))).outcome? caller = none) :
    let started := before.move (.act (.turn caller))
    let now := later.foldl Host.move started
    (before.clock + timeout ≤ now.clock →
        ((now.move (.act (.turn caller))).outcome? caller).isSome) ∧
      ∀ (last : Move) (outcome : Outcome), (now.move last).outcome? caller = some outcome →
        match outcome with
        | .done => ∃ frame admission, .hear frame admission ∈ later ∧
            frame.body = .control .sessionCloseAck ∧ frame.session = id
        | .failed .closed => (before.channel.closed = false ∧ now.channel.closed = true) ∨
            started.Displaced caller id later
        | .failed (.closeTimeout session) => session = id ∧ before.clock + timeout ≤ now.clock
        | .aborted => .act (.abort caller) ∈ later
        | _ => False := by
  intro started now
  obtain ⟨hopen, hstarted⟩ := hbegins.started hreachable.waits
  have hwaited : started.Waits := hreachable.waits.move _
  have hnow : now.Waits := hwaited.run later
  obtain ⟨verdict, aborted, htask, haborted, hverdict⟩ | ⟨early, hover⟩ :=
    awaits_or_over hwaited hstarted later
  · refine ⟨isSome_outcome?_of_due hnow.truthful.plain htask, fun last outcome hends => ?_⟩
    obtain ⟨learnt, marked, hnext, -⟩ | ⟨ended, hover, hreason⟩ := hnow.awaiting_move htask last
    · rw [outcome?, hnext] at hends
      cases hends
    · rw [outcome?, hover] at hends
      obtain rfl := Option.some.inj hends
      obtain ⟨hmark, rfl⟩ | ⟨learnt, hlearnt, rfl⟩ | ⟨hdue, rfl⟩ := hreason
      · exact haborted hmark
      · have hcause := hverdict learnt hlearnt
        cases learnt with
        | acknowledged => exact hcause
        | forsaken => exact hcause.imp_left fun hclosed => ⟨hopen, hclosed⟩
      · exact ⟨rfl, hdue⟩
  · rw [outcome?, hover] at hwaits
    cases hwaits

def closing : Host :=
  [.act (.call (.openSession 80 .queue) false), .act (.turn 0),
    .act (.call (.closeAndWait 1 50) false)].foldl Host.move
    (create default 4 { rules := [], accepting := true })

theorem closing_beginsWait : closing.BeginsWait 1 1 50 := ⟨by decide, 50, by decide⟩

/-- A wait runs out of time while another session is closed and acknowledged. -/
theorem wait_verdict_of_timeout :
    let later := [.act (.call (.openSession 81 .queue) false), .act (.turn 2),
      .act (.call (.closeAndWait 3 20) false), .act (.turn 3),
      .hear { port := 81, session := 3, body := .control .sessionCloseAck } (.ok .queue),
      .act (.turn 3), .act (.advance 50)]
    let now := later.foldl Host.move (closing.move (.act (.turn 1)))
    now.outcome? 3 = some .done ∧ now.outcome? 1 = none ∧
      (now.move (.act (.turn 1))).outcome? 1 = some (.failed (.closeTimeout 1)) ∧
      closing.clock + 50 ≤ now.clock := by
  intro later now
  have hwaits : now.outcome? 1 = none := by decide
  have hends : (now.move (.act (.turn 1))).outcome? 1 = some (.failed (.closeTimeout 1)) := by
    decide
  obtain ⟨-, hverdicts⟩ := wait_verdict ⟨_, _, _, _, rfl⟩ closing_beginsWait later hwaits
  exact ⟨by decide, hwaits, hends, (hverdicts (.act (.turn 1)) _ hends).2⟩

/-- The peer opens the session again, and a second caller closes that and waits as well. The first
caller learns that the channel is closed, long before its time is up, on a channel that is open. -/
theorem displaced_while_open :
    let later := [.hear { port := 80, session := 1, body := .control .sessionOpen } (.ok .queue),
      .act (.call (.closeAndWait 1 50) false), .act (.turn 2)]
    let now := later.foldl Host.move (closing.move (.act (.turn 1)))
    closing.BeginsWait 1 1 50 ∧ now.outcome? 1 = none ∧
      (now.move (.act (.turn 1))).outcome? 1 = some (.failed .closed) ∧
      (now.move (.act (.turn 1))).channel.closed = false := by
  exact ⟨closing_beginsWait, by decide, by decide, by decide⟩

end SessionMux.Host
