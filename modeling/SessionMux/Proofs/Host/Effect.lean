import SessionMux.Proofs.Host.Tasks

/-!
# What a move does to tasks and waits

`Host.Effect` lists everything that a move can do to the tasks of a host and to the register of its
channel, up to the point at which the tasks learn their verdicts. Each move of a run is shown to be
one of these, once; who waits for what, and how waits end, is then a case analysis.
-/

namespace SessionMux

/-- Whether a task can end with an outcome. One that waits for an acknowledgement ends when it is
aborted, or with the verdict that it has learnt. -/
def HostTask.EndsWith (outcome : Outcome) : HostTask → Prop
  | .working (.call _ (.awaiting _ _ verdict)) aborted =>
    aborted = true ∧ outcome = .aborted ∨
      aborted = false ∧ ∃ learnt, verdict = some learnt ∧ outcome = .ofCall learnt.result
  | .working .. => True
  | .over _ => False

namespace Host

def register (host : Host) : Register := host.channel.register

inductive Effect (host : Host) : Move → List HostTask → Register → Prop
  /-- No task changes, and nobody who waits is concerned. -/
  | rests {move : Move} {next : Register} (hgrows : host.register.Grows next)
      (hwaits : host.register.SameWaits next) : Effect host move host.tasks next
  | marks {caller : Caller} {request : Request} {stage : CallStage} {aborted : Bool}
      (htask : host.tasks[caller]? = some (.working (.call request stage) aborted)) :
      Effect host (.act (.abort caller))
        (host.tasks.set caller (.working (.call request stage) true)) host.register
  | arrives {caller : Caller} {request : Request}
      (htask : host.tasks[caller]? = some (.working (.call request .arriving) false)) :
      Effect host (.act (.turn caller))
        (host.tasks.set caller (.working (.call request .asking) false)) host.register
  | ends {caller : Caller} {task : HostTask} {outcome : Outcome} {next : Register}
      (htask : host.tasks[caller]? = some task) (hends : task.EndsWith outcome)
      (hgrows : host.register.Grows next) (hwaits : host.register.SameWaits next) :
      Effect host (.act (.turn caller)) (host.tasks.set caller (.over outcome)) next
  | begins {caller : Caller} {id : UInt32} {timeout : Nat}
      (htask : host.tasks[caller]? =
        some (.working (.call (.closeAndWait id timeout) .asking) false))
      (hopen : host.register.closed = false) :
      Effect host (.act (.turn caller))
        (host.tasks.set caller (.working
          (.call (.closeAndWait id timeout) (.awaiting id (host.clock + timeout) none)) false))
        (host.register.await caller id)
  | givesUp {caller : Caller} {request : Request} {id : UInt32} {deadline : Nat}
      (htask : host.tasks[caller]? =
        some (.working (.call request (.awaiting id deadline none)) false))
      (hdue : deadline ≤ host.clock) :
      Effect host (.act (.turn caller))
        (host.tasks.set caller (.over (.failed (.closeTimeout id))))
        (host.register.giveUp caller id)
  | acknowledges {frame : Frame} {admission : Admission}
      (hbody : frame.body = .control .sessionCloseAck) :
      Effect host (.hear frame admission) host.tasks (host.register.acknowledge frame.session)
  | closes {move : Move} : Effect host move host.tasks host.register.close

variable {host : Host}

/-- Where no verdict is to be learnt, tasks and register are what they are. -/
theorem settles_of_told {tasks : List HostTask} {register : Register} {next : Host}
    (htold : register.verdicts = []) (htasks : next.tasks = tasks)
    (hregister : next.register = register) : Settles tasks register next := by
  subst htasks hregister
  refine ⟨?_, fun caller task htask => ?_, fun caller task hnone htask => ?_⟩
  · rw [← htold]
    rfl
  · rw [htask, htold]
    simp
  · rw [hnone] at htask
    cases htask

theorem set_self {caller : Caller} {task : HostTask} (htask : host.tasks[caller]? = some task) :
    host.tasks.set caller task = host.tasks := by
  obtain ⟨hcaller, rfl⟩ := List.getElem?_eq_some_iff.mp htask
  exact List.set_getElem_self hcaller

/-- A task is left alone by a change of one that is not the same. -/
theorem task_set_of_ne {caller other : Caller} {task found changed : HostTask}
    (hother : host.tasks[other]? = some found) (htask : host.tasks[caller]? = some task)
    (hne : found ≠ task) : (host.tasks.set other changed)[caller]? = some task := by
  rw [List.getElem?_set_ne, htask]
  rintro rfl
  exact hne (Option.some.inj (hother.symm.trans htask))

theorem effect_turn_call {caller : Caller} {request : Request} {stage : CallStage}
    (htask : host.tasks[caller]? = some (.working (.call request stage) false)) :
    ∃ tasks register, host.Effect (.act (.turn caller)) tasks register ∧
      Settles tasks register (host.turn false caller).1 := by
  refine ⟨_, _, ?_, settles_turn htask⟩
  have hregisters : Call.Registers host.register _ _ _ _ _ _ :=
    Call.registers_step host.channel host.present host.clock caller request stage
  generalize (Call.step host.channel host.present host.clock caller request stage).1 = turn,
    (Call.step host.channel host.present host.clock caller request stage).2.register = register
    at hregisters
  cases hregisters with
  | arrives hstage =>
      subst hstage
      exact .arrives htask
  | stays =>
      rw [afterTurn, set_self htask]
      exact .rests (.refl _) (.refl _)
  | ends hverdict hgrows hwaits =>
      refine .ends htask ?_ hgrows hwaits
      cases stage with
      | arriving | asking => trivial
      | awaiting id deadline verdict =>
          obtain ⟨learnt, hlearnt, rfl⟩ := hverdict id deadline verdict rfl
          exact .inr ⟨rfl, learnt, hlearnt, rfl⟩
  | begins hrequest hstage hopen =>
      subst hrequest hstage
      exact .begins htask hopen
  | givesUp hstage hdue =>
      subst hstage
      exact .givesUp htask hdue

theorem effect_turn_aborted (htold : host.register.verdicts = []) {caller : Caller} {job : Job}
    (htask : host.tasks[caller]? = some (.working job true)) :
    ∃ tasks register, host.Effect (.act (.turn caller)) tasks register ∧
      Settles tasks register (host.turn false caller).1 := by
  obtain ⟨hcaller, -⟩ := List.getElem?_eq_some_iff.mp htask
  have hends : (HostTask.working job true).EndsWith .aborted := by
    rw [HostTask.EndsWith.eq_def]
    split
    · rename_i htask
      cases htask
      exact .inl ⟨rfl, rfl⟩
    · trivial
    · rename_i htask
      cases htask
  rw [turn_eq_of_aborted htask]
  exact ⟨_, _, .ends htask hends (.refl _) (.refl _),
    (settles_of_told htold rfl rfl).finish hcaller job .aborted⟩

/-- The turn of a deferred reply. -/
theorem effect_turn_reply {caller : Caller} {frame : Frame}
    (htask : host.tasks[caller]? = some (.working (.reply frame) false)) :
    ∃ tasks register, host.Effect (.act (.turn caller)) tasks register ∧
      Settles tasks register (host.turn false caller).1 := by
  obtain ⟨hcaller, -⟩ := List.getElem?_eq_some_iff.mp htask
  have hends (channel : Channel) (hchannel : channel.register = host.register)
      (hturn : (host.turn false caller).1 =
        (settleChannel { host with channel } channel).finish caller (.reply frame) .done) :
      ∃ tasks register, host.Effect (.act (.turn caller)) tasks register ∧
        Settles tasks register (host.turn false caller).1 := by
    have hsettles : Settles host.tasks channel.register
        (settleChannel { host with channel } channel) := by
      refine settles_settleChannel ?_ channel
      rfl
    rw [hchannel] at hsettles
    rw [hturn]
    exact ⟨_, _, .ends htask trivial (.refl _) (.refl _), hsettles.finish hcaller _ _⟩
  have hreserve : (host.channel.reserve caller).2.register = host.register := rfl
  rcases hstep : host.channel.reserve caller with ⟨_ | _ | _, channel⟩ <;> rw [hstep] at hreserve
  · refine hends (channel.fill caller frame) ?_ (turn_reply_of_granted htask hstep)
    rw [Channel.register_fill, hreserve]
  · rw [turn_reply_of_waiting htask hstep]
    refine ⟨_, _, ?_, settles_settleChannel rfl channel⟩
    rw [show channel.register = host.register from hreserve]
    exact .rests (.refl _) (.refl _)
  · exact hends channel hreserve (turn_reply_of_refused htask hstep)

theorem effect_turn (hplain : host.Plain) (htold : host.register.verdicts = []) (caller : Caller) :
    ∃ tasks register, host.Effect (.act (.turn caller)) tasks register ∧
      Settles tasks register (host.turn false caller).1 := by
  have hrests (hturn : (host.turn false caller).1 = host) :
      ∃ tasks register, host.Effect (.act (.turn caller)) tasks register ∧
        Settles tasks register (host.turn false caller).1 := by
    rw [hturn]
    exact ⟨_, _, .rests (.refl _) (.refl _), settles_of_told htold rfl rfl⟩
  rcases htask : host.tasks[caller]? with _ | ⟨job, aborted⟩ | outcome
  · exact hrests (by rw [turn, htask])
  · obtain ⟨hjob, hreply⟩ := hplain _ (List.mem_of_getElem? htask)
    cases aborted with
    | true => exact effect_turn_aborted htold htask
    | false =>
        cases job with
        | call request stage => exact effect_turn_call htask
        | reply frame => exact effect_turn_reply htask
        | awaitClose | readStream | writeStream | readDatagrams | writeDatagrams | forward =>
            cases hjob
  · exact hrests (by rw [turn, htask])

theorem register_silence (host : Host) (session : UInt32) :
    (host.silence session).register = host.register := by
  simp only [register, Channel.register, silence, List.map_map]
  congr 1
  apply List.map_congr_left
  intro endpoint _
  simp only [Function.comp_apply]
  split_ifs <;> rfl

theorem effect_startCall (htold : host.register.verdicts = []) (request : Request)
    (byHandle : Bool) :
    ∃ tasks register, host.Effect (.act (.call request byHandle)) tasks register ∧
      Settles tasks register (host.startCall request byHandle) := by
  refine ⟨_, _, .rests (.refl _) (.refl _), ?_, fun caller task htask => ?_,
    fun caller task hnone htask => ?_⟩
  · rw [← htold]
    rfl
  · obtain ⟨hcaller, -⟩ := List.getElem?_eq_some_iff.mp htask
    rw [htold, startCall, spawn, List.getElem?_append_left hcaller, htask]
    simp
  · have hnew : task ∈ [HostTask.working
        (.call request (if byHandle then .arriving else .asking)) false] := by
      refine List.mem_of_getElem? (i := caller - host.tasks.length) ?_
      rw [← List.getElem?_append_right (List.getElem?_eq_none_iff.mp hnone)]
      exact htask
    rw [List.mem_singleton] at hnew
    subst hnew
    cases byHandle <;> rfl

/-- Only a call is marked as aborted. -/
theorem effect_abort (htold : host.register.verdicts = []) (caller : Caller) :
    ∃ tasks register, host.Effect (.act (.abort caller)) tasks register ∧
      Settles tasks register (host.act (.abort caller)) := by
  rw [act]
  split
  · rename_i request stage aborted htask
    obtain ⟨ready, hwake⟩ := wake_eq
      { host with tasks := host.tasks.set caller (.working (.call request stage) true) } caller
    have habort : host.abort caller = { host with
        tasks := host.tasks.set caller (.working (.call request stage) true), ready } := by
      rw [abort, modify_eq_set _ htask]
      exact hwake
    rw [habort]
    exact ⟨_, _, .marks htask, settles_of_told htold rfl rfl⟩
  · exact ⟨_, _, .rests (.refl _) (.refl _), settles_of_told htold rfl rfl⟩

theorem effect_act (hplain : host.Plain) (htold : host.register.verdicts = []) (action : Action) :
    ∃ tasks register, host.Effect (.act action) tasks register ∧
      Settles tasks register (host.act action) := by
  have hrests {next : Host} (htasks : next.tasks = host.tasks)
      (hregister : next.register = host.register) :
      ∃ tasks register, host.Effect (.act action) tasks register ∧
        Settles tasks register next :=
    ⟨_, _, .rests (.refl _) (.refl _), settles_of_told htold htasks hregister⟩
  cases action with
  | call request byHandle => exact effect_startCall htold request byHandle
  | abort caller => exact effect_abort htold caller
  | turn caller => exact effect_turn hplain htold caller
  | advance milliseconds =>
      obtain ⟨ready, hwake⟩ := wakeWhere_eq
        { host with clock := host.clock + milliseconds }
        fun _ job => job.isDue (host.clock + milliseconds)
      rw [act, advance, hwake]
      exact hrests rfl rfl
  | silence session => exact hrests rfl (host.register_silence session)
  | letGo => exact hrests rfl rfl
  | close =>
      refine ⟨_, _, .closes, ?_⟩
      rw [register, ← Channel.register_close]
      exact settles_settleChannel rfl _
  | fail code message =>
      refine ⟨_, _, .closes, ?_⟩
      rw [register, ← Channel.register_fail code message]
      exact settles_settleChannel rfl _

theorem effect_move (hplain : host.Plain) (htold : host.register.verdicts = []) (move : Move) :
    ∃ tasks register, host.Effect move tasks register ∧
      Settles tasks register (host.move move) := by
  cases move with
  | act action => exact effect_act hplain htold action
  | hear frame admission =>
      have hsettles : Settles host.tasks (host.channel.receive frame admission).register
          (host.hear frame admission) := settles_settleChannel rfl _
      refine ⟨_, _, ?_, hsettles⟩
      obtain hsame | hadded | ⟨hbody, hacknowledged⟩ :=
        host.channel.register_receive frame admission
      · rw [hsame]
        exact .rests (.refl _) (.refl _)
      · rw [hadded]
        exact .rests (.admits rfl rfl) ⟨rfl, rfl, rfl⟩
      · rw [hacknowledged]
        exact .acknowledges hbody
  | take =>
      rw [Host.move, takeFrames]
      cases htake : host.channel.takeFrame? with
      | none => exact ⟨_, _, .rests (.refl _) (.refl _), settles_of_told htold rfl rfl⟩
      | some taken =>
          obtain ⟨frame, channel⟩ := taken
          refine ⟨_, _, ?_, settles_settleChannel rfl channel⟩
          rw [Channel.register_takeFrame? htake]
          exact .rests (.refl _) (.refl _)
  | abandon =>
      refine ⟨_, _, ?_, settles_settleChannel rfl _⟩
      rw [Channel.register_abandonOutbox]
      exact .rests (.refl _) (.refl _)

end Host

end SessionMux
