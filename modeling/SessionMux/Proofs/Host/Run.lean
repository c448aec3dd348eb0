import SessionMux.Proofs.Host.Ledger

/-!
# What an application does with a channel

A host whose tasks are calls and deferred replies, and nothing else (`Host.Plain`). The application
starts calls and aborts them, the tasks take their turns in any order, time passes, and the
application may silence a session's endpoint, close the channel or make it fail. Each of these is
one section of local work in the sense of `Ledger.Works`, and the payload that it sends is the one
whose call ends well by it.

A deferred reply is a task that nobody has a handle to, so it cannot be aborted.
-/

namespace SessionMux

def Call.sent : Request → Turn CallStage CallResult → Option (UInt32 × Bytes)
  | .send id payload, .ends (.ok none) => some (id, payload)
  | _, _ => none

/-- A call or a deferred reply. Only one kind of call waits for an acknowledgement. -/
def Job.IsPlain : Job → Prop
  | .call (.closeAndWait ..) _ => True
  | .call _ stage => stage = .arriving ∨ stage = .asking
  | .reply _ => True
  | _ => False

def HostTask.IsPlain : HostTask → Prop
  | .working job aborted => job.IsPlain ∧ ∀ frame, job = .reply frame → aborted = false
  | .over _ => True

namespace Host

def Plain (host : Host) : Prop := ∀ task ∈ host.tasks, task.IsPlain

inductive Action
  | call (request : Request) (byHandle : Bool)
  | abort (caller : Caller)
  /-- A task takes its turn, woken or not. -/
  | turn (caller : Caller)
  | advance (milliseconds : Nat)
  | silence (session : UInt32)
  | letGo
  | close
  | fail (code : ErrorCode) (message : String)

def act (host : Host) : Action → Host
  | .call request byHandle => host.startCall request byHandle
  | .abort caller =>
    match host.tasks[caller]? with
    | some (.working (.call ..) _) => host.abort caller
    | _ => host
  | .turn caller => (host.turn false caller).1
  | .advance milliseconds => host.advance milliseconds
  | .silence session => host.silence session
  | .letGo => host.letGo
  | .close => host.close.2
  | .fail code message => host.fail code message

/-- The payload that an action sends, with its session: the call that was to send it ends well. -/
def sentBy (host : Host) : Action → Option (UInt32 × Bytes)
  | .turn caller =>
    match host.tasks[caller]? with
    | some (.working (.call (.send id payload) _) _) =>
      if (host.turn false caller).1.outcome? caller = some .done then some (id, payload) else none
    | _ => none
  | _ => none

end Host

/-! ### Calls -/

namespace Call

variable {channel : Channel} {replies : List Frame}

@[simp]
theorem sent_error (request : Request) (error : ChannelError) :
    sent request (.ends (.error error)) = none := by
  cases request <;> rfl

@[simp]
theorem sent_waits (request : Request) (stage : CallStage) :
    sent request (.waits stage) = none := by
  cases request <;> rfl

@[simp]
theorem sent_goes (request : Request) (stage : CallStage) : sent request (.goes stage) = none := by
  cases request <;> rfl

theorem works_perform (clock : Nat) (caller : Caller) (request : Request) :
    (channel.ledger replies).Works (sent request (perform channel clock caller request).1)
      ((perform channel clock caller request).2.ledger replies) := by
  cases request with
  | send id payload =>
      have hworks : (channel.ledger replies).Works _ _ := Channel.works_send caller id payload
      rcases hsend : channel.send caller id payload with ⟨_ | _, next⟩ <;> rw [hsend] at hworks <;>
        simp only [perform, hsend] <;> exact hworks
  | openSession port kind => exact Channel.works_openSession caller port kind
  | closeSession id => exact Channel.works_closeSession caller id false
  | closeAndWait id timeout =>
      have hworks : (channel.ledger replies).Works none _ :=
        Channel.works_closeSession caller id true
      rcases hclose : channel.closeSession caller id true with ⟨_ | _, next⟩ <;>
        rw [hclose] at hworks <;> simp only [perform, hclose] <;> exact hworks
  | sendError id code => exact Channel.works_sendError caller id code

/-- What becomes of a call that needs a place in the queue. -/
theorem ask_cases (channel : Channel) (clock : Nat) (caller : Caller) (request : Request) :
    (∃ error, ask channel clock caller request = (.ends (.error error), channel)) ∨
      (∃ error, ask channel clock caller request =
        (.ends (.error error), (channel.reserve caller).2)) ∨
      ask channel clock caller request = (.waits .asking, (channel.reserve caller).2) ∨
      ask channel clock caller request =
        perform (channel.reserve caller).2 clock caller request := by
  unfold ask
  extract_lets oversize
  clear_value oversize
  cases oversize with
  | some error => exact Or.inl ⟨error, rfl⟩
  | none =>
      rcases channel.reserve caller with ⟨_ | _ | _, next⟩
      · exact Or.inr (Or.inr (Or.inr rfl))
      · exact Or.inr (Or.inr (Or.inl rfl))
      · exact Or.inr (Or.inl ⟨_, rfl⟩)

theorem works_ask (clock : Nat) (caller : Caller) (request : Request) :
    (channel.ledger replies).Works (sent request (ask channel clock caller request).1)
      ((ask channel clock caller request).2.ledger replies) := by
  have hreserve : (channel.reserve caller).2.ledger replies = channel.ledger replies :=
    Channel.ledger_reserve caller
  rcases ask_cases channel clock caller request with ⟨error, hask⟩ | ⟨error, hask⟩ | hask | hask <;>
    rw [hask]
  · rw [sent_error]
    exact .rests
  · rw [sent_error, hreserve]
    exact .rests
  · rw [sent_waits, hreserve]
    exact .rests
  · rw [← hreserve]
    exact works_perform clock caller request

theorem works_await (clock : Nat) (caller : Caller) (id session : UInt32) (timeout deadline : Nat)
    (verdict : Option Verdict) :
    (channel.ledger replies).Works
      (sent (.closeAndWait session timeout) (await channel clock caller id deadline verdict).1)
      ((await channel clock caller id deadline verdict).2.ledger replies) := by
  rcases verdict with _ | _ | _
  · by_cases hdue : deadline ≤ clock
    · rw [await, if_pos hdue, Channel.ledger_stopWaiting]
      exact .rests
    · rw [await, if_neg hdue]
      exact .rests
  · exact .rests
  · exact .rests

/-- **A turn of a call.** Whatever it does is local work, and it sends the payload of a send that
ends well by it. -/
theorem works_step (present : Bool) (clock : Nat) (caller : Caller) {request : Request}
    {stage : CallStage} (hplain : (Job.call request stage).IsPlain) :
    (channel.ledger replies).Works
      (sent request (step channel present clock caller request stage).1)
      ((step channel present clock caller request stage).2.ledger replies) := by
  cases stage with
  | arriving =>
      rw [step]
      cases present with
      | false =>
          rw [if_neg Bool.false_ne_true, sent_error]
          exact .rests
      | true =>
          rw [if_pos rfl, sent_goes]
          exact .rests
  | asking => exact works_ask clock caller request
  | awaiting id deadline verdict =>
      cases request with
      | send | openSession | closeSession | sendError => simp [Job.IsPlain] at hplain
      | closeAndWait session timeout =>
          exact works_await clock caller id session timeout deadline verdict

/-- Only a call that asks for it goes on to wait for an acknowledgement. -/
theorem isPlain_step (channel : Channel) (present : Bool) (clock : Nat) (caller : Caller)
    {request : Request} {stage : CallStage} (hplain : (Job.call request stage).IsPlain) :
    ∀ next, (step channel present clock caller request stage).1 = .waits next ∨
      (step channel present clock caller request stage).1 = .goes next →
      (Job.call request next).IsPlain := by
  intro next hnext
  cases request with
  | closeAndWait => trivial
  | send | openSession | closeSession | sendError =>
      refine Or.inr ?_
      rcases hplain with rfl | rfl
      · cases present <;> simp [step] at hnext
        exact hnext.symm
      · rw [step] at hnext
        rcases ask_cases channel clock caller _ with ⟨error, hask⟩ | ⟨error, hask⟩ | hask | hask <;>
          rw [hask] at hnext <;> simp [perform] at hnext
        exact hnext.symm

end Call

/-! ### Turns of tasks -/

theorem Job.IsPlain.learns {request : Request} {id : UInt32} {deadline : Nat}
    {verdict : Option Verdict}
    (hplain : (Job.call request (.awaiting id deadline verdict)).IsPlain) (later : Option Verdict) :
    (Job.call request (.awaiting id deadline later)).IsPlain := by
  cases request with
  | closeAndWait => trivial
  | send | openSession | closeSession | sendError => simp [Job.IsPlain] at hplain

theorem HostTask.IsPlain.learn {task : HostTask} (hplain : task.IsPlain) (signal : Signal)
    (caller : Caller) : (task.learn signal caller).IsPlain := by
  rcases task with ⟨job, aborted⟩ | outcome
  · rw [HostTask.learn, Job.learn.eq_def]
    split
    · split_ifs
      · exact ⟨hplain.1.learns _, fun frame heq => by cases heq⟩
      · exact hplain
    · split_ifs
      · exact ⟨hplain.1.learns _, fun frame heq => by cases heq⟩
      · exact hplain
    · exact hplain
  · exact hplain

namespace Host

variable {host : Host}

theorem Plain.heed (hplain : host.Plain) (signal : Signal) : (host.heed signal).Plain := by
  intro task hmem
  rw [(host.heed_eq signal).2, List.mem_append] at hmem
  rcases hmem with hmem | hmem
  · obtain ⟨caller, hcaller, rfl⟩ := List.mem_mapIdx.mp hmem
    exact (hplain _ (List.getElem_mem hcaller)).learn signal caller
  · obtain ⟨frame, -, rfl⟩ := List.mem_map.mp hmem
    exact ⟨trivial, fun _ _ => rfl⟩

theorem Plain.foldl_heed (hplain : host.Plain) (signals : List Signal) :
    (signals.foldl Host.heed host).Plain := by
  induction signals generalizing host with
  | nil => exact hplain
  | cons signal signals ih => exact ih (hplain.heed signal)

theorem Plain.settleChannel (hplain : host.Plain) (channel : Channel) :
    (host.settleChannel channel).Plain := by
  have hcleared : Plain { host with channel := { channel with signals := [] } } := hplain
  exact hcleared.foldl_heed channel.signals

theorem Plain.set (hplain : host.Plain) (caller : Caller) {task : HostTask} (htask : task.IsPlain) :
    Plain { host with tasks := host.tasks.set caller task } := by
  intro other hmem
  rcases List.mem_or_eq_of_mem_set hmem with hmem | rfl
  · exact hplain other hmem
  · exact htask

theorem Plain.finish (hplain : host.Plain) (caller : Caller) (job : Job) (outcome : Outcome) :
    (host.finish caller job outcome).Plain :=
  (hplain.set caller (show (HostTask.over outcome).IsPlain from trivial)).settleChannel _

theorem outcome?_set {caller : Caller} {task : HostTask} (htask : host.tasks[caller]? = some task)
    (next : HostTask) : outcome? { host with tasks := host.tasks.set caller next } caller =
      match next with
      | .over outcome => some outcome
      | .working .. => none := by
  obtain ⟨hcaller, -⟩ := List.getElem?_eq_some_iff.mp htask
  rw [outcome?, List.getElem?_set_self hcaller]
  cases next <;> rfl

theorem outcome?_finish {caller : Caller} {task : HostTask}
    (htask : host.tasks[caller]? = some task) (job : Job) (outcome : Outcome) :
    (host.finish caller job outcome).outcome? caller = some outcome := by
  rw [finish, outcome?_settleChannel, outcome?_set htask]

/-- A plain job that ends takes nothing with it but the reply that its task held. -/
theorem ledger_finish {caller : Caller} {task : HostTask} (htask : host.tasks[caller]? = some task)
    {job : Job} (hjob : job.IsPlain) (outcome : Outcome) :
    ∃ front rear, host.ledger.replies = front ++ (task.reply?.toList ++ rear) ∧
      (host.finish caller job outcome).ledger = { host.ledger with replies := front ++ rear } := by
  obtain ⟨front, rear, hbefore, hafter⟩ := filterMap_set HostTask.reply? htask
  have hleave : leave host.channel caller job = host.channel.giveBack caller := by
    cases job with
    | call | reply => rfl
    | awaitClose | readStream | writeStream | readDatagrams | writeDatagrams | forward => cases hjob
  refine ⟨front, rear ++ host.channel.signals.filterMap Signal.deferred?, ?_, ?_⟩
  · simp only [ledger, Channel.ledger, replies, hbefore, List.append_assoc]
  · rw [finish, ledger_settleChannel, hleave, Channel.ledger_giveBack, replies, hafter]
    simp [ledger, Channel.ledger, HostTask.reply?]

theorem task_heed {caller : Caller} {task : HostTask} (htask : host.tasks[caller]? = some task)
    (signal : Signal) : (host.heed signal).tasks[caller]? = some (task.learn signal caller) := by
  obtain ⟨hcaller, -⟩ := List.getElem?_eq_some_iff.mp htask
  rw [(host.heed_eq signal).2, List.getElem?_append_left (by simpa using hcaller),
    List.getElem?_mapIdx, htask]
  rfl

/-- A task that has learnt something holds the reply that it held. -/
theorem task_foldl_heed {caller : Caller} {task : HostTask}
    (htask : host.tasks[caller]? = some task) (signals : List Signal) :
    ∃ next, (signals.foldl Host.heed host).tasks[caller]? = some next ∧
      next.reply? = task.reply? := by
  induction signals generalizing host task with
  | nil => exact ⟨task, htask, rfl⟩
  | cons signal signals ih =>
      obtain ⟨next, hnext, hreply⟩ := ih (task_heed htask signal)
      exact ⟨next, hnext, hreply.trans (HostTask.reply?_learn signal caller task)⟩

theorem task_settleChannel {caller : Caller} {task : HostTask}
    (htask : host.tasks[caller]? = some task) (channel : Channel) :
    ∃ next, (host.settleChannel channel).tasks[caller]? = some next ∧
      next.reply? = task.reply? := by
  have hcleared : ({ host with channel := { channel with signals := [] } } : Host).tasks[caller]? =
      some task := htask
  exact task_foldl_heed hcleared channel.signals

/-! ### Turns of calls -/

section TurnOfCall

variable {caller : Caller} {request : Request} {stage : CallStage}

theorem sentBy_turn {aborted : Bool}
    (htask : host.tasks[caller]? = some (.working (.call request stage) aborted))
    (turn : Turn CallStage CallResult)
    (houtcome : (host.turn false caller).1.outcome? caller =
      match turn with
      | .ends result => some (.ofCall result)
      | _ => none) :
    host.sentBy (.turn caller) = Call.sent request turn := by
  rw [sentBy, htask]
  simp only [houtcome]
  cases request with
  | send id payload => rcases turn with next | next | _ | _ | session <;> rfl
  | openSession | closeSession | closeAndWait | sendError => rfl

variable (htask : host.tasks[caller]? = some (.working (.call request stage) false))
include htask

/-- A call that has done a section of its work and is not at its end. -/
theorem turn_eq_of_goes {channel : Channel} {next : CallStage}
    (hstep : Call.step host.channel host.present host.clock caller request stage =
        (.waits next, channel) ∨
      Call.step host.channel host.present host.clock caller request stage = (.goes next, channel)) :
    (host.turn false caller).1 = settleChannel { host with
      channel, tasks := host.tasks.set caller (.working (.call request next) false) } channel := by
  rw [turn, htask]
  obtain hstep | hstep := hstep <;> simp only [stepJob, hstep, Turn.map]

theorem turn_eq_of_ends {channel : Channel} {result : CallResult}
    (hstep : Call.step host.channel host.present host.clock caller request stage =
      (.ends result, channel)) :
    (host.turn false caller).1 =
      (settleChannel { host with channel } channel).finish caller (.call request stage)
        (.ofCall result) := by
  rw [turn, htask]
  simp only [stepJob, hstep, Turn.map]

variable (hplain : host.Plain)
include hplain

theorem turn_of_goes {channel : Channel} {next : CallStage}
    (hnext : (Job.call request next).IsPlain)
    (hstep : Call.step host.channel host.present host.clock caller request stage =
        (.waits next, channel) ∨
      Call.step host.channel host.present host.clock caller request stage = (.goes next, channel)) :
    (host.turn false caller).1.ledger = channel.ledger host.replies ∧
      (host.turn false caller).1.outcome? caller = none ∧ (host.turn false caller).1.Plain := by
  obtain ⟨front, rear, hbefore, hafter⟩ := filterMap_set HostTask.reply? htask
  have htask' : ({ host with channel } : Host).tasks[caller]? = _ := htask
  have hstill : Plain { host with channel } := hplain
  have hset : (HostTask.working (.call request next) false).IsPlain := ⟨hnext, nofun⟩
  rw [turn_eq_of_goes htask hstep]
  refine ⟨?_, ?_, (hstill.set caller hset).settleChannel channel⟩
  · rw [ledger_settleChannel, replies, replies, hafter, hbefore]
    rfl
  · rw [outcome?_settleChannel, outcome?_set htask']

theorem turn_of_ends {channel : Channel} {result : CallResult}
    (hstep : Call.step host.channel host.present host.clock caller request stage =
      (.ends result, channel)) :
    (host.turn false caller).1.ledger = channel.ledger host.replies ∧
      (host.turn false caller).1.outcome? caller = some (.ofCall result) ∧
      (host.turn false caller).1.Plain := by
  have hjob : (Job.call request stage).IsPlain := (hplain _ (List.mem_of_getElem? htask)).1
  have hstill : Plain { host with channel } := hplain
  have htask' : ({ host with channel } : Host).tasks[caller]? = _ := htask
  obtain ⟨task, hsettled, hreply⟩ := task_settleChannel htask' channel
  obtain ⟨front, rear, hreplies, hledger⟩ := ledger_finish hsettled hjob (.ofCall result)
  rw [hreply] at hreplies
  rw [turn_eq_of_ends htask hstep]
  refine ⟨?_, outcome?_finish hsettled _ _, (hstill.settleChannel channel).finish _ _ _⟩
  have hsame : front ++ rear = (settleChannel { host with channel } channel).ledger.replies :=
    hreplies.symm
  rw [hledger, hsame]
  exact ledger_settleChannel _ channel

theorem sentBy_turn_call : host.sentBy (.turn caller) =
    Call.sent request
      (Call.step host.channel host.present host.clock caller request stage).1 := by
  have hjob : (Job.call request stage).IsPlain := (hplain _ (List.mem_of_getElem? htask)).1
  have hnext := Call.isPlain_step host.channel host.present host.clock caller hjob
  rcases hstep : Call.step host.channel host.present host.clock caller request stage with
    ⟨next | next | result, channel⟩ <;> rw [hstep] at hnext
  · have hturn := turn_of_goes htask hplain (hnext next (.inl rfl)) (.inl hstep)
    exact sentBy_turn htask (.waits next) hturn.2.1
  · have hturn := turn_of_goes htask hplain (hnext next (.inr rfl)) (.inr hstep)
    exact sentBy_turn htask (.goes next) hturn.2.1
  · have hturn := turn_of_ends htask hplain hstep
    exact sentBy_turn htask (.ends result) hturn.2.1

/-- **The turn of a call.** It is a section of local work, and all tasks stay plain. -/
theorem works_turn_call :
    host.ledger.Works (host.sentBy (.turn caller)) (host.turn false caller).1.ledger ∧
      (host.turn false caller).1.Plain := by
  have hjob : (Job.call request stage).IsPlain := (hplain _ (List.mem_of_getElem? htask)).1
  have hworks : host.ledger.Works _ _ := Call.works_step host.present host.clock caller hjob
  have hnext := Call.isPlain_step host.channel host.present host.clock caller hjob
  rw [sentBy_turn_call htask hplain]
  rcases hstep : Call.step host.channel host.present host.clock caller request stage with
    ⟨next | next | result, channel⟩ <;> rw [hstep] at hworks hnext
  · obtain ⟨hledger, -, hplain'⟩ :=
      turn_of_goes htask hplain (hnext next (Or.inl rfl)) (Or.inl hstep)
    rw [hledger]
    exact ⟨hworks, hplain'⟩
  · obtain ⟨hledger, -, hplain'⟩ :=
      turn_of_goes htask hplain (hnext next (Or.inr rfl)) (Or.inr hstep)
    rw [hledger]
    exact ⟨hworks, hplain'⟩
  · obtain ⟨hledger, -, hplain'⟩ := turn_of_ends htask hplain hstep
    rw [hledger]
    exact ⟨hworks, hplain'⟩

end TurnOfCall

/-! ### Turns of deferred replies -/

section TurnOfReply

variable {caller : Caller} {frame : Frame} (hplain : host.Plain)
  (htask : host.tasks[caller]? = some (.working (.reply frame) false))
include hplain htask

section Reserve

variable {channel : Channel}

omit hplain in
theorem turn_reply_of_granted (hstep : host.channel.reserve caller = (.granted, channel)) :
    (host.turn false caller).1 = (settleChannel { host with
      channel := channel.fill caller frame } (channel.fill caller frame)).finish caller
        (.reply frame) .done := by
  rw [turn, htask]
  simp only [stepJob, stepReply, hstep]

omit hplain in
theorem turn_reply_of_waiting (hstep : host.channel.reserve caller = (.waiting, channel)) :
    (host.turn false caller).1 = settleChannel { host with channel } channel := by
  have hturn : (host.turn false caller).1 = settleChannel { host with
      channel, tasks := host.tasks.set caller (.working (.reply frame) false) } channel := by
    rw [turn, htask]
    simp only [stepJob, stepReply, hstep]
  obtain ⟨hcaller, htask'⟩ := List.getElem?_eq_some_iff.mp htask
  rwa [← htask', List.set_getElem_self] at hturn

omit hplain in
theorem turn_reply_of_refused (hstep : host.channel.reserve caller = (.refused, channel)) :
    (host.turn false caller).1 =
      (settleChannel { host with channel } channel).finish caller (.reply frame) .done := by
  rw [turn, htask]
  simp only [stepJob, stepReply, hstep]

end Reserve

/-- A reply that is at its end is taken from those that wait. -/
theorem turn_of_reply_ends (channel : Channel)
    (hturn : (host.turn false caller).1 =
      (settleChannel { host with channel } channel).finish caller (.reply frame) .done) :
    (∃ front rear, (channel.ledger host.replies).replies = front ++ frame :: rear ∧
        (host.turn false caller).1.ledger =
          { channel.ledger host.replies with replies := front ++ rear }) ∧
      (host.turn false caller).1.Plain := by
  have hjob : (Job.reply frame).IsPlain := trivial
  have hstill : Plain { host with channel } := hplain
  have htask' : ({ host with channel } : Host).tasks[caller]? = _ := htask
  obtain ⟨task, hsettled, hreply⟩ := task_settleChannel htask' channel
  obtain ⟨front, rear, hreplies, hledger⟩ := ledger_finish hsettled hjob .done
  rw [ledger_settleChannel] at hreplies hledger
  rw [hreply] at hreplies
  rw [hturn]
  exact ⟨⟨front, rear, hreplies, hledger⟩, (hstill.settleChannel channel).finish _ _ _⟩

/-- The turn of a deferred reply: it goes into the queue, or waits on. -/
theorem works_turn_reply :
    host.ledger.Works none (host.turn false caller).1.ledger ∧
      (host.turn false caller).1.Plain := by
  have hreserve : (host.channel.reserve caller).2.ledger host.replies = host.ledger :=
    Channel.ledger_reserve caller
  rcases hstep : host.channel.reserve caller with ⟨_ | _ | _, channel⟩ <;> rw [hstep] at hreserve
  · obtain ⟨⟨front, rear, hreplies, hledger⟩, hplain'⟩ :=
      turn_of_reply_ends hplain htask _ (turn_reply_of_granted htask hstep)
    rw [Channel.ledger_fill, hreserve] at hreplies hledger
    have hbefore : host.ledger.replies = front ++ frame :: rear := hreplies
    rw [hledger]
    exact ⟨.answers hbefore, hplain'⟩
  · rw [turn_reply_of_waiting htask hstep, ledger_settleChannel]
    have hstill : Plain { host with channel } := hplain
    refine ⟨?_, hstill.settleChannel channel⟩
    rw [show replies { host with channel } = host.replies from rfl, hreserve]
    exact .rests
  · -- Nobody takes frames out of the queue, so to drop the reply is to push it there.
    obtain ⟨⟨front, rear, hreplies, hledger⟩, hplain'⟩ :=
      turn_of_reply_ends hplain htask channel (turn_reply_of_refused htask hstep)
    rw [hreserve] at hreplies hledger
    have hdrained : host.ledger.draining = false := Channel.reserve_eq_refused hstep
    have hworks := Ledger.Works.answers hreplies
    rw [Ledger.push, if_neg (by simp [hdrained])] at hworks
    rw [hledger]
    exact ⟨hworks, hplain'⟩

end TurnOfReply

/-! ### Every action -/

theorem ledger_wakeWhere (host : Host) (chosen : Caller → Job → Bool) :
    (host.wakeWhere chosen).ledger = host.ledger := by
  obtain ⟨ready, hwake⟩ := host.wakeWhere_eq chosen
  rw [hwake]
  rfl

theorem works_wakeWhere (hplain : host.Plain) (chosen : Caller → Job → Bool) :
    host.ledger.Works none (host.wakeWhere chosen).ledger ∧ (host.wakeWhere chosen).Plain := by
  rw [ledger_wakeWhere]
  obtain ⟨ready, hwake⟩ := host.wakeWhere_eq chosen
  rw [hwake]
  exact ⟨.rests, hplain⟩

theorem turn_eq_of_aborted {caller : Caller} {job : Job}
    (htask : host.tasks[caller]? = some (.working job true)) :
    (host.turn false caller).1 = host.finish caller job .aborted := by
  rw [turn, htask]

theorem ledger_turn_aborted (hplain : host.Plain) {caller : Caller} {request : Request}
    {stage : CallStage}
    (htask : host.tasks[caller]? = some (.working (.call request stage) true)) :
    (host.turn false caller).1.ledger = host.ledger := by
  have hjob : (Job.call request stage).IsPlain := (hplain _ (List.mem_of_getElem? htask)).1
  obtain ⟨front, rear, hreplies, hledger⟩ := ledger_finish htask hjob .aborted
  have hsame : front ++ rear = host.ledger.replies := hreplies.symm
  rw [turn_eq_of_aborted htask, hledger, hsame]

/-- An aborted call ends, and has sent nothing. -/
theorem works_turn_aborted (hplain : host.Plain) {caller : Caller} {request : Request}
    {stage : CallStage}
    (htask : host.tasks[caller]? = some (.working (.call request stage) true)) :
    host.ledger.Works (host.sentBy (.turn caller)) (host.turn false caller).1.ledger ∧
      (host.turn false caller).1.Plain := by
  have hturn := turn_eq_of_aborted htask
  have hsent : host.sentBy (.turn caller) = none := by
    rw [sentBy, htask]
    cases request with
    | send id payload => simp [hturn, outcome?_finish htask]
    | openSession | closeSession | closeAndWait | sendError => rfl
  rw [hsent, ledger_turn_aborted hplain htask, hturn]
  exact ⟨.rests, hplain.finish _ _ _⟩

theorem works_turn (hplain : host.Plain) (caller : Caller) :
    host.ledger.Works (host.sentBy (.turn caller)) (host.turn false caller).1.ledger ∧
      (host.turn false caller).1.Plain := by
  rcases htask : host.tasks[caller]? with _ | ⟨job, aborted⟩ | outcome
  · rw [sentBy, turn, htask]
    exact ⟨.rests, hplain⟩
  · obtain ⟨hjob, hreply⟩ := hplain _ (List.mem_of_getElem? htask)
    cases job with
    | call request stage =>
        cases aborted with
        | false => exact works_turn_call htask hplain
        | true => exact works_turn_aborted hplain htask
    | reply frame =>
        obtain rfl := hreply frame rfl
        have hsent : host.sentBy (.turn caller) = none := by
          rw [sentBy, htask]
        rw [hsent]
        exact works_turn_reply hplain htask
    | awaitClose | readStream | writeStream | readDatagrams | writeDatagrams | forward => cases hjob
  · rw [sentBy, turn, htask]
    exact ⟨.rests, hplain⟩

theorem ledger_startCall (host : Host) (request : Request) (byHandle : Bool) :
    (host.startCall request byHandle).ledger = host.ledger := by
  have hreplies : (host.startCall request byHandle).replies = host.replies := by
    simp [startCall, spawn, replies, HostTask.reply?]
  rw [ledger, hreplies]
  rfl

theorem works_startCall (hplain : host.Plain) (request : Request) (byHandle : Bool) :
    host.ledger.Works none (host.startCall request byHandle).ledger ∧
      (host.startCall request byHandle).Plain := by
  rw [ledger_startCall]
  refine ⟨.rests, fun task hmem => ?_⟩
  rcases List.mem_append.mp hmem with hmem | hmem
  · exact hplain task hmem
  · rw [List.mem_singleton] at hmem
    subst hmem
    refine ⟨?_, fun frame heq => by cases heq⟩
    cases byHandle <;> cases request <;> simp [Job.IsPlain]

theorem abort_eq {caller : Caller} {job : Job} {aborted : Bool}
    (htask : host.tasks[caller]? = some (.working job aborted)) :
    ∃ ready, host.abort caller =
      { host with tasks := host.tasks.set caller (.working job true), ready } := by
  obtain ⟨ready, hwake⟩ := wake_eq
    { host with tasks := host.tasks.set caller (.working job true) } caller
  refine ⟨ready, ?_⟩
  rw [abort, modify_eq_set _ htask]
  exact hwake

theorem ledger_abort (host : Host) (caller : Caller) :
    (host.act (.abort caller)).ledger = host.ledger := by
  rw [act]
  split
  · rename_i request stage aborted htask
    obtain ⟨ready, habort⟩ := abort_eq htask
    obtain ⟨front, rear, hbefore, hafter⟩ := filterMap_set HostTask.reply? htask
    have hreplies : (host.abort caller).replies = host.replies := by
      rw [habort, replies, replies, hafter, hbefore]
      rfl
    rw [ledger, hreplies, habort]
    rfl
  · rfl

/-- A call that is aborted ends at its next turn, not at once. -/
theorem works_abort (hplain : host.Plain) (caller : Caller) :
    host.ledger.Works none (host.act (.abort caller)).ledger ∧
      (host.act (.abort caller)).Plain := by
  rw [ledger_abort]
  refine ⟨.rests, ?_⟩
  rw [act]
  split
  · rename_i request stage aborted htask
    have hmark : (HostTask.working (.call request stage) true).IsPlain :=
      ⟨(hplain _ (List.mem_of_getElem? htask)).1, nofun⟩
    obtain ⟨ready, habort⟩ := abort_eq htask
    rw [habort]
    exact hplain.set caller hmark
  · exact hplain

/-- Whether an endpoint's messages are still taken is not in the ledger. -/
theorem ledger_silence (host : Host) (session : UInt32) :
    (host.silence session).ledger = host.ledger := by
  simp only [ledger, Channel.ledger, silence, replies, List.map_map]
  congr 1
  apply List.map_congr_left
  intro endpoint _
  simp only [Function.comp_apply]
  split_ifs <;> rfl

theorem works_silence (hplain : host.Plain) (session : UInt32) :
    host.ledger.Works none (host.silence session).ledger ∧ (host.silence session).Plain := by
  rw [ledger_silence]
  exact ⟨.rests, hplain⟩

/-- **Whatever the application does.** Each of its actions is a section of local work, and all tasks
stay plain. -/
theorem works_act (hplain : host.Plain) (action : Action) :
    host.ledger.Works (host.sentBy action) (host.act action).ledger ∧ (host.act action).Plain := by
  cases action with
  | call request byHandle => exact works_startCall hplain request byHandle
  | abort caller => exact works_abort hplain caller
  | turn caller => exact works_turn hplain caller
  | advance milliseconds =>
      have hlater : Plain { host with clock := host.clock + milliseconds } := hplain
      exact works_wakeWhere hlater _
  | silence session => exact works_silence hplain session
  | letGo => exact ⟨.rests, hplain⟩
  | close =>
      refine ⟨?_, hplain.settleChannel _⟩
      rw [act, Host.close, ledger_settleChannel]
      exact Channel.works_close
  | fail code message =>
      refine ⟨?_, hplain.settleChannel _⟩
      rw [act, Host.fail, ledger_settleChannel]
      exact Channel.works_fail code message

end Host

end SessionMux
