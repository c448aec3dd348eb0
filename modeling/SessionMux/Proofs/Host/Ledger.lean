import SessionMux.Host.Request
import SessionMux.Proofs.Channel.Section

/-!
# The ledger of a host

The replies that found the outbound queue full are held by tasks of their own. Together with the
channel they make up the ledger of a host. Who is woken, and what a task learns, is no part of it,
so heeding the signals of an operation leaves the ledger as the operation made it.
-/

namespace SessionMux

theorem filterMap_set {α β : Type} (view : α → Option β) {values : List α} {place : Nat} {value : α}
    (hvalue : values[place]? = some value) :
    ∃ front rear, values.filterMap view = front ++ (view value).toList ++ rear ∧
      ∀ other, (values.set place other).filterMap view = front ++ (view other).toList ++ rear := by
  obtain ⟨hplace, rfl⟩ := List.getElem?_eq_some_iff.mp hvalue
  have hview : ∀ other rest, (other :: rest).filterMap view =
      (view other).toList ++ rest.filterMap view := fun other rest => by
    cases hother : view other <;> simp [hother]
  refine ⟨(values.take place).filterMap view, (values.drop (place + 1)).filterMap view, ?_, ?_⟩
  · conv_lhs => rw [← List.take_append_drop place values, List.drop_eq_getElem_cons hplace]
    rw [List.filterMap_append, hview, List.append_assoc]
  · intro other
    rw [List.set_eq_take_append_cons_drop, if_pos hplace, List.filterMap_append, hview,
      List.append_assoc]

theorem modify_eq_set {α : Type} (change : α → α) {values : List α} {place : Nat} {value : α}
    (hvalue : values[place]? = some value) :
    values.modify place change = values.set place (change value) := by
  obtain ⟨hplace, -⟩ := List.getElem?_eq_some_iff.mp hvalue
  apply List.ext_getElem?
  intro other
  rw [List.getElem?_modify, List.getElem?_set]
  by_cases heq : place = other
  · subst heq
    rw [hvalue, if_pos rfl, if_pos hplace]
    simp
  · simp [heq]

def HostTask.reply? : HostTask → Option Frame
  | .working (.reply frame) _ => some frame
  | _ => none

theorem HostTask.reply?_learn (signal : Signal) (caller : Caller) (task : HostTask) :
    (task.learn signal caller).reply? = task.reply? := by
  rcases task with ⟨job, aborted⟩ | outcome
  · rw [learn, Job.learn.eq_def]
    split
    · split <;> rfl
    · split <;> rfl
    · rfl
  · rfl

namespace Host

def replies (host : Host) : List Frame := host.tasks.filterMap HostTask.reply?

def ledger (host : Host) : Ledger := host.channel.ledger host.replies

variable (host : Host)

theorem wake_eq (caller : Caller) : ∃ ready, host.wake caller = { host with ready } := by
  unfold wake
  split
  · split
    · exact ⟨host.ready, rfl⟩
    · exact ⟨_, rfl⟩
  · exact ⟨host.ready, rfl⟩

theorem foldl_wake_eq (callers : List Caller) :
    ∃ ready, callers.foldl wake host = { host with ready } := by
  induction callers generalizing host with
  | nil => exact ⟨host.ready, rfl⟩
  | cons caller callers ih =>
      obtain ⟨ready, hwake⟩ := host.wake_eq caller
      obtain ⟨ready', hrest⟩ := ih (host.wake caller)
      refine ⟨ready', ?_⟩
      rw [List.foldl_cons, hrest, hwake]

theorem wakeWhere_eq (chosen : Caller → Job → Bool) :
    ∃ ready, host.wakeWhere chosen = { host with ready } :=
  foldl_wake_eq host _

/-- What heeding a signal does to the tasks: they learn from it, and a reply that has to wait gets a
task of its own. -/
theorem heed_eq (signal : Signal) :
    (host.heed signal).channel = host.channel ∧
      (host.heed signal).tasks = host.tasks.mapIdx (HostTask.learn signal) ++
        signal.deferred?.toList.map fun frame => .working (.reply frame) false := by
  obtain ⟨ready, hwake⟩ := wakeWhere_eq
    { host with tasks := host.tasks.mapIdx (HostTask.learn signal) }
    fun caller job => job.heeds caller signal
  unfold heed
  simp only [hwake]
  cases signal <;> simp [spawn, Signal.deferred?]

theorem replies_heed (signal : Signal) :
    (host.heed signal).replies = host.replies ++ signal.deferred?.toList := by
  have hviews : (host.tasks.mapIdx (HostTask.learn signal)).map HostTask.reply? =
      host.tasks.map HostTask.reply? := by
    apply List.ext_getElem?
    intro index
    simp only [List.getElem?_map, List.getElem?_mapIdx]
    cases host.tasks[index]? <;> simp [HostTask.reply?_learn]
  have hlearn : (host.tasks.mapIdx (HostTask.learn signal)).filterMap HostTask.reply? =
      host.tasks.filterMap HostTask.reply? := by
    simpa only [List.filterMap_map, Function.id_comp] using congrArg (List.filterMap id) hviews
  rw [replies, (host.heed_eq signal).2, List.filterMap_append, hlearn]
  cases signal.deferred? <;> rfl

theorem task_of_outcome? {host : Host} {caller : Caller} {outcome : Outcome}
    (houtcome : host.outcome? caller = some outcome) :
    host.tasks[caller]? = some (.over outcome) := by
  rw [outcome?] at houtcome
  split at houtcome
  · cases houtcome
    assumption
  · cases houtcome

theorem outcome?_heed (signal : Signal) (caller : Caller) :
    (host.heed signal).outcome? caller = host.outcome? caller := by
  rw [outcome?, outcome?, (host.heed_eq signal).2, List.getElem?_append, List.length_mapIdx]
  split_ifs with hcaller
  · rw [List.getElem?_mapIdx, List.getElem?_eq_getElem hcaller]
    cases host.tasks[caller] <;> simp [HostTask.learn]
  · rw [List.getElem?_eq_none (not_lt.mp hcaller)]
    cases signal.deferred? with
    | none => rfl
    | some frame => cases caller - host.tasks.length <;> simp

theorem foldl_heed (signals : List Signal) :
    (signals.foldl heed host).channel = host.channel ∧
      (signals.foldl heed host).replies = host.replies ++ signals.filterMap Signal.deferred? ∧
      ∀ caller, (signals.foldl heed host).outcome? caller = host.outcome? caller := by
  induction signals generalizing host with
  | nil => simp
  | cons signal signals ih =>
      obtain ⟨hchannel, hreplies, houtcome⟩ := ih (host.heed signal)
      refine ⟨?_, ?_, fun caller => ?_⟩
      · rw [List.foldl_cons, hchannel, (host.heed_eq signal).1]
      · rw [List.foldl_cons, hreplies, replies_heed, List.append_assoc]
        cases hdeferred : signal.deferred? <;> simp [hdeferred]
      · rw [List.foldl_cons, houtcome, outcome?_heed]

theorem ledger_settleChannel (channel : Channel) :
    (host.settleChannel channel).ledger = channel.ledger host.replies := by
  obtain ⟨hchannel, hreplies, -⟩ :=
    foldl_heed { host with channel := { channel with signals := [] } } channel.signals
  rw [ledger, settleChannel, hchannel, hreplies]
  simp [Channel.ledger, replies]

theorem outcome?_settleChannel (channel : Channel) (caller : Caller) :
    (host.settleChannel channel).outcome? caller = host.outcome? caller :=
  (foldl_heed _ channel.signals).2.2 caller

end Host

end SessionMux
