import Mathlib.Data.List.ReduceOption
import SessionMux.Proofs.Channel.Answers
import SessionMux.Proofs.Host.Failure
import SessionMux.Proofs.Peers.View

/-!
# How replies get into the outbound queue

A reply that finds the queue full is held by a task of its own until that task puts it into the
queue. `Host.Passes` lists all that a move can do to the queue and to the replies that wait: a frame
of the peer sends its reply on its way, the task of a reply waits on or lets go of it, other local
work puts frames of its own into the queue, and the writer takes frames out or gives up.
-/

namespace SessionMux

theorem reduceOption_set_none {α : Type} {desks : List (Option α)} {desk : Nat} {held : α}
    (hheld : desks[desk]? = some (some held)) :
    desks.reduceOption[(desks.take desk).reduceOption.length]? = some held ∧
      (desks.set desk none).reduceOption =
        desks.reduceOption.eraseIdx (desks.take desk).reduceOption.length := by
  obtain ⟨hdesk, hself⟩ := List.getElem?_eq_some_iff.mp hheld
  have hsplit : desks.reduceOption =
      (desks.take desk).reduceOption ++ held :: (desks.drop (desk + 1)).reduceOption := by
    conv_lhs => rw [← List.take_append_drop desk desks, List.drop_eq_getElem_cons hdesk, hself]
    rw [List.reduceOption_append, List.reduceOption_cons_of_some]
  refine ⟨?_, ?_⟩
  · rw [hsplit, List.getElem?_append_right (Nat.le_refl _), Nat.sub_self]
    rfl
  · rw [List.set_eq_take_append_cons_drop, if_pos hdesk, List.reduceOption_append,
      List.reduceOption_cons_of_none, hsplit, List.eraseIdx_append_of_length_le (Nat.le_refl _),
      Nat.sub_self]
    rfl

namespace Ledger

variable {ledger next : Ledger} {added : List Frame}

structure Adds (ledger : Ledger) (added : List Frame) (next : Ledger) : Prop where
  frames : next.frames = ledger.frames ++ added
  draining : next.draining = ledger.draining
  lost : ledger.draining = false → added = []

theorem Adds.of_same (hframes : next.frames = ledger.frames)
    (hdraining : next.draining = ledger.draining) : ledger.Adds [] next :=
  ⟨hframes.trans (List.append_nil _).symm, hdraining, fun _ => rfl⟩

theorem adds_push (ledger : Ledger) (frame : Frame) :
    ledger.Adds (if ledger.draining then [frame] else []) (ledger.push frame) := by
  refine ⟨?_, rfl, fun hdraining => by rw [hdraining, if_neg Bool.false_ne_true]⟩
  rw [push]
  split_ifs
  · rfl
  · rw [List.append_nil]

theorem Adds.congr (h : ledger.Adds added next) {before after : Ledger}
    (hbefore : before.frames = ledger.frames) (hbefore' : before.draining = ledger.draining)
    (hafter : after.frames = next.frames) (hafter' : after.draining = next.draining) :
    before.Adds added after :=
  ⟨by rw [hafter, hbefore, h.frames], by rw [hafter', hbefore', h.draining],
    fun hdraining => h.lost (hbefore' ▸ hdraining)⟩

theorem close_eq (ledger : Ledger) :
    ledger.close.frames = ledger.frames ∧ ledger.close.draining = ledger.draining ∧
      ledger.close.replies = ledger.replies := by
  obtain ⟨sessions, endpoints, changes, hended, -⟩ :=
    foldl_remove_eq ledger.sessions.ids { ledger with closed := true }
  rw [close, hended]
  exact ⟨rfl, rfl, rfl⟩

/-- Local work puts frames into the queue. Where no reply waits, none does afterwards. -/
theorem Works.adds {sent : Option (UInt32 × Bytes)} (hworks : ledger.Works sent next)
    (hnone : ledger.replies = []) : (∃ added, ledger.Adds added next) ∧ next.replies = [] := by
  cases hworks with
  | rests => exact ⟨⟨[], .of_same rfl rfl⟩, hnone⟩
  | exhausts => exact ⟨⟨[], .of_same rfl rfl⟩, hnone⟩
  | sends => exact ⟨⟨_, (adds_push _ _).congr rfl rfl rfl rfl⟩, hnone⟩
  | opens => exact ⟨⟨_, (adds_push _ _).congr rfl rfl rfl rfl⟩, hnone⟩
  | @closes id =>
      obtain ⟨sessions, endpoints, changes, hremove⟩ := ledger.remove_eq id
      rw [hremove]
      exact ⟨⟨_, (adds_push _ _).congr rfl rfl rfl rfl⟩, hnone⟩
  | complains => exact ⟨⟨_, (adds_push _ _).congr rfl rfl rfl rfl⟩, hnone⟩
  | answers hreplies =>
      rw [hnone] at hreplies
      exact absurd hreplies.symm (List.append_ne_nil_of_right_ne_nil _ (List.cons_ne_nil _ _))
  | shuts =>
      obtain ⟨hframes, hdraining, hreplies⟩ := ledger.close_eq
      exact ⟨⟨[], .of_same hframes hdraining⟩, hreplies.trans hnone⟩
  | fails code message =>
      obtain ⟨hframes, hdraining, hreplies⟩ := close_eq
        (ledger.publish (.channelError { code, level := .critical, message }))
      exact ⟨⟨[], .of_same hframes hdraining⟩, hreplies.trans hnone⟩

end Ledger

namespace Host

variable {host next : Host}

def outflow (host : Host) : Outflow := { outbox := host.channel.outbox, deferred := host.replies }

def desks (host : Host) : List (Option Frame) := host.tasks.map HostTask.reply?

def place? (host : Host) (caller : Caller) : Option Nat :=
  host.desks[caller]?.join.map fun _ => (host.desks.take caller).reduceOption.length

theorem replies_eq (host : Host) : host.replies = host.desks.reduceOption := by
  rw [desks, List.reduceOption, List.filterMap_map, Function.id_comp]
  rfl

theorem ledger_replies (hquiet : host.channel.signals = []) :
    host.ledger.replies = host.replies := by
  simp [ledger, Channel.ledger, hquiet]

theorem desk_of_task {caller : Caller} {task : HostTask}
    (htask : host.tasks[caller]? = some task) : host.desks[caller]? = some task.reply? := by
  rw [desks, List.getElem?_map, htask]
  rfl

/-! ### Settling -/

theorem desks_heed (host : Host) (signal : Signal) :
    (host.heed signal).desks = host.desks ++ signal.deferred?.toList.map some := by
  have hlearn : (host.tasks.mapIdx (HostTask.learn signal)).map HostTask.reply? = host.desks := by
    apply List.ext_getElem?
    intro caller
    rw [desks, List.getElem?_map, List.getElem?_map, List.getElem?_mapIdx]
    cases host.tasks[caller]? <;> simp [HostTask.reply?_learn]
  rw [desks, (host.heed_eq signal).2, List.map_append, hlearn]
  cases signal.deferred? <;> rfl

theorem desks_settleChannel (host : Host) (channel : Channel) :
    (host.settleChannel channel).desks =
      host.desks ++ (channel.signals.filterMap Signal.deferred?).map some := by
  have hheed (signals : List Signal) (start : Host) : (signals.foldl heed start).desks =
      start.desks ++ (signals.filterMap Signal.deferred?).map some := by
    induction signals generalizing start with
    | nil => simp
    | cons signal signals ih =>
        rw [List.foldl_cons, ih, desks_heed, List.append_assoc]
        cases hdeferred : signal.deferred? <;> simp [hdeferred]
  exact hheed channel.signals _

theorem outflow_settleChannel (host : Host) (channel : Channel) :
    (host.settleChannel channel).outflow =
      { outbox := channel.outbox
        deferred := host.replies ++ channel.signals.filterMap Signal.deferred? } := by
  have hmap : ((channel.signals.filterMap Signal.deferred?).map some).reduceOption =
      channel.signals.filterMap Signal.deferred? := by
    simp [List.reduceOption]
  rw [outflow, channel_settleChannel, replies_eq, desks_settleChannel, List.reduceOption_append,
    ← replies_eq, hmap]

/-! ### Frames of the peer -/

/-- A frame of the peer sends its reply on its way. -/
theorem outflow_hear (hquiet : host.channel.signals = []) (frame : Frame) (admission : Admission) :
    (host.hear frame admission).outflow =
      (host.channel.reply? frame admission).elim host.outflow host.outflow.answer := by
  have hbefore : host.channel.outflow = { outbox := host.channel.outbox, deferred := [] } := by
    simp [Channel.outflow, hquiet]
  have hreceive := host.channel.outflow_receive frame admission
  rw [hbefore] at hreceive
  have hafter : (host.hear frame admission).outflow =
      { outbox := (host.channel.receive frame admission).outflow.outbox
        deferred := host.replies ++ (host.channel.receive frame admission).outflow.deferred } :=
    outflow_settleChannel host _
  rw [hafter, hreceive]
  cases host.channel.reply? frame admission with
  | none => simp [outflow]
  | some reply =>
      simp only [Option.elim_some, Outflow.answer, outflow]
      split_ifs <;> simp

/-! ### Local work -/

/-- The turn of a task that holds no reply, and what the application does: frames may be put into
the queue, and all replies that wait go on waiting. -/
theorem adds_of_works {channel : Channel} {sent : Option (UInt32 × Bytes)}
    (hquiet : host.channel.signals = []) (hquiet' : next.channel.signals = [])
    (hworks : (host.channel.ledger []).Works sent (channel.ledger []))
    (hledger : next.ledger = channel.ledger host.replies) :
    (∃ added, host.ledger.Adds added next.ledger) ∧ next.replies = host.replies := by
  have hnone : (host.channel.ledger []).replies = [] := by
    simp [Channel.ledger, hquiet]
  obtain ⟨⟨added, hadds⟩, hnone'⟩ := hworks.adds hnone
  have hdeferred : channel.signals.filterMap Signal.deferred? = [] := by
    simpa [Channel.ledger] using hnone'
  rw [← ledger_replies hquiet', hledger]
  refine ⟨⟨added, hadds.congr rfl rfl rfl rfl⟩, ?_⟩
  simp [Channel.ledger, hdeferred]

theorem adds_turn (hplain : host.Plain) (hquiet : host.channel.signals = []) {caller : Caller}
    (hplace : host.place? caller = none) :
    (∃ added, host.ledger.Adds added (host.turn false caller).1.ledger) ∧
      (host.turn false caller).1.replies = host.replies := by
  have hquiet' := signals_turn hquiet false caller
  have hrests (hsame : (host.turn false caller).1.ledger = host.ledger) :=
    adds_of_works hquiet hquiet' (.rests : (host.channel.ledger []).Works none _) hsame
  rcases htask : host.tasks[caller]? with _ | ⟨job, aborted⟩ | outcome
  · exact hrests (by rw [turn, htask])
  · obtain ⟨hjob, -⟩ := hplain _ (List.mem_of_getElem? htask)
    cases job with
    | call request stage =>
        cases aborted with
        | true => exact hrests (ledger_turn_aborted hplain htask)
        | false =>
            have hworks : (host.channel.ledger []).Works _ _ :=
              Call.works_step host.present host.clock caller hjob
            have hnext := Call.isPlain_step host.channel host.present host.clock caller hjob
            rcases hstep : Call.step host.channel host.present host.clock caller request stage with
              ⟨later | later | result, channel⟩ <;> rw [hstep] at hworks hnext
            · exact adds_of_works hquiet hquiet' hworks
                (turn_of_goes htask hplain (hnext later (.inl rfl)) (.inl hstep)).1
            · exact adds_of_works hquiet hquiet' hworks
                (turn_of_goes htask hplain (hnext later (.inr rfl)) (.inr hstep)).1
            · exact adds_of_works hquiet hquiet' hworks (turn_of_ends htask hplain hstep).1
    | reply frame => simp [place?, desk_of_task htask, HostTask.reply?] at hplace
    | awaitClose | readStream | writeStream | readDatagrams | writeDatagrams | forward => cases hjob
  · exact hrests (by rw [turn, htask])

theorem adds_act (hplain : host.Plain) (hquiet : host.channel.signals = []) (action : Action)
    (hturn : ∀ caller, action = .turn caller → host.place? caller = none) :
    (∃ added, host.ledger.Adds added (host.act action).ledger) ∧
      (host.act action).replies = host.replies := by
  have hquiet' := signals_act hquiet action
  have hrests (hsame : (host.act action).ledger = host.ledger) :=
    adds_of_works hquiet hquiet' (.rests : (host.channel.ledger []).Works none _) hsame
  cases action with
  | call request byHandle => exact hrests (ledger_startCall host request byHandle)
  | abort caller => exact hrests (ledger_abort host caller)
  | turn caller => exact adds_turn hplain hquiet (hturn caller rfl)
  | advance milliseconds => exact hrests (ledger_wakeWhere _ _)
  | silence session => exact hrests (ledger_silence host session)
  | letGo => exact hrests rfl
  | close =>
      exact adds_of_works hquiet hquiet' Channel.works_close (ledger_settleChannel host _)
  | fail code message =>
      exact adds_of_works hquiet hquiet' (Channel.works_fail code message)
        (ledger_settleChannel host _)

/-! ### Turns of deferred replies -/

section TurnOfReply

variable {caller : Caller} {frame : Frame}

theorem place?_of_desk (hdesk : host.desks[caller]? = some (some frame)) :
    ∃ place, host.place? caller = some place ∧ host.replies[place]? = some frame ∧
      (host.desks.set caller none).reduceOption = host.replies.eraseIdx place := by
  obtain ⟨hheld, herased⟩ := reduceOption_set_none hdesk
  refine ⟨(host.desks.take caller).reduceOption.length, ?_, ?_, ?_⟩
  · rw [place?, hdesk]
    rfl
  · rw [replies_eq]
    exact hheld
  · rw [replies_eq]
    exact herased

theorem deferred_of_ledger {channel : Channel} (hnone : (channel.ledger []).replies = []) :
    channel.signals.filterMap Signal.deferred? = [] := by
  simpa [Channel.ledger] using hnone

/-- A task that lets go of its reply leaves its desk empty, and all others as they are. -/
theorem desks_of_ends {channel : Channel} (hdeferred : (channel.ledger []).replies = [])
    (hturn : (host.turn false caller).1 =
      (settleChannel { host with channel } channel).finish caller (.reply frame) .done) :
    (host.turn false caller).1.desks = host.desks.set caller none ∧
      (host.turn false caller).1.ledger.frames = channel.outbox.frames ∧
      (host.turn false caller).1.ledger.draining = channel.outbox.draining := by
  have hsettled : (settleChannel { host with channel } channel).desks = host.desks := by
    rw [desks_settleChannel, deferred_of_ledger hdeferred, List.map_nil, List.append_nil]
    rfl
  have hchannel : (settleChannel { host with channel } channel).channel =
      { channel with signals := [] } := channel_settleChannel _ channel
  have hback : (Channel.giveBack { channel with signals := [] } caller).ledger [] =
      Channel.ledger { channel with signals := [] } [] := Channel.ledger_giveBack caller
  have hkept :
      ((Channel.giveBack { channel with signals := [] } caller).ledger []).replies = [] := by
    rw [hback]
    rfl
  rw [hturn]
  simp only [finish, leave, hchannel]
  refine ⟨?_, ?_, ?_⟩
  · rw [desks_settleChannel, deferred_of_ledger hkept, List.map_nil, List.append_nil, ← hsettled,
      desks, desks, List.map_set]
    rfl
  · rw [ledger_settleChannel]
    exact congrArg Ledger.frames hback
  · rw [ledger_settleChannel]
    exact congrArg Ledger.draining hback

theorem place?_eq_none (hdesk : next.desks[caller]? = some none) : next.place? caller = none := by
  rw [place?, hdesk]
  rfl

theorem place?_congr (hdesks : next.desks = host.desks) (caller : Caller) :
    next.place? caller = host.place? caller := by
  rw [place?, place?, hdesks]

/-- The task of a reply waits on, or puts its reply into the queue. -/
theorem turn_reply (hquiet : host.channel.signals = [])
    (htask : host.tasks[caller]? = some (.working (.reply frame) false)) :
    ((host.turn false caller).1.desks = host.desks ∧
        host.ledger.Adds [] (host.turn false caller).1.ledger) ∨
      ((host.turn false caller).1.desks = host.desks.set caller none ∧
        host.ledger.Adds (if host.ledger.draining then [frame] else [])
          (host.turn false caller).1.ledger) := by
  have hnone : (host.channel.ledger []).replies = [] := by
    simp [Channel.ledger, hquiet]
  have hreserve : (host.channel.reserve caller).2.ledger [] = host.channel.ledger [] :=
    Channel.ledger_reserve caller
  rcases hstep : host.channel.reserve caller with ⟨_ | _ | _, channel⟩ <;>
    rw [hstep] at hreserve <;> simp only at hreserve
  · -- There is a place for the reply.
    have hfill : (channel.fill caller frame).ledger [] = (host.channel.ledger []).push frame := by
      rw [Channel.ledger_fill, hreserve]
    have hdeferred : ((channel.fill caller frame).ledger []).replies = [] := by
      rw [hfill]
      exact hnone
    obtain ⟨hdesks, hframes, hdraining⟩ :=
      desks_of_ends hdeferred (turn_reply_of_granted htask hstep)
    have hadds := (host.channel.ledger []).adds_push frame
    rw [← hfill] at hadds
    exact .inr ⟨hdesks, hadds.congr rfl rfl hframes hdraining⟩
  · have hdeferred := deferred_of_ledger ((congrArg Ledger.replies hreserve).trans hnone)
    have hframes : channel.outbox.frames = host.ledger.frames := congrArg Ledger.frames hreserve
    have hdraining : channel.outbox.draining = host.ledger.draining :=
      congrArg Ledger.draining hreserve
    rw [turn_reply_of_waiting htask hstep]
    refine .inl ⟨?_, .of_same ?_ ?_⟩
    · rw [desks_settleChannel, hdeferred, List.map_nil, List.append_nil]
      rfl
    · rw [ledger_settleChannel]
      exact hframes
    · rw [ledger_settleChannel]
      exact hdraining
  · -- Nobody takes frames out of the queue, and the reply is dropped.
    have hlost : host.ledger.draining = false := Channel.reserve_eq_refused hstep
    obtain ⟨hdesks, hframes, hdraining⟩ := desks_of_ends
      ((congrArg Ledger.replies hreserve).trans hnone) (turn_reply_of_refused htask hstep)
    rw [if_neg (by simp [hlost])]
    exact .inr ⟨hdesks, .of_same (hframes.trans (congrArg Ledger.frames hreserve))
      (hdraining.trans (congrArg Ledger.draining hreserve))⟩

end TurnOfReply

/-! ### Every move -/

inductive Passes (host : Host) : Move → Host → Prop
  | hears {frame : Frame} {admission : Admission} {next : Host}
      (houtflow : next.outflow =
        (host.channel.reply? frame admission).elim host.outflow host.outflow.answer) :
      Passes host (.hear frame admission) next
  | works {action : Action} {next : Host} {added : List Frame}
      (hturn : ∀ caller, action = .turn caller → host.place? caller = none)
      (hadds : host.ledger.Adds added next.ledger) (hreplies : next.replies = host.replies) :
      Passes host (.act action) next
  /-- The task of a reply goes on waiting. -/
  | waits {caller : Caller} {place : Nat} {next : Host} (hplace : host.place? caller = some place)
      (hstill : next.place? caller = some place) (hadds : host.ledger.Adds [] next.ledger)
      (hreplies : next.replies = host.replies) : Passes host (.act (.turn caller)) next
  | answers {caller : Caller} {place : Nat} {frame : Frame} {next : Host}
      (hplace : host.place? caller = some place) (hframe : host.replies[place]? = some frame)
      (hgone : next.place? caller = none)
      (hadds : host.ledger.Adds (if host.ledger.draining then [frame] else []) next.ledger)
      (hreplies : next.replies = host.replies.eraseIdx place) :
      Passes host (.act (.turn caller)) next
  | takes {next : Host} (hframes : next.ledger.frames = host.ledger.frames.tail)
      (hdraining : next.ledger.draining = host.ledger.draining)
      (hreplies : next.replies = host.replies) : Passes host .take next
  | abandons {next : Host} (hdraining : next.ledger.draining = false)
      (hreplies : next.replies = host.replies) : Passes host .abandon next

theorem passes_act (hplain : host.Plain) (hquiet : host.channel.signals = []) (action : Action) :
    host.Passes (.act action) (host.act action) := by
  by_cases hturn : ∀ caller, action = .turn caller → host.place? caller = none
  · obtain ⟨⟨added, hadds⟩, hreplies⟩ := adds_act hplain hquiet action hturn
    exact .works hturn hadds hreplies
  · push Not at hturn
    obtain ⟨caller, rfl, hplace⟩ := hturn
    obtain ⟨frame, hdesk⟩ : ∃ frame, host.desks[caller]? = some (some frame) := by
      rw [place?] at hplace
      rcases hdesk : host.desks[caller]? with _ | _ | frame <;> simp [hdesk] at hplace
      exact ⟨frame, rfl⟩
    obtain ⟨task, htask, hreply⟩ : ∃ task, host.tasks[caller]? = some task ∧
        task.reply? = some frame := by
      rw [desks, List.getElem?_map] at hdesk
      simpa using hdesk
    obtain ⟨aborted, rfl⟩ : ∃ aborted, task = .working (.reply frame) aborted := by
      unfold HostTask.reply? at hreply
      split at hreply
      · cases hreply
        exact ⟨_, rfl⟩
      · cases hreply
    obtain rfl : aborted = false := (hplain _ (List.mem_of_getElem? htask)).2 frame rfl
    obtain ⟨place, hplace, hheld, herased⟩ := place?_of_desk hdesk
    obtain ⟨hdesks, hadds⟩ | ⟨hdesks, hadds⟩ := turn_reply hquiet htask
    · refine .waits hplace ((place?_congr hdesks caller).trans hplace) hadds ?_
      rw [act, replies_eq, hdesks, ← replies_eq]
    · refine .answers hplace hheld (place?_eq_none ?_) hadds ?_
      · obtain ⟨hcaller, -⟩ := List.getElem?_eq_some_iff.mp hdesk
        rw [act, hdesks, List.getElem?_set_self hcaller]
      · rw [act, replies_eq, hdesks, herased]

theorem passes_take (hquiet : host.channel.signals = []) :
    host.Passes .take (host.move .take) := by
  have hquiet' := signals_move hquiet .take
  cases htake : host.channel.takeFrame? with
  | none =>
      have hempty : host.channel.outbox.frames = [] := by
        rw [Channel.takeFrame?, Option.map_eq_none_iff, Outbox.take?] at htake
        cases hframes : host.channel.outbox.frames with
        | nil => rfl
        | cons => simp [hframes] at htake
      have hsame : host.move .take = host := by
        rw [move, takeFrames, htake]
      rw [hsame]
      exact .takes (by simp [ledger, Channel.ledger, hempty]) rfl rfl
  | some taken =>
      obtain ⟨frame, channel⟩ := taken
      have hnext : host.move .take = host.settleChannel channel := by
        simp only [move, takeFrames, htake]
      rw [hnext] at hquiet' ⊢
      obtain ⟨hframes, hledger⟩ := ledger_takeFrame htake
      refine .takes ?_ ?_ ?_
      · rw [hframes, List.tail_cons]
      · rw [hledger]
      · rw [← ledger_replies hquiet', hledger]
        exact ledger_replies hquiet

/-- **Every move is covered.** -/
theorem passes_move (hplain : host.Plain) (hquiet : host.channel.signals = []) (move : Move) :
    host.Passes move (host.move move) := by
  cases move with
  | act action => exact passes_act hplain hquiet action
  | hear frame admission => exact .hears (outflow_hear hquiet frame admission)
  | take => exact passes_take hquiet
  | abandon =>
      have hquiet' := signals_move hquiet .abandon
      have hledger : (host.move .abandon).ledger =
          { host.ledger with frames := [], draining := false } := by
        rw [Host.move, abandonOutbox, ledger_settleChannel, Channel.ledger_abandonOutbox]
        rfl
      refine .abandons (by rw [hledger]) ?_
      rw [← ledger_replies hquiet', hledger]
      exact ledger_replies hquiet

end Host

end SessionMux
