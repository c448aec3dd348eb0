import Mathlib.Data.List.Nodup
import SessionMux.Channel.Call
import SessionMux.Channel.Receive

/-!
# Whoever waits is told

A task that waits sleeps until a signal wakes it, so an operation of a channel has to signal
whatever somebody may wait for. Two such things can happen to others than the caller who takes part
in the operation: the channel is closed, and someone who waits for a place in the outbound queue
gets one, or learns that there will be none. Every operation of a channel alerts them in this sense
(`Channel.Alerts`).
-/

namespace SessionMux

namespace Outbox

variable {outbox : Outbox} {caller : Caller}

/-- Nobody stands in the queue twice, and nobody waits where nobody takes frames out. -/
structure Sound (outbox : Outbox) : Prop where
  nodup : (outbox.granted ++ outbox.waiting).Nodup
  abandoned : outbox.draining = false → outbox.waiting = []

theorem sound_create (capacity : Nat) : (create capacity).Sound := ⟨List.nodup_nil, nofun⟩

theorem Sound.not_granted (h : outbox.Sound) (hwaiting : caller ∈ outbox.waiting) :
    caller ∉ outbox.granted := by
  intro hgranted
  have hdisjoint := List.disjoint_of_nodup_append h.nodup
  exact hdisjoint hgranted hwaiting

theorem Sound.grantFree (h : outbox.Sound) : outbox.grantFree.Sound := by
  refine ⟨?_, fun hdraining => ?_⟩
  · have hsame : outbox.grantFree.granted ++ outbox.grantFree.waiting =
        outbox.granted ++ outbox.waiting := by
      simp only [Outbox.grantFree, List.append_assoc, List.take_append_drop]
    rw [hsame]
    exact h.nodup
  · simp only [Outbox.grantFree, h.abandoned hdraining, List.drop_nil]

/-- Whoever waits waits on when places are granted, or is granted one. -/
theorem mem_grantFree (hwaiting : caller ∈ outbox.waiting) :
    caller ∈ outbox.grantFree.waiting ∨ caller ∈ outbox.grantFree.granted := by
  rw [← List.take_append_drop outbox.free outbox.waiting, List.mem_append] at hwaiting
  obtain htaken | hleft := hwaiting
  · exact .inr (List.mem_append_right _ htaken)
  · exact .inl hleft

theorem Sound.reserve (h : outbox.Sound) (caller : Caller) : (outbox.reserve caller).2.Sound := by
  unfold Outbox.reserve
  split
  · exact h
  · rename_i hdraining
    split
    · exact h
    · rename_i hgranted
      split
      · exact h
      · rename_i hwaiting
        have hnew : caller ∉ outbox.granted ++ outbox.waiting := by
          rw [List.mem_append]
          rintro (hmem | hmem)
          · exact hgranted (List.contains_iff_mem.mpr hmem)
          · exact hwaiting (List.contains_iff_mem.mpr hmem)
        have hnodup : (caller :: (outbox.granted ++ outbox.waiting)).Nodup :=
          List.nodup_cons.mpr ⟨hnew, h.nodup⟩
        simp only [request]
        split
        · refine ⟨?_, fun hdrained => absurd hdrained (by simpa using hdraining)⟩
          rw [List.append_assoc]
          exact (List.perm_middle.symm.nodup_iff).mp hnodup
        · refine ⟨?_, fun hdrained => absurd hdrained (by simpa using hdraining)⟩
          rw [← List.append_assoc]
          exact (List.perm_append_singleton caller _).symm.nodup_iff.mp hnodup

theorem mem_waiting_reserve {other : Caller} (hwaiting : other ∈ outbox.waiting) :
    other ∈ (outbox.reserve caller).2.waiting := by
  unfold Outbox.reserve request
  split_ifs
  · exact hwaiting
  · exact hwaiting
  · exact hwaiting
  · exact hwaiting
  · exact List.mem_append_left _ hwaiting

theorem draining_reserve : (outbox.reserve caller).2.draining = outbox.draining := by
  unfold Outbox.reserve request
  split_ifs <;> rfl

/-- A caller who is told to wait is among those who wait. -/
theorem mem_waiting_of_reserve {next : Outbox}
    (hreserve : outbox.reserve caller = (.waiting, next)) : caller ∈ next.waiting := by
  unfold Outbox.reserve at hreserve
  split at hreserve
  · cases hreserve
  · split at hreserve
    · cases hreserve
    · split at hreserve
      · rename_i hwaiting
        cases hreserve
        exact List.contains_iff_mem.mp hwaiting
      · unfold request at hreserve
        split at hreserve
        · cases hreserve
        · cases hreserve
          exact List.mem_append_right _ List.mem_cons_self

theorem Sound.release (h : outbox.Sound) (caller : Caller) : (outbox.release caller).Sound := by
  refine Sound.grantFree ⟨?_, fun hdraining => ?_⟩
  · rw [← List.filter_append]
    exact h.nodup.filter _
  · simp only [h.abandoned hdraining, List.filter_nil]

theorem mem_release {other : Caller} (hne : other ≠ caller) (hwaiting : other ∈ outbox.waiting) :
    other ∈ (outbox.release caller).waiting ∨ other ∈ (outbox.release caller).granted := by
  refine mem_grantFree ?_
  exact List.mem_filter.mpr ⟨hwaiting, decide_eq_true hne⟩

theorem Sound.fill (h : outbox.Sound) (caller : Caller) (frame : Frame) :
    (outbox.fill caller frame).Sound := by
  refine ⟨?_, h.abandoned⟩
  have hsublist : (outbox.granted.filter (· ≠ caller) ++ outbox.waiting).Sublist
      (outbox.granted ++ outbox.waiting) := List.filter_sublist.append_right _
  exact hsublist.nodup h.nodup

end Outbox

namespace Channel

variable {channel next last : Channel} {caller : Caller}

/-- Whatever anybody but the caller may wait for, and which has come about since, was signalled. -/
structure Alerts (channel : Channel) (caller : Caller) (next : Channel) : Prop where
  signals : channel.signals ⊆ next.signals
  closed : next.closed = true → channel.closed = true ∨ .shutdown ∈ next.signals
  stays : channel.closed = true → next.closed = true
  draining : channel.outbox.draining = false → next.outbox.draining = false
  sound : channel.outbox.Sound → next.outbox.Sound
  waiting : channel.outbox.Sound → ∀ other, other ≠ caller → other ∈ channel.outbox.waiting →
    other ∈ next.outbox.waiting ∨ .granted other ∈ next.signals ∨ .refused other ∈ next.signals

theorem Alerts.of_same (hclosed : next.closed = channel.closed)
    (houtbox : next.outbox = channel.outbox) (hsignals : channel.signals ⊆ next.signals) :
    channel.Alerts caller next where
  signals := hsignals
  closed := fun h => .inl (hclosed ▸ h)
  stays := fun h => hclosed ▸ h
  draining := fun h => houtbox ▸ h
  sound := fun h => houtbox ▸ h
  waiting := fun _ _ _ hwaiting => .inl (houtbox ▸ hwaiting)

theorem Alerts.refl (channel : Channel) (caller : Caller) : channel.Alerts caller channel :=
  .of_same rfl rfl (List.Subset.refl _)

theorem Alerts.trans (hfirst : channel.Alerts caller next) (hsecond : next.Alerts caller last) :
    channel.Alerts caller last where
  signals := List.Subset.trans hfirst.signals hsecond.signals
  closed := fun h => by
    obtain hnext | hshutdown := hsecond.closed h
    · exact (hfirst.closed hnext).imp_right fun hmem => hsecond.signals hmem
    · exact .inr hshutdown
  stays := fun h => hsecond.stays (hfirst.stays h)
  draining := fun h => hsecond.draining (hfirst.draining h)
  sound := fun h => hsecond.sound (hfirst.sound h)
  waiting := fun h other hne hmem => by
    obtain hwaits | hgranted | hrefused := hfirst.waiting h other hne hmem
    · exact hsecond.waiting (hfirst.sound h) other hne hwaits
    · exact .inr (.inl (hsecond.signals hgranted))
    · exact .inr (.inr (hsecond.signals hrefused))

/-! ### The parts of operations -/

theorem alerts_signal (signal : Signal) : channel.Alerts caller (channel.signal signal) :=
  .of_same rfl rfl (List.subset_append_left _ _)

theorem alerts_publish (change : Change) : channel.Alerts caller (channel.publish change) :=
  .of_same rfl rfl (List.Subset.refl _)

theorem alerts_tell (endpoint : Nat) (message : Message) :
    channel.Alerts caller (channel.tell endpoint message) :=
  .of_same rfl rfl (List.subset_append_left _ _)

/-- Where the queue changes, those who wait wait on or get a place, and this is signalled. -/
theorem alerts_setOutbox {outbox : Outbox} (hdraining : outbox.draining = channel.outbox.draining)
    (hsound : channel.outbox.Sound → outbox.Sound)
    (hwaiting : ∀ other, other ≠ caller → other ∈ channel.outbox.waiting →
      other ∈ outbox.waiting ∨ other ∈ outbox.granted) :
    channel.Alerts caller (channel.setOutbox outbox) where
  signals := List.subset_append_left _ _
  closed := .inl
  stays := id
  draining := fun h => hdraining.trans h
  sound := hsound
  waiting := fun h other hne hmem => by
    obtain hwaits | hgranted := hwaiting other hne hmem
    · exact .inl hwaits
    · right
      left
      have hnew : (!channel.outbox.granted.contains other) = true := by
        simpa using h.not_granted hmem
      exact List.mem_append_right _
        (List.mem_map.mpr ⟨other, List.mem_filter.mpr ⟨hgranted, hnew⟩, rfl⟩)

theorem alerts_giveBack (channel : Channel) (caller : Caller) :
    channel.Alerts caller (channel.giveBack caller) :=
  alerts_setOutbox rfl (fun h => h.release caller) fun _ hne hmem => Outbox.mem_release hne hmem

theorem alerts_reserve (channel : Channel) (caller : Caller) :
    channel.Alerts caller (channel.reserve caller).2 where
  signals := List.Subset.refl _
  closed := .inl
  stays := id
  draining := fun h => Outbox.draining_reserve.trans h
  sound := fun h => h.reserve caller
  waiting := fun _ _ _ hmem => .inl (Outbox.mem_waiting_reserve hmem)

theorem alerts_fill (caller : Caller) (frame : Frame) :
    channel.Alerts caller (channel.fill caller frame) where
  signals := List.subset_append_left _ _
  closed := .inl
  stays := id
  draining := id
  sound := fun h => h.fill caller frame
  waiting := fun _ _ _ hmem => .inl hmem

theorem alerts_enqueue (frame : Frame) : channel.Alerts caller (channel.enqueue frame) := by
  unfold enqueue
  split_ifs
  · exact .refl _ _
  · exact
      { signals := List.subset_append_left _ _
        closed := .inl
        stays := id
        draining := id
        sound := fun h => ⟨h.nodup, h.abandoned⟩
        waiting := fun _ _ _ hmem => .inl hmem }
  · exact alerts_signal _

theorem alerts_removeSession (id : UInt32) :
    channel.Alerts caller (channel.removeSession id) := by
  unfold removeSession
  cases channel.sessions.find? id with
  | none => exact .refl _ _
  | some session => exact .of_same rfl rfl (List.subset_append_left _ _)

theorem alerts_foldl_removeSession (ids : List UInt32) (channel : Channel) :
    channel.Alerts caller (ids.foldl removeSession channel) := by
  induction ids generalizing channel with
  | nil => exact .refl _ _
  | cons id ids ih => exact (alerts_removeSession id).trans (ih _)

theorem alerts_close : channel.Alerts caller channel.close := by
  unfold close
  split
  · exact .refl _ _
  · have hended : Alerts { channel with closed := true } caller _ :=
      alerts_foldl_removeSession channel.sessions.ids _
    refine ⟨fun signal hmem => ?_, fun _ => .inr ?_, fun _ => hended.stays rfl, hended.draining,
      hended.sound, fun h other hne hmem => ?_⟩
    · exact List.mem_append_left _ (List.mem_append_left _ (hended.signals hmem))
    · exact List.mem_append_right _ List.mem_cons_self
    · refine (hended.waiting h other hne hmem).imp_right (Or.imp ?_ ?_) <;>
        exact fun htold => List.mem_append_left _ (List.mem_append_left _ htold)

theorem alerts_fail (code : ErrorCode) (message : String) :
    channel.Alerts caller (channel.fail code message) := by
  unfold fail
  split
  · exact .refl _ _
  · exact (alerts_publish _).trans alerts_close

theorem alerts_abandonOutbox : channel.Alerts caller channel.abandonOutbox where
  signals := List.subset_append_left _ _
  closed := .inl
  stays := id
  draining := fun _ => rfl
  sound := fun _ => ⟨List.nodup_nil, fun _ => rfl⟩
  waiting := fun _ _ _ hmem =>
    .inr (.inr (List.mem_append_right _ (List.mem_map_of_mem hmem)))

theorem alerts_takeFrame? {frame : Frame} (htake : channel.takeFrame? = some (frame, next)) :
    channel.Alerts caller next := by
  obtain ⟨⟨_, outbox⟩, houtbox, heq⟩ := Option.map_eq_some_iff.mp htake
  obtain ⟨-, rfl⟩ := Prod.mk.inj heq
  unfold Outbox.take? at houtbox
  split at houtbox
  · cases houtbox
  · cases houtbox
    refine alerts_setOutbox rfl (fun h => Outbox.Sound.grantFree ⟨h.nodup, h.abandoned⟩) ?_
    exact fun other _ hmem => Outbox.mem_grantFree hmem

/-! ### Requests of the application -/

theorem alerts_send (channel : Channel) (caller : Caller) (id : UInt32) (payload : Bytes) :
    channel.Alerts caller (channel.send caller id payload).2 := by
  unfold send
  split
  · exact alerts_giveBack _ _
  · split
    · exact alerts_giveBack _ _
    · rename_i session _
      have hcounted : channel.Alerts caller
          { channel with
            sessions := channel.sessions.insert id
              { session with bytesOut := session.bytesOut + payload.length }
            bytesOut := channel.bytesOut + payload.length } :=
        .of_same rfl rfl (List.Subset.refl _)
      exact hcounted.trans ((alerts_fill caller _).trans (alerts_publish _))

theorem alerts_openSession (channel : Channel) (caller : Caller) (port : UInt16)
    (kind : EndpointKind) : channel.Alerts caller (channel.openSession caller port kind).2 := by
  unfold openSession
  split
  · exact alerts_giveBack _ _
  · extract_lets found searched
    have hsearched : channel.Alerts caller searched := .of_same rfl rfl (List.Subset.refl _)
    cases found with
    | none => exact hsearched.trans (alerts_giveBack _ _)
    | some id =>
        have hadded : searched.Alerts caller (searched.addSession id port kind false) :=
          .of_same rfl rfl (List.Subset.refl _)
        exact (hsearched.trans hadded).trans ((alerts_fill caller _).trans (alerts_publish _))

theorem alerts_closeSession (channel : Channel) (caller : Caller) (id : UInt32) (waits : Bool) :
    channel.Alerts caller (channel.closeSession caller id waits).2 := by
  unfold closeSession
  split
  · exact alerts_giveBack _ _
  · split
    · exact alerts_giveBack _ _
    · refine (alerts_removeSession id).trans (.trans ?_ (alerts_fill caller _))
      split
      · exact .of_same rfl rfl (List.subset_append_left _ _)
      · exact .refl _ _

theorem alerts_stopWaiting (caller : Caller) (id : UInt32) :
    channel.Alerts caller (channel.stopWaiting caller id) :=
  .of_same rfl rfl (List.subset_append_left _ _)

theorem alerts_sendError (channel : Channel) (caller : Caller) (id : UInt32) (code : ErrorCode) :
    channel.Alerts caller (channel.sendError caller id code).2 := by
  unfold sendError
  split
  · exact alerts_giveBack _ _
  · split
    · exact alerts_giveBack _ _
    · exact (alerts_fill caller _).trans (alerts_publish _)

/-! ### Frames of the peer -/

theorem alerts_receiveData (port : UInt16) (id : UInt32) (payload : Bytes) :
    channel.Alerts caller (channel.receiveData port id payload) := by
  unfold receiveData
  split
  · exact alerts_publish _
  · rename_i session _
    have hcounted : channel.Alerts caller
        ({ channel.tell session.endpoint (.data payload) with
          sessions := channel.sessions.insert id
            { session with bytesIn := session.bytesIn + payload.length }
          bytesIn := channel.bytesIn + payload.length }.publish
          (.sessionTransaction id payload.length 0)) :=
      .of_same rfl rfl (List.subset_append_left _ _)
    simp only
    split
    · exact hcounted
    · exact hcounted.trans ((alerts_publish _).trans
        ((alerts_removeSession id).trans (alerts_enqueue _)))

theorem alerts_receiveOpen (port : UInt16) (id : UInt32) (admission : Admission) :
    channel.Alerts caller (channel.receiveOpen port id admission) := by
  unfold receiveOpen
  split
  · split
    · exact .refl _ _
    · exact alerts_publish _
  · split
    · exact .of_same rfl rfl (List.Subset.refl _)
    · exact (alerts_enqueue _).trans (alerts_publish _)

theorem alerts_receiveCloseAck (id : UInt32) :
    channel.Alerts caller (channel.receiveCloseAck id) := by
  unfold receiveCloseAck
  split
  · exact .refl _ _
  · exact .of_same rfl rfl (List.subset_append_left _ _)

theorem alerts_receiveError (id : UInt32) (code : ErrorCode) :
    channel.Alerts caller (channel.receiveError id code) := by
  unfold receiveError
  split
  · exact (alerts_tell _ _).trans (alerts_publish _)
  · exact alerts_publish _

theorem alerts_receive (channel : Channel) (caller : Caller) (frame : Frame)
    (admission : Admission) : channel.Alerts caller (channel.receive frame admission) := by
  unfold receive
  split
  · exact .refl _ _
  · cases frame.body with
    | data payload => exact alerts_receiveData _ _ _
    | error code => exact alerts_receiveError _ _
    | control code =>
        cases code with
        | sessionOpen => exact alerts_receiveOpen _ _ _
        | sessionClose => exact (alerts_removeSession _).trans (alerts_enqueue _)
        | sessionCloseAck => exact alerts_receiveCloseAck _
        | other number => exact alerts_publish _

end Channel

end SessionMux
