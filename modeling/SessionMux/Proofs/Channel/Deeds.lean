import SessionMux.Proofs.Channel.Balance
import SessionMux.Proofs.Channel.Endings

/-!
# Deeds

Whatever happens in a host that serves a connection, be it the turn of a task or something from
outside, comes down to few things that are done to its ledger, one after the other. `Deed` names
them, and `Ledger.Does` says what each of them does. What holds of every run follows from what each
deed preserves.
-/

namespace SessionMux

inductive Deed
  /-- Local work, with the payload that it sends, if it sends one. -/
  | works (sent : Option (UInt32 × Bytes))
  /-- A frame of the peer is heard. -/
  | hears (frame : Frame) (admission : Admission)
  /-- An error is reported, whether the channel is open or not. -/
  | reports (report : ErrorReport)
  | takes (frame : Frame)
  /-- A reply that waits for a place in the queue is lost with the task that holds it. -/
  | loses (reply : Frame)
  | abandons

namespace Deed

/-- What a deed publishes although the channel is closed. -/
def lateChanges : Deed → List Change
  | reports report => [.channelError report]
  | _ => []

/-- Whether a deed only takes something out of the queue, or puts an end to it. -/
def Drains : Deed → Prop
  | takes _ | abandons => True
  | _ => False

end Deed

namespace Ledger

inductive Does (ledger : Ledger) : Deed → Ledger → Prop
  | works {sent : Option (UInt32 × Bytes)} {next : Ledger} (hworks : ledger.Works sent next) :
      Does ledger (.works sent) next
  | hears {frame : Frame} {admission : Admission} {next : Ledger}
      (hreceives : ledger.Receives frame admission next) : Does ledger (.hears frame admission) next
  | reports (report : ErrorReport) :
      Does ledger (.reports report) (ledger.publish (.channelError report))
  | takes {frame : Frame} {frames : List Frame} (hframes : ledger.frames = frame :: frames) :
      Does ledger (.takes frame) { ledger with frames }
  | loses {front rear : List Frame} {reply : Frame}
      (hreplies : ledger.replies = front ++ reply :: rear) :
      Does ledger (.loses reply) { ledger with replies := front ++ rear }
  | abandons : Does ledger .abandons { ledger with frames := [], draining := false }

inductive Runs : Ledger → List Deed → Ledger → Prop
  | nil (ledger : Ledger) : Runs ledger [] ledger
  | cons {ledger next last : Ledger} {deed : Deed} {deeds : List Deed}
      (hdoes : ledger.Does deed next) (hruns : Runs next deeds last) :
      Runs ledger (deed :: deeds) last

variable {ledger next last : Ledger} {deed : Deed} {deeds later : List Deed}

theorem Does.runs (hdoes : ledger.Does deed next) : ledger.Runs [deed] next := .cons hdoes (.nil _)

theorem Runs.append (hruns : ledger.Runs deeds next) (hlater : next.Runs later last) :
    ledger.Runs (deeds ++ later) last := by
  induction hruns with
  | nil => exact hlater
  | cons hdoes _ ih => exact .cons hdoes (ih hlater)

theorem Runs.preserves {motive : Ledger → Prop} (hruns : ledger.Runs deeds last)
    (hdoes : ∀ before deed after, deed ∈ deeds → before.Does deed after → motive before →
      motive after) (h : motive ledger) : motive last := by
  induction hruns with
  | nil => exact h
  | cons hfirst _ ih =>
      refine ih ?_ (hdoes _ _ _ List.mem_cons_self hfirst h)
      intro before deed after hmem
      exact hdoes before deed after (List.mem_cons_of_mem _ hmem)

/-! ### The trace and the table -/

theorem Does.truthful (hdoes : ledger.Does deed next) (hlate : deed.lateChanges = [])
    (h : ledger.Truthful) : next.Truthful := by
  cases hdoes with
  | works hworks => exact hworks.truthful h
  | hears hreceives => exact hreceives.truthful h
  | reports report => cases hlate
  | takes | loses | abandons => exact h.congr rfl rfl rfl

/-- A report on an open channel is no more than a change among others, unless it is fatal. -/
theorem Does.truthful_of_open (hdoes : ledger.Does deed next) (hopen : ledger.closed = false)
    (hcalm : Trace.Calm deed.lateChanges) (h : ledger.Truthful) : next.Truthful := by
  cases hdoes with
  | works hworks => exact hworks.truthful h
  | hears hreceives => exact hreceives.truthful h
  | reports report =>
      exact h.publish_error hopen (hcalm report (List.mem_singleton_self _))
  | takes | loses | abandons => exact h.congr rfl rfl rfl

/-- A channel that is closed stays closed, with the table that it has. Nothing is published but by
who does not ask whether it is closed. -/
theorem Does.of_closed (hdoes : ledger.Does deed next) (hclosed : ledger.closed = true) :
    next.closed = true ∧ next.sessions = ledger.sessions ∧
      next.changes = ledger.changes ++ deed.lateChanges := by
  have hcontra (hopen : ledger.closed = false) : False := by
    rw [hclosed] at hopen
    cases hopen
  cases hdoes with
  | works hworks =>
      cases hworks with
      | rests | exhausts | answers => exact ⟨hclosed, rfl, (List.append_nil _).symm⟩
      | sends _ hopen | opens _ hopen | closes hopen | complains _ hopen | shuts hopen
      | fails _ _ hopen => exact (hcontra hopen).elim
  | hears hreceives =>
      cases hreceives with
      | drops => exact ⟨hclosed, rfl, (List.append_nil _).symm⟩
      | strays hopen | takes hopen | rejects _ hopen | repeats hopen | conflicts hopen
      | admits hopen | refuses hopen | ends hopen | acknowledges hopen | misreads hopen
      | warns hopen | notes hopen => exact (hcontra hopen).elim
  | reports report => exact ⟨hclosed, rfl, rfl⟩
  | takes | loses | abandons => exact ⟨hclosed, rfl, (List.append_nil _).symm⟩

/-! ### The queue -/

theorem prefix_push (ledger : Ledger) (frame : Frame) :
    ledger.frames <+: (ledger.push frame).frames := by
  obtain ⟨out, hframes, -⟩ := ledger.frames_push frame
  rw [hframes]
  exact List.prefix_append _ _

theorem queue_close (ledger : Ledger) :
    ledger.close.frames = ledger.frames ∧ ledger.close.draining = ledger.draining := by
  obtain ⟨sessions, endpoints, changes, hended, -⟩ :=
    foldl_remove_eq ledger.sessions.ids { ledger with closed := true }
  rw [close, hended]
  exact ⟨rfl, rfl⟩

theorem Works.prefix_frames {sent : Option (UInt32 × Bytes)} (hworks : ledger.Works sent next) :
    ledger.frames <+: next.frames ∧ next.draining = ledger.draining := by
  cases hworks with
  | rests | exhausts => exact ⟨List.prefix_rfl, rfl⟩
  | sends | opens | complains | answers => exact ⟨prefix_push _ _, rfl⟩
  | closes =>
      refine ⟨?_, draining_remove _ _⟩
      rw [← frames_remove ledger]
      exact prefix_push _ _
  | shuts =>
      obtain ⟨hframes, hdraining⟩ := ledger.queue_close
      rw [hframes]
      exact ⟨List.prefix_rfl, hdraining⟩
  | fails code message =>
      obtain ⟨hframes, hdraining⟩ := queue_close
        (ledger.publish (.channelError { code, level := .critical, message }))
      rw [hframes]
      exact ⟨List.prefix_rfl, hdraining⟩

theorem Replies.prefix_frames {frame : Frame} (hreply : ledger.Replies frame next) :
    ledger.frames <+: next.frames ∧ next.draining = ledger.draining := by
  obtain rfl | ⟨-, rfl⟩ := hreply
  · exact ⟨prefix_push _ _, rfl⟩
  · exact ⟨List.prefix_rfl, rfl⟩

theorem Receives.prefix_frames {frame : Frame} {admission : Admission}
    (hreceives : ledger.Receives frame admission next) :
    ledger.frames <+: next.frames ∧ next.draining = ledger.draining := by
  cases hreceives with
  | drops | strays | takes | repeats | conflicts | admits | acknowledges | misreads | warns
  | notes => exact ⟨List.prefix_rfl, rfl⟩
  | rejects error hopen hbody hfind hreply =>
      obtain ⟨hframes, hdraining⟩ := hreply.prefix_frames
      rw [frames_remove] at hframes
      rw [draining_remove] at hdraining
      exact ⟨hframes, hdraining⟩
  | refuses hopen hbody hfind hadmission hreply => exact hreply.prefix_frames
  | ends hopen hbody hreply =>
      obtain ⟨hframes, hdraining⟩ := hreply.prefix_frames
      rw [frames_remove] at hframes
      rw [draining_remove] at hdraining
      exact ⟨hframes, hdraining⟩

/-- Whoever takes nothing out of the queue can only put something in at its end. -/
theorem Does.prefix_frames (hdoes : ledger.Does deed next) (hdeed : ¬ deed.Drains) :
    ledger.frames <+: next.frames ∧ next.draining = ledger.draining := by
  cases hdoes with
  | works hworks => exact hworks.prefix_frames
  | hears hreceives => exact hreceives.prefix_frames
  | reports | loses => exact ⟨List.prefix_rfl, rfl⟩
  | takes | abandons => exact absurd trivial hdeed

theorem Runs.prefix_frames (hruns : ledger.Runs deeds last)
    (hdeeds : ∀ deed ∈ deeds, ¬ deed.Drains) :
    ledger.frames <+: last.frames ∧ last.draining = ledger.draining := by
  refine hruns.preserves (motive := fun after =>
    ledger.frames <+: after.frames ∧ after.draining = ledger.draining) ?_ ⟨List.prefix_rfl, rfl⟩
  intro before deed after hmem hdoes hbefore
  obtain ⟨hframes, hdraining⟩ := hdoes.prefix_frames (hdeeds deed hmem)
  exact ⟨hbefore.1.trans hframes, hdraining.trans hbefore.2⟩

end Ledger

end SessionMux
