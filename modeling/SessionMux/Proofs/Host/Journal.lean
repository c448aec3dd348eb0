import Mathlib.Data.List.Perm.Basic
import SessionMux.Proofs.Host.Outflow

/-!
# Which reply is for which frame

A frame in the outbound queue does not say what it answers. A journal is kept beside a run and does:
it numbers the frames of the peer as they come in, notes the reply that is due to each of them, and
follows every reply, by way of the task that may hold it, into the queue.

What a move does to the queue and to the replies that wait (`Host.Passes`) keeps the journal in
agreement with the host: as long as frames are taken out of the queue, each reply that is due either
waits or has been put into the queue, and that once (`Journal.Keeps`).
-/

namespace SessionMux

structure Journal where
  /-- How many frames of the peer have come in. -/
  heard : Nat
  /-- The replies that were ever due, with the numbers of the frames that they answer. -/
  due : List (Nat × Frame)
  /-- The replies that wait for a place in the queue, in the order of the tasks that hold them. -/
  waiting : List (Nat × Frame)
  /-- All frames that were ever put into the queue. Those that answer a frame have its number. -/
  posted : List (Option Nat × Frame)
  taken : List Frame
  deriving Repr, DecidableEq

namespace Journal

def empty : Journal := { heard := 0, due := [], waiting := [], posted := [], taken := [] }

def answers (journal : Journal) : List (Nat × Frame) :=
  journal.posted.filterMap fun (number?, frame) => number?.map (·, frame)

def follow (journal : Journal) (host next : Host) (move : Host.Move) : Journal :=
  let added := next.channel.outbox.frames.drop host.channel.outbox.frames.length
  match move with
  | .hear frame admission =>
    { journal with
      heard := journal.heard + 1
      due := journal.due ++ (host.channel.reply? frame admission).toList.map (journal.heard, ·)
      waiting :=
        journal.waiting ++ (next.replies.drop host.replies.length).map (journal.heard, ·)
      posted := journal.posted ++ added.map (some journal.heard, ·) }
  | .act (.turn caller) =>
    match host.place? caller with
    | none => { journal with posted := journal.posted ++ added.map (none, ·) }
    | some place =>
      -- The task of a reply either keeps it or lets go of it.
      if (next.place? caller).isSome then journal
      else
        { journal with
          waiting := journal.waiting.eraseIdx place
          posted :=
            journal.posted ++ added.map ((journal.waiting[place]?).map (·.1), ·) }
  | .act _ => { journal with posted := journal.posted ++ added.map (none, ·) }
  | .take => { journal with taken := journal.taken ++ host.channel.outbox.frames.take 1 }
  | .abandon => journal

end Journal

def Host.journal (host : Host) (journal : Journal) : List Host.Move → Journal
  | [] => journal
  | move :: moves => (host.move move).journal (journal.follow host (host.move move) move) moves

namespace Host

variable {host next : Host} {journal : Journal}

theorem journal_append (host : Host) (journal : Journal) (front rear : List Move) :
    host.journal journal (front ++ rear) =
      (front.foldl Host.move host).journal (host.journal journal front) rear := by
  induction front generalizing host journal with
  | nil => rfl
  | cons move front ih => exact ih _ _

/-! ### What a frame of the peer adds -/

/-- A reply is put into the queue or waits, unless nobody takes frames out of the queue. -/
theorem hears_cases {frame : Frame} {admission : Admission}
    (houtflow : next.outflow =
      (host.channel.reply? frame admission).elim host.outflow host.outflow.answer) :
    ∃ added late, host.ledger.Adds added next.ledger ∧ next.replies = host.replies ++ late ∧
      (host.ledger.draining = true →
        added ++ late = (host.channel.reply? frame admission).toList ∧
          (0 < host.channel.outbox.free → late = [])) := by
  have hsame (hsame : next.outflow = host.outflow) :
      host.ledger.Adds [] next.ledger ∧ next.replies = host.replies ++ [] :=
    ⟨.of_same (congrArg (·.outbox.frames) hsame) (congrArg (·.outbox.draining) hsame),
      (congrArg Outflow.deferred hsame).trans (List.append_nil _).symm⟩
  cases hreply : host.channel.reply? frame admission with
  | none =>
      rw [hreply] at houtflow
      obtain ⟨hadds, hreplies⟩ := hsame houtflow
      exact ⟨[], [], hadds, hreplies, fun _ => ⟨rfl, fun _ => rfl⟩⟩
  | some reply =>
      rw [hreply, Option.elim_some] at houtflow
      cases hdraining : host.outflow.outbox.draining with
      | false =>
          rw [Outflow.answer_of_not_draining hdraining] at houtflow
          obtain ⟨hadds, hreplies⟩ := hsame houtflow
          have hlost : host.ledger.draining ≠ true := by
            rw [show host.ledger.draining = host.outflow.outbox.draining from rfl, hdraining]
            exact Bool.false_ne_true
          exact ⟨[], [], hadds, hreplies, fun hdraining => absurd hdraining hlost⟩
      | true =>
          by_cases hfree : 0 < host.outflow.outbox.free
          · rw [Outflow.answer_of_free hdraining hfree] at houtflow
            refine ⟨[reply], [], ⟨?_, ?_, ?_⟩, ?_, fun _ => ⟨rfl, fun _ => rfl⟩⟩
            · exact congrArg (·.outbox.frames) houtflow
            · exact congrArg (·.outbox.draining) houtflow
            · intro hlost
              exact absurd (hdraining.symm.trans hlost) (by simp)
            · exact (congrArg Outflow.deferred houtflow).trans (List.append_nil _).symm
          · rw [Outflow.answer_of_full hdraining (by omega)] at houtflow
            refine ⟨[], [reply], .of_same ?_ ?_, ?_, fun _ => ⟨rfl, fun hplace => ?_⟩⟩
            · exact congrArg (·.outbox.frames) houtflow
            · exact congrArg (·.outbox.draining) houtflow
            · exact congrArg Outflow.deferred houtflow
            · exact absurd hplace hfree

end Host

namespace Journal

variable {journal : Journal} {host next : Host}

/-! ### What is noted of each move -/

theorem follow_hear {added late : List Frame} (hadds : host.ledger.Adds added next.ledger)
    (hreplies : next.replies = host.replies ++ late) (frame : Frame) (admission : Admission) :
    journal.follow host next (.hear frame admission) =
      { journal with
        heard := journal.heard + 1
        due := journal.due ++ (host.channel.reply? frame admission).toList.map (journal.heard, ·)
        waiting := journal.waiting ++ late.map (journal.heard, ·)
        posted := journal.posted ++ added.map (some journal.heard, ·) } := by
  have hframes : next.channel.outbox.frames = host.channel.outbox.frames ++ added := hadds.frames
  simp only [follow, hframes, hreplies, List.drop_left]

theorem follow_works {added : List Frame} (hadds : host.ledger.Adds added next.ledger)
    {action : Host.Action} (hturn : ∀ caller, action = .turn caller → host.place? caller = none) :
    journal.follow host next (.act action) =
      { journal with posted := journal.posted ++ added.map (none, ·) } := by
  have hframes : next.channel.outbox.frames = host.channel.outbox.frames ++ added := hadds.frames
  cases action with
  | turn caller => simp only [follow, hturn caller rfl, hframes, List.drop_left]
  | call | abort | advance | silence | letGo | close | fail =>
      simp only [follow, hframes, List.drop_left]

section TurnOfReply

variable {caller : Caller} {place : Nat} (hplace : host.place? caller = some place)
include hplace

theorem follow_waits (hstill : next.place? caller = some place) :
    journal.follow host next (.act (.turn caller)) = journal := by
  simp [follow, hplace, hstill]

theorem follow_answers {added : List Frame} (hgone : next.place? caller = none)
    (hadds : host.ledger.Adds added next.ledger) {number : Nat} {frame : Frame}
    (hnumber : journal.waiting[place]? = some (number, frame)) :
    journal.follow host next (.act (.turn caller)) =
      { journal with
        waiting := journal.waiting.eraseIdx place
        posted := journal.posted ++ added.map (some number, ·) } := by
  have hframes : next.channel.outbox.frames = host.channel.outbox.frames ++ added := hadds.frames
  simp [follow, hplace, hgone, hnumber, hframes]

end TurnOfReply

/-! ### What a journal knows of a host -/

structure Keeps (journal : Journal) (host : Host) : Prop where
  waiting : journal.waiting.map (·.2) = host.replies
  numbered : (journal.due.map (·.1)).Pairwise (· < ·)
  due_lt : ∀ entry ∈ journal.due, entry.1 < journal.heard
  waiting_lt : ∀ entry ∈ journal.waiting, entry.1 < journal.heard
  posted_lt : ∀ entry ∈ journal.posted, ∀ number, entry.1 = some number → number < journal.heard
  /-- The queue holds what was put there and not taken out. -/
  posted : host.ledger.draining = true →
    journal.posted.map (·.2) = journal.taken ++ host.ledger.frames
  /-- Each reply that is due is in the queue, has been there, or waits. -/
  complete : host.ledger.draining = true →
    (journal.answers ++ journal.waiting).Perm journal.due

theorem keeps_create (config : ChannelConfig) (depth : Nat) (reception : Reception) :
    empty.Keeps (.create config depth reception) where
  waiting := rfl
  numbered := .nil
  due_lt := nofun
  waiting_lt := nofun
  posted_lt := nofun
  posted := fun _ => rfl
  complete := fun _ => .refl _

theorem Keeps.number_of (h : journal.Keeps host) {place : Nat} {frame : Frame}
    (hframe : host.replies[place]? = some frame) :
    ∃ number, journal.waiting[place]? = some (number, frame) := by
  rw [← h.waiting, List.getElem?_map] at hframe
  obtain ⟨⟨number, frame⟩, hentry, rfl⟩ := Option.map_eq_some_iff.mp hframe
  exact ⟨number, hentry⟩

theorem answers_numbered (number : Nat) (added : List Frame) :
    (added.map fun frame => (some number, frame)).filterMap
      (fun (number?, frame) => number?.map fun number => (number, frame)) =
        added.map (number, ·) := by
  rw [List.filterMap_map]
  exact congrFun List.filterMap_eq_map' added

theorem answers_unnumbered (added : List Frame) :
    (added.map fun frame => ((none : Option Nat), frame)).filterMap
      (fun (number?, frame) => number?.map fun number => (number, frame)) = [] := by
  rw [List.filterMap_map]
  simp

theorem Keeps.hears (h : journal.Keeps host) {frame : Frame} {admission : Admission}
    (houtflow : next.outflow =
      (host.channel.reply? frame admission).elim host.outflow host.outflow.answer) :
    (journal.follow host next (.hear frame admission)).Keeps next := by
  obtain ⟨added, late, hadds, hreplies, hsplit⟩ := Host.hears_cases houtflow
  rw [follow_hear hadds hreplies]
  generalize host.channel.reply? frame admission = reply? at hsplit
  have hlater (frames : List Frame) : ∀ entry ∈ frames.map (journal.heard, ·),
      entry.1 < journal.heard + 1 := by
    intro entry hmem
    obtain ⟨frame, -, rfl⟩ := List.mem_map.mp hmem
    exact Nat.lt_succ_self _
  refine ⟨?_, ?_, ?_, ?_, ?_, fun hdraining => ?_, fun hdraining => ?_⟩
  · rw [hreplies, List.map_append, h.waiting, List.map_map]
    simp
  · rw [List.map_append, List.pairwise_append]
    refine ⟨h.numbered, ?_, ?_⟩
    · cases reply? <;> simp
    · intro number hmem later hlater'
      obtain ⟨entry, hentry, rfl⟩ := List.mem_map.mp hmem
      have hnumber : later = journal.heard := by
        simp only [List.map_map, List.mem_map, Function.comp_apply] at hlater'
        exact hlater'.choose_spec.2.symm
      rw [hnumber]
      exact h.due_lt entry hentry
  · exact List.forall_mem_append.mpr
      ⟨fun entry hmem => Nat.lt_succ_of_lt (h.due_lt entry hmem), hlater _⟩
  · exact List.forall_mem_append.mpr
      ⟨fun entry hmem => Nat.lt_succ_of_lt (h.waiting_lt entry hmem), hlater _⟩
  · refine List.forall_mem_append.mpr ⟨fun entry hmem number hnumber => ?_, ?_⟩
    · exact Nat.lt_succ_of_lt (h.posted_lt entry hmem number hnumber)
    · intro entry hmem number hnumber
      obtain ⟨frame, -, rfl⟩ := List.mem_map.mp hmem
      cases hnumber
      exact Nat.lt_succ_self _
  · rw [hadds.draining] at hdraining
    rw [hadds.frames, List.map_append, h.posted hdraining, List.map_map]
    simp
  · rw [hadds.draining] at hdraining
    rw [answers, List.filterMap_append, ← answers, answers_numbered, ← (hsplit hdraining).1,
      List.map_append]
    have hregroup : ((journal.answers ++ added.map (journal.heard, ·)) ++
        (journal.waiting ++ late.map (journal.heard, ·))).Perm
          ((journal.answers ++ journal.waiting) ++
            (added.map (journal.heard, ·) ++ late.map (journal.heard, ·))) := by
      rw [List.append_assoc, List.append_assoc]
      exact (List.perm_append_comm_assoc _ _ _).append_left _
    exact hregroup.trans ((h.complete hdraining).append_right _)

/-- Local work that answers no frame. -/
theorem Keeps.works (h : journal.Keeps host) {added : List Frame}
    (hadds : host.ledger.Adds added next.ledger) (hreplies : next.replies = host.replies) :
    Keeps { journal with posted := journal.posted ++ added.map (none, ·) } next := by
  refine ⟨?_, h.numbered, h.due_lt, h.waiting_lt, ?_, fun hdraining => ?_, fun hdraining => ?_⟩
  · rw [hreplies]
    exact h.waiting
  · refine List.forall_mem_append.mpr ⟨h.posted_lt, fun entry hmem number hnumber => ?_⟩
    obtain ⟨frame, -, rfl⟩ := List.mem_map.mp hmem
    cases hnumber
  · rw [hadds.draining] at hdraining
    rw [hadds.frames, List.map_append, h.posted hdraining, List.map_map]
    simp
  · rw [hadds.draining] at hdraining
    rw [answers, List.filterMap_append, ← answers, answers_unnumbered, List.append_nil]
    exact h.complete hdraining

/-- The reply that a task has held is put into the queue, unless nobody takes it out there. -/
theorem Keeps.answers (h : journal.Keeps host) {place number : Nat} {frame : Frame}
    (hnumber : journal.waiting[place]? = some (number, frame))
    (hadds : host.ledger.Adds (if host.ledger.draining then [frame] else []) next.ledger)
    (hreplies : next.replies = host.replies.eraseIdx place) :
    Keeps { journal with
      waiting := journal.waiting.eraseIdx place
      posted := journal.posted ++
        (if host.ledger.draining then [frame] else []).map (some number, ·) } next := by
  obtain ⟨hplace, hentry⟩ := List.getElem?_eq_some_iff.mp hnumber
  have hearlier := h.waiting_lt _ (List.mem_of_getElem? hnumber)
  refine ⟨?_, h.numbered, h.due_lt, ?_, ?_, fun hdraining => ?_, fun hdraining => ?_⟩
  · rw [hreplies, ← h.waiting, List.eraseIdx_map]
  · exact fun entry hmem => h.waiting_lt entry (List.mem_of_mem_eraseIdx hmem)
  · refine List.forall_mem_append.mpr ⟨h.posted_lt, fun entry hmem other hother => ?_⟩
    obtain ⟨frame, -, rfl⟩ := List.mem_map.mp hmem
    cases hother
    exact hearlier
  · rw [hadds.draining] at hdraining
    rw [hadds.frames, List.map_append, h.posted hdraining, List.map_map]
    simp
  · rw [hadds.draining] at hdraining
    rw [Journal.answers, List.filterMap_append, ← Journal.answers, answers_numbered, hdraining,
      if_pos rfl, List.map_singleton, List.append_assoc, List.singleton_append, ← hentry]
    have hwaiting := List.getElem_cons_eraseIdx_perm hplace
    exact (hwaiting.append_left _).trans (h.complete hdraining)

theorem Keeps.takes (h : journal.Keeps host)
    (hframes : next.ledger.frames = host.ledger.frames.tail)
    (hdraining : next.ledger.draining = host.ledger.draining)
    (hreplies : next.replies = host.replies) : (journal.follow host next .take).Keeps next := by
  refine ⟨?_, h.numbered, h.due_lt, h.waiting_lt, h.posted_lt, fun hstill => ?_, fun hstill => ?_⟩
  · rw [hreplies]
    exact h.waiting
  · have htaken : journal.taken ++ host.ledger.frames =
        (journal.taken ++ host.ledger.frames.take 1) ++ host.ledger.frames.tail := by
      rw [List.append_assoc, ← List.drop_one, List.take_append_drop]
    rw [hframes]
    exact (h.posted (hdraining ▸ hstill)).trans htaken
  · exact h.complete (hdraining ▸ hstill)

/-- **One move** keeps a journal in agreement with the host. -/
theorem Keeps.follow (h : journal.Keeps host) {move : Host.Move} (hpasses : host.Passes move next) :
    (journal.follow host next move).Keeps next := by
  cases hpasses with
  | hears houtflow => exact h.hears houtflow
  | works hturn hadds hreplies =>
      rw [follow_works hadds hturn]
      exact h.works hadds hreplies
  | waits hplace hstill hadds hreplies =>
      rw [follow_waits hplace hstill]
      have hsame := h.works hadds hreplies
      rwa [List.map_nil, List.append_nil] at hsame
  | @answers caller place frame _ hplace hframe hgone hadds hreplies =>
      obtain ⟨number, hnumber⟩ := h.number_of hframe
      rw [follow_answers hplace hgone hadds hnumber]
      exact h.answers hnumber hadds hreplies
  | takes hframes hdraining hreplies => exact h.takes hframes hdraining hreplies
  | abandons hlost hreplies =>
      have hnever : next.ledger.draining ≠ true := by simp [hlost]
      refine ⟨?_, h.numbered, h.due_lt, h.waiting_lt, h.posted_lt,
        fun hdraining => absurd hdraining hnever, fun hdraining => absurd hdraining hnever⟩
      rw [hreplies]
      exact h.waiting

end Journal

end SessionMux
