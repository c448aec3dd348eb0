import SessionMux.Proofs.Host.Journal

/-!
# The replies of every run

As long as frames are taken out of the outbound queue, each reply that is due to a frame of the peer
is in the queue, has been there, or waits for a place, and that once (`Host.replies_exact`).

Replies are put into the queue in the order of their frames, but for those that wait: a reply whose
task has not put it there yet when the frame of another comes in may be overtaken
(`Host.replies_in_order`, `Host.replies_out_of_order`).
-/

namespace SessionMux

theorem prefix_of_not_mem {α : Type} {front more ahead behind : List α} {value : α}
    (hsplit : front ++ more = ahead ++ value :: behind) (hnot : value ∉ front) :
    front <+: ahead := by
  obtain ⟨between, hahead, -⟩ | ⟨between, hfront, hbehind⟩ := List.append_eq_append_iff.mp hsplit
  · exact ⟨between, hahead.symm⟩
  · cases between with
    | nil => exact ⟨[], by rw [hfront, List.append_nil, List.append_nil]⟩
    | cons first between =>
        obtain ⟨rfl, -⟩ := List.cons.inj hbehind
        exact absurd (by rw [hfront]; simp) hnot

namespace Journal

variable {journal : Journal} {host next : Host}

theorem mem_answers {number : Nat} {frame : Frame} :
    (number, frame) ∈ journal.answers ↔ (some number, frame) ∈ journal.posted := by
  rw [answers, List.mem_filterMap]
  constructor
  · rintro ⟨⟨_ | other, posted⟩, hmem, hentry⟩
    · cases hentry
    · cases hentry
      exact hmem
  · exact fun hmem => ⟨_, hmem, rfl⟩

/-- No reply that waits has been put into the queue. -/
theorem Keeps.not_posted (h : journal.Keeps host) (hdraining : host.ledger.draining = true)
    {number : Nat} {frame : Frame} (hwaits : (number, frame) ∈ journal.waiting) (other : Frame) :
    (some number, other) ∉ journal.posted := by
  intro hposted
  have hkeys : ((journal.answers ++ journal.waiting).map (·.1)).Nodup :=
    (((h.complete hdraining).map _).nodup_iff).mpr (h.numbered.imp Nat.ne_of_lt)
  rw [List.map_append, List.nodup_append] at hkeys
  exact hkeys.2.2 number (List.mem_map_of_mem (mem_answers.mpr hposted)) number
    (List.mem_map_of_mem hwaits) rfl

/-! ### Runs -/

structure Follows (journal : Journal) (host : Host) : Prop where
  truthful : host.Truthful
  quiet : host.channel.signals = []
  keeps : journal.Keeps host

theorem follows_create (config : ChannelConfig) (depth : Nat) (reception : Reception) :
    empty.Follows (.create config depth reception) :=
  ⟨Host.truthful_create config depth reception, rfl, keeps_create config depth reception⟩

theorem Follows.passes (h : journal.Follows host) (move : Host.Move) :
    host.Passes move (host.move move) :=
  Host.passes_move h.truthful.plain h.quiet move

theorem Follows.move (h : journal.Follows host) (move : Host.Move) :
    (journal.follow host (host.move move) move).Follows (host.move move) :=
  ⟨h.truthful.move move, Host.signals_move h.quiet move, h.keeps.follow (h.passes move)⟩

theorem Follows.run (h : journal.Follows host) (moves : List Host.Move) :
    (host.journal journal moves).Follows (moves.foldl Host.move host) := by
  induction moves generalizing host journal with
  | nil => exact h
  | cons move moves ih => exact ih (h.move move)

/-- Nobody ever begins again to take frames out of the queue, and where nobody does none is put
there. What is noted stays. -/
structure Grows (journal : Journal) (host : Host) (later : Journal) (next : Host) : Prop where
  draining : next.ledger.draining = true → host.ledger.draining = true
  posted : ∃ more, later.posted = journal.posted ++ more ∧
    (host.ledger.draining = false → more = [])
  due : journal.due ⊆ later.due

theorem Grows.refl (journal : Journal) (host : Host) : journal.Grows host journal host :=
  ⟨id, ⟨[], (List.append_nil _).symm, fun _ => rfl⟩, fun _ => id⟩

theorem Grows.trans {later last : Journal} {final : Host} (hfirst : journal.Grows host later next)
    (hsecond : later.Grows next last final) : journal.Grows host last final := by
  obtain ⟨more, hposted, hlost⟩ := hfirst.posted
  obtain ⟨rest, hposted', hlost'⟩ := hsecond.posted
  refine ⟨hfirst.draining ∘ hsecond.draining, ⟨more ++ rest, ?_, fun hdraining => ?_⟩,
    fun _ hmem => hsecond.due (hfirst.due hmem)⟩
  · rw [hposted', hposted, List.append_assoc]
  · have hstill : next.ledger.draining = false := by
      by_contra hdrains
      have := hfirst.draining (by simpa using hdrains)
      rw [hdraining] at this
      cases this
    rw [hlost hdraining, hlost' hstill, List.append_nil]

/-- What is put into the queue later comes after all that has been put there, and is put there only
where frames are taken. -/
theorem Grows.ahead {later : Journal} (h : journal.Grows host later next)
    {entry : Option Nat × Frame} {ahead behind : List (Option Nat × Frame)}
    (hsplit : later.posted = ahead ++ entry :: behind) (hnew : entry ∉ journal.posted) :
    host.ledger.draining = true ∧ journal.posted <+: ahead := by
  obtain ⟨more, hposted, hlost⟩ := h.posted
  have hsplit' := hposted.symm.trans hsplit
  refine ⟨?_, prefix_of_not_mem hsplit' hnew⟩
  by_contra hnever
  rw [hlost (by simpa using hnever), List.append_nil] at hsplit'
  exact hnew (by rw [hsplit']; simp)

theorem Follows.grows_move (h : journal.Follows host) (move : Host.Move) :
    journal.Grows host (journal.follow host (host.move move) move) (host.move move) := by
  have hsame : ∃ more, journal.posted = journal.posted ++ more ∧
      (host.ledger.draining = false → more = []) :=
    ⟨[], (List.append_nil _).symm, fun _ => rfl⟩
  cases h.passes move with
  | hears houtflow =>
      obtain ⟨added, late, hadds, hreplies, -⟩ := Host.hears_cases houtflow
      rw [follow_hear hadds hreplies]
      refine ⟨fun hdraining => hadds.draining ▸ hdraining, ⟨_, rfl, fun hdraining => ?_⟩,
        List.subset_append_left _ _⟩
      rw [hadds.lost hdraining, List.map_nil]
  | works hturn hadds hreplies =>
      rw [follow_works hadds hturn]
      refine ⟨fun hdraining => hadds.draining ▸ hdraining, ⟨_, rfl, fun hdraining => ?_⟩,
        fun _ => id⟩
      rw [hadds.lost hdraining, List.map_nil]
  | waits hplace hstill hadds hreplies =>
      rw [follow_waits hplace hstill]
      exact ⟨fun hdraining => hadds.draining ▸ hdraining, hsame, fun _ => id⟩
  | @answers caller place frame _ hplace hframe hgone hadds hreplies =>
      obtain ⟨number, hnumber⟩ := h.keeps.number_of hframe
      rw [follow_answers hplace hgone hadds hnumber]
      refine ⟨fun hdraining => hadds.draining ▸ hdraining, ⟨_, rfl, fun hdraining => ?_⟩,
        fun _ => id⟩
      rw [hadds.lost hdraining, List.map_nil]
  | takes hframes hdraining hreplies =>
      exact ⟨fun hstill => hdraining ▸ hstill, hsame, fun _ => id⟩
  | abandons hlost hreplies =>
      refine ⟨fun hstill => ?_, hsame, fun _ => id⟩
      rw [hlost] at hstill
      cases hstill

theorem Follows.grows (h : journal.Follows host) (moves : List Host.Move) :
    journal.Grows host (host.journal journal moves) (moves.foldl Host.move host) := by
  induction moves generalizing host journal with
  | nil => exact .refl _ _
  | cons move moves ih => exact (h.grows_move move).trans (ih (h.move move))

end Journal

namespace Host

/-- **Every frame gets exactly its reply.** However long a host has been running, and whatever order
its tasks, its application, its writer and its peer have taken their turns in: as long as frames are
taken out of the outbound queue, the replies that were put there, and those that wait for a place,
are exactly those that are due. They are due to different frames. Whatever else a frame does, it
does at once, and the same, however full the queue is. -/
theorem replies_exact (config : ChannelConfig) (depth : Nat) (reception : Reception)
    (moves : List Move) :
    let start := create config depth reception
    let host := moves.foldl move start
    let journal := start.journal .empty moves
    (host.channel.outbox.draining = true →
      journal.posted.map (·.2) = journal.taken ++ host.channel.outbox.frames ∧
        (journal.answers ++ journal.waiting).Perm journal.due ∧
        journal.waiting.map (·.2) = host.replies ∧
        (host.replies = [] → journal.answers.Perm journal.due)) ∧
      (journal.due.map (·.1)).Pairwise (· < ·) ∧
      ∀ (frame : Frame) (admission : Admission) (outbox : Outbox),
        (Channel.receive { host.channel with outbox } frame admission).rest =
          (host.channel.receive frame admission).rest := by
  intro start host journal
  have hkeeps : journal.Keeps host :=
    ((Journal.follows_create config depth reception).run moves).keeps
  refine ⟨fun hdraining => ⟨hkeeps.posted hdraining, hkeeps.complete hdraining, hkeeps.waiting,
    fun hnone => ?_⟩, hkeeps.numbered, fun frame admission outbox => ?_⟩
  · have hwaiting : journal.waiting = [] := by
      rw [← List.map_eq_nil_iff, hkeeps.waiting, hnone]
    have hcomplete := hkeeps.complete hdraining
    rwa [hwaiting, List.append_nil] at hcomplete
  · exact Channel.rest_receive host.channel outbox host.channel.signals frame admission

/-- A client whose queue has one place, which is taken. The peer closes two sessions that are not
known; the first acknowledgement waits, and when the queue has been emptied and filled again both
have been put there. -/
theorem replies_exact_of_full :
    let close (id : UInt32) : Move :=
      .hear { port := 80, session := id, body := .control .sessionClose } (.ok .queue)
    let ack (id : UInt32) : Frame :=
      { port := 80, session := id, body := .control .sessionCloseAck }
    let moves := [.act (.call (.openSession 80 .queue) false), .act (.turn 0), close 4, .take,
      close 6, .act (.turn 1), .take, .act (.turn 1)]
    let journal := (create default 1 { rules := [], accepting := true }).journal .empty moves
    journal.answers.Perm [(0, ack 4), (1, ack 6)] := by
  intro close ack moves journal
  obtain ⟨hexact, -⟩ :=
    replies_exact default 1 { rules := [], accepting := true } moves
  have hdue : journal.due = [(0, ack 4), (1, ack 6)] := by decide
  rw [← hdue]
  exact (hexact (by decide)).2.2.2 (by decide)

/-! ### The order of replies -/

section Order

variable {host : Host} {journal : Journal} {frame : Frame} {admission : Admission} {reply : Frame}

/-- The reply to a frame is due from the moment the frame comes in. -/
theorem due_of_hear (hreply : host.channel.reply? frame admission = some reply) :
    (journal.heard, reply) ∈
      (journal.follow host (host.move (.hear frame admission)) (.hear frame admission)).due := by
  simp [Journal.follow, hreply]

variable (hfollows : journal.Follows host)
  (hreply : host.channel.reply? frame admission = some reply)
include hfollows hreply

/-- A reply that finds a place free is put there at once. -/
theorem posted_of_hear (hdraining : host.ledger.draining = true)
    (hfree : 0 < host.channel.outbox.free) :
    (journal.follow host (host.move (.hear frame admission)) (.hear frame admission)).posted =
      journal.posted ++ [(some journal.heard, reply)] := by
  cases hfollows.passes (.hear frame admission) with
  | hears houtflow =>
      obtain ⟨added, late, hadds, hreplies, hsplit⟩ := hears_cases houtflow
      obtain ⟨hboth, hnone⟩ := hsplit hdraining
      rw [hnone hfree, List.append_nil, hreply, Option.toList_some] at hboth
      rw [Journal.follow_hear hadds hreplies, hboth, List.map_singleton]

/-- Once a reply has left those that wait, it has been put into the queue. -/
theorem posted_of_not_waiting (moves : List Move) :
    let now := (.hear frame admission :: moves).foldl Host.move host
    let later := host.journal journal (.hear frame admission :: moves)
    now.ledger.draining = true →
      (0 < host.channel.outbox.free ∨ (journal.heard, reply) ∉ later.waiting) →
      (some journal.heard, reply) ∈ later.posted := by
  intro now later hdraining hwaits
  have hnext := hfollows.move (.hear frame admission)
  have hgrows := hnext.grows moves
  obtain hfree | hgone := hwaits
  · have hbefore : host.ledger.draining = true :=
      (hfollows.grows (.hear frame admission :: moves)).draining hdraining
    obtain ⟨more, hposted, -⟩ := hgrows.posted
    rw [posted_of_hear hfollows hreply hbefore hfree] at hposted
    change (some journal.heard, reply) ∈ ((host.move _).journal _ moves).posted
    rw [hposted]
    simp
  · have hdue : (journal.heard, reply) ∈ later.due :=
      hgrows.due (due_of_hear hreply)
    have hcomplete := (hnext.run moves).keeps.complete hdraining
    obtain hanswered | hstill := List.mem_append.mp (hcomplete.mem_iff.mpr hdue)
    · exact Journal.mem_answers.mp hanswered
    · exact absurd hstill hgone

end Order

/-- **Replies leave in order, unless one waits.** Take two frames of the peer that both cause a
reply, in any run. If the first reply found a place free, or has been put into the queue by the time
the second frame comes in, it precedes the second reply there. If it still waits then, and the
second reply finds a place free, it is overtaken. -/
theorem replies_in_order (config : ChannelConfig) (depth : Nat) (reception : Reception)
    (front middle rear : List Move) (first second : Frame) (admission admission' : Admission)
    (reply reply' : Frame) :
    let start := create config depth reception
    let upto := front ++ .hear first admission :: middle
    let before := front.foldl move start
    let between := upto.foldl move start
    let number := (start.journal .empty front).heard
    let number' := (start.journal .empty upto).heard
    let waiting := (start.journal .empty upto).waiting
    let posted := (start.journal .empty (upto ++ .hear second admission' :: rear)).posted
    before.channel.reply? first admission = some reply →
      between.channel.reply? second admission' = some reply' →
      ((0 < before.channel.outbox.free ∨ (number, reply) ∉ waiting) →
        ∀ ahead behind, posted = ahead ++ (some number', reply') :: behind →
          (some number, reply) ∈ ahead) ∧
      ((number, reply) ∈ waiting → 0 < between.channel.outbox.free →
        between.channel.outbox.draining = true →
        ∀ ahead behind, posted = ahead ++ (some number, reply) :: behind →
          (some number', reply') ∈ ahead) := by
  intro start upto before between number number' waiting posted hreply hreply'
  have hfront : (start.journal .empty front).Follows before :=
    (Journal.follows_create config depth reception).run front
  have hupto : (start.journal .empty upto).Follows between :=
    (Journal.follows_create config depth reception).run upto
  have hsecond := hupto.move (.hear second admission')
  have hlast : posted = (between.journal (start.journal .empty upto)
      (.hear second admission' :: rear)).posted :=
    congrArg Journal.posted (journal_append start .empty upto _)
  refine ⟨fun hwaits ahead behind hsplit => ?_,
    fun hwaits hfree hdraining ahead behind hsplit => ?_⟩
  · -- The second reply is not in the queue before its frame has come in.
    have hnew : (some number', reply') ∉ (start.journal .empty upto).posted := fun hmem =>
      Nat.lt_irrefl _ (hupto.keeps.posted_lt _ hmem number' rfl)
    obtain ⟨hdraining, hahead⟩ := (hupto.grows _).ahead (hlast.symm.trans hsplit) hnew
    have hqueued : (some number, reply) ∈ (start.journal .empty upto).posted := by
      have hmiddle : start.journal .empty upto =
          before.journal (start.journal .empty front) (.hear first admission :: middle) :=
        journal_append start .empty front _
      have hnow : between = (.hear first admission :: middle).foldl Host.move before :=
        List.foldl_append
      have hposted := posted_of_not_waiting hfront hreply middle
      rw [← hmiddle, ← hnow] at hposted
      exact hposted hdraining hwaits
    exact hahead.subset hqueued
  · -- The first reply is not in the queue when the second is put there.
    have hposted := posted_of_hear hupto hreply' hdraining hfree
    have hearlier : number < number' := hupto.keeps.waiting_lt _ hwaits
    have hnew : (some number, reply) ∉
        (start.journal .empty upto).posted ++ [(some number', reply')] := by
      rw [List.mem_append, List.mem_singleton, not_or]
      refine ⟨hupto.keeps.not_posted hdraining hwaits reply, fun heq => ?_⟩
      have hsame : number = number' := Option.some.inj (Prod.mk.inj heq).1
      omega
    rw [← hposted] at hnew
    have hahead := ((hsecond.grows rear).ahead (hlast.symm.trans hsplit) hnew).2
    rw [hposted] at hahead
    exact hahead.subset (List.mem_append_right _ (List.mem_singleton_self _))

/-- The queue has one place, which is taken, so the first acknowledgement waits. It gets the place
before the second close comes in. -/
theorem replies_in_order_of_granted :
    let close (id : UInt32) : Frame :=
      { port := 80, session := id, body := .control .sessionClose }
    let ack (id : UInt32) : Frame :=
      { port := 80, session := id, body := .control .sessionCloseAck }
    let start := create default 1 { rules := [], accepting := true }
    let front := [.act (.call (.openSession 80 .queue) false), .act (.turn 0)]
    let middle := [.act (.turn 1), .take, .act (.turn 1)]
    let rear := [.act (.turn 2), .take, .act (.turn 2)]
    let posted := (start.journal .empty (front ++ .hear (close 4) (.ok .queue) :: middle ++
      .hear (close 6) (.ok .queue) :: rear)).posted
    ∀ ahead behind, posted = ahead ++ (some 1, ack 6) :: behind → (some 0, ack 4) ∈ ahead := by
  intro close ack start front middle rear posted
  have hfirst : (front.foldl move start).channel.reply? (close 4) (.ok .queue) = some (ack 4) := by
    decide
  have hsecond : ((front ++ .hear (close 4) (.ok .queue) :: middle).foldl move start).channel.reply?
      (close 6) (.ok .queue) = some (ack 6) := by decide
  obtain ⟨horder, -⟩ := replies_in_order default 1 { rules := [], accepting := true } front middle
    rear (close 4) (close 6) (.ok .queue) (.ok .queue) (ack 4) (ack 6) hfirst hsecond
  have hnumber : (start.journal .empty front).heard = 0 := by decide
  have hnumber' : (start.journal .empty
      (front ++ .hear (close 4) (.ok .queue) :: middle)).heard = 1 := by decide
  rw [hnumber, hnumber'] at horder
  exact horder (.inr (by decide))

/-- The queue has one place, which is taken, so the first acknowledgement waits. Before its task
takes its first turn the writer frees the place, and the second acknowledgement gets it. -/
theorem replies_out_of_order :
    let close (id : UInt32) : Move :=
      .hear { port := 80, session := id, body := .control .sessionClose } (.ok .queue)
    let ack (id : UInt32) : Frame :=
      { port := 80, session := id, body := .control .sessionCloseAck }
    let journal := (create default 1 { rules := [], accepting := true }).journal .empty
      [.act (.call (.openSession 80 .queue) false), .act (.turn 0), close 4, .take, close 6,
        .act (.turn 1), .take, .act (.turn 1)]
    journal.due = [(0, ack 4), (1, ack 6)] ∧
      journal.posted = [(none, { port := 80, session := 1, body := .control .sessionOpen }),
        (some 1, ack 6), (some 0, ack 4)] := by
  decide

end Host

end SessionMux
