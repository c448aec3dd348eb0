import SessionMux.Proofs.Peers.Phase

/-!
# How a session is closed between two ends

The end of a session may cross anything on its way: the same end that comes from the other side, a
payload, an acknowledgement, or the answer that the session was refused. `Lane.Way` is what holds in
one direction whatever crosses. It ties every acknowledgement that an end has given to an end of the
session that it has heard, and every end that it has announced to a session that it no longer has.

`Lane.Course` is the life of a session with both directions. It goes on as in `Lane.Phase`; but here
the end that hears of a session may refuse it, and keeps in mind what it has heard.
-/

namespace SessionMux

def Acknowledging (frames : List Frame) : Prop :=
  ∃ frame ∈ frames, frame.body = .control .sessionCloseAck

def Ordered (frames : List Frame) : Prop :=
  frames.Pairwise fun first second =>
    first.body = .control .sessionCloseAck → second.payload? = none

def closes (frames : List Frame) : Nat := frames.countP (·.body = .control .sessionClose)

theorem closing_iff {frames : List Frame} : Closing frames ↔ 0 < closes frames := by
  simp [Closing, closes, List.countP_pos_iff]

@[simp]
theorem closes_nil : closes [] = 0 := rfl

@[simp]
theorem closes_cons (frame : Frame) (rest : List Frame) :
    closes (frame :: rest) =
      closes rest + if frame.body = .control .sessionClose then 1 else 0 := by
  simp [closes, List.countP_cons]

@[simp]
theorem closes_append (front rear : List Frame) :
    closes (front ++ rear) = closes front + closes rear :=
  List.countP_append

@[simp]
theorem acknowledging_nil : ¬ Acknowledging [] := by simp [Acknowledging]

@[simp]
theorem acknowledging_cons {frame : Frame} {rest : List Frame} :
    Acknowledging (frame :: rest) ↔
      frame.body = .control .sessionCloseAck ∨ Acknowledging rest := by
  simp [Acknowledging]

@[simp]
theorem acknowledging_append {front rear : List Frame} :
    Acknowledging (front ++ rear) ↔ Acknowledging front ∨ Acknowledging rear := by
  simp only [Acknowledging, List.mem_append, or_and_right, exists_or]

namespace Lane

inductive Hears (frame : Frame) (lane : Lane) : List Frame → Lane → Prop
  | receives {out : List Frame} {next : Lane} (hreceives : lane.Receives frame out next) :
      Hears frame lane out next
  | refuses {reply : Frame} {code : ErrorCode} {out later : List Frame}
      (hbody : frame.body = .control .sessionOpen) (hsession : lane.session = none)
      (hreply : reply.body = .error code) (hlater : Replies lane.replies reply out later) :
      Hears frame lane out { lane with replies := later }

/-- What an end has said on a session since the opening has left its queue: the other end has dealt
with `past`, and `queue` is on its way there. The end itself has dealt with `met`. -/
structure Way (near : Lane) (past queue met : List Frame) : Prop where
  /-- The end of a session is announced once, by who has it no more. -/
  once : closes (past ++ queue ++ near.replies) ≤ if near.session.isSome then 0 else 1
  answered : Acknowledging (past ++ queue ++ near.replies) → Closing met
  ended : Closing met → near.session = none
  ordered : Ordered (past ++ queue)
  plain : ∀ frame ∈ queue, frame.body ≠ .control .sessionOpen
  replies : ∀ frame ∈ near.replies, frame.body ≠ .control .sessionOpen ∧ frame.payload? = none

variable {near next : Lane} {frame : Frame} {past queue met out later : List Frame}

/-! ### What the end itself does -/

/-- Nothing is said, and no session begins. -/
theorem Way.keeps (h : Way near past queue met) (hreplies : next.replies = near.replies)
    (hsession : next.session.isSome → near.session.isSome) : Way next past queue met where
  once := by
    rw [hreplies]
    have honce := h.once
    cases hnext : next.session with
    | none => split_ifs at honce <;> simp at honce ⊢ <;> omega
    | some session => simpa [hsession (by simp [hnext])] using honce
  answered := by
    rw [hreplies]
    exact h.answered
  ended hclosing := by
    have hnone := h.ended hclosing
    cases hnext : next.session with
    | none => rfl
    | some session => simp [hnone, hnext] at hsession
  ordered := h.ordered
  plain := h.plain
  replies := by
    rw [hreplies]
    exact h.replies

/-- What an end may say: the end of a session that has just ended, the acknowledgement of one that
it has heard of, and payloads while it has the session. -/
structure Fitting (near : Lane) (past queue met : List Frame) (frame : Frame) : Prop where
  ends : frame.body = .control .sessionClose →
    near.session = none ∧ closes (past ++ queue ++ near.replies) = 0
  acknowledges : frame.body = .control .sessionCloseAck → Closing met
  plain : frame.body ≠ .control .sessionOpen

theorem Fitting.once (hfits : Fitting near past queue met frame) (h : Way near past queue met) :
    closes (past ++ queue ++ near.replies) + closes [frame] ≤
      if near.session.isSome then 0 else 1 := by
  by_cases hclose : frame.body = .control .sessionClose
  · obtain ⟨hnone, hfirst⟩ := hfits.ends hclose
    rw [hfirst, hnone]
    simp [hclose]
  · simpa [hclose] using h.once

/-- Whoever has acknowledged the end of a session has it no more, and sends nothing on it. -/
theorem Way.ordered_concat (h : Way near past queue met)
    (hdata : frame.payload? = none ∨ near.session.isSome) :
    Ordered (past ++ (queue ++ [frame])) := by
  rw [← List.append_assoc, Ordered, List.pairwise_append]
  refine ⟨h.ordered, List.pairwise_singleton _ _, fun first hfirst second hsecond hack => ?_⟩
  obtain rfl := List.mem_singleton.mp hsecond
  obtain hquiet | hlive := hdata
  · exact hquiet
  · have hclosing := h.answered (acknowledging_append.mpr (.inl ⟨first, hfirst, hack⟩))
    rw [h.ended hclosing] at hlive
    cases hlive

theorem Way.utters (h : Way near past queue met) (hfits : Fitting near past queue met frame)
    (hdata : frame.payload? = none ∨ near.session.isSome) :
    Way near past (queue ++ [frame]) met where
  once := by
    have honce := hfits.once h
    simp only [closes_append] at honce ⊢
    omega
  answered := by
    have hanswered := h.answered
    have hfits := hfits.acknowledges
    simp only [acknowledging_append, acknowledging_cons, acknowledging_nil, or_false]
      at hanswered ⊢
    tauto
  ended := h.ended
  ordered := h.ordered_concat hdata
  plain := List.forall_mem_append.mpr ⟨h.plain, by simpa using hfits.plain⟩
  replies := h.replies

/-- A reply goes into the queue, or waits for a place there. -/
theorem Way.utters_reply (h : Way near past queue met) (hfits : Fitting near past queue met frame)
    (hdata : frame.payload? = none) (hlater : Replies near.replies frame out later) :
    Way { near with replies := later } past (queue ++ out) met := by
  rcases hlater with ⟨rfl, rfl⟩ | ⟨rfl, rfl⟩
  · exact h.utters hfits (.inl hdata)
  · have honce := hfits.once h
    have hanswered := h.answered
    have hacknowledges := hfits.acknowledges
    refine ⟨?_, ?_, h.ended, ?_, ?_, ?_⟩
    · simpa only [List.append_nil, ← List.append_assoc, closes_append] using honce
    · simp only [acknowledging_append, acknowledging_cons, acknowledging_nil, or_false]
        at hanswered ⊢
      tauto
    · rw [List.append_nil]
      exact h.ordered
    · rw [List.append_nil]
      exact h.plain
    · exact List.forall_mem_append.mpr ⟨h.replies, by simpa using ⟨hfits.plain, hdata⟩⟩

/-- A reply that had to wait goes into the queue. -/
theorem Way.answers (h : Way near past queue met) {front rear : List Frame}
    (hreplies : near.replies = front ++ frame :: rear) :
    Way { near with replies := front ++ rear } past (queue ++ [frame]) met := by
  have honce := h.once
  have hanswered := h.answered
  have hquiet := h.replies
  rw [hreplies] at honce hanswered
  rw [hreplies, List.forall_mem_append, List.forall_mem_cons] at hquiet
  obtain ⟨hfront, ⟨hopen, hdata⟩, hrear⟩ := hquiet
  refine ⟨?_, ?_, h.ended, h.ordered_concat (.inl hdata), ?_,
    List.forall_mem_append.mpr ⟨hfront, hrear⟩⟩
  · simp only [closes_append, closes_cons, closes_nil] at honce ⊢
    omega
  · simp only [acknowledging_append, acknowledging_cons, acknowledging_nil, or_false]
      at hanswered ⊢
    tauto
  · exact List.forall_mem_append.mpr ⟨h.plain, by simpa using hopen⟩

/-- Who has a session has not announced its end. -/
theorem Way.unannounced (h : Way near past queue met) {session : Session}
    (hsession : near.session = some session) : closes (past ++ queue ++ near.replies) = 0 := by
  have honce := h.once
  rw [hsession, Option.isSome_some, if_pos rfl] at honce
  omega

theorem fitting_error {code : ErrorCode} (hbody : frame.body = .error code) :
    Fitting near past queue met frame := by
  constructor <;> simp [hbody]

theorem Way.works (h : Way near past queue met) (hfree : near.free = false)
    (hworks : near.Works out next) : Way next past (queue ++ out) met := by
  cases hworks with
  | rests | shuts =>
      rw [List.append_nil]
      exact h.keeps rfl (by simp)
  | opens endpoint hstill =>
      rw [hfree] at hstill
      cases hstill
  | @sends frame payload session hbody hsession =>
      have hfits : Fitting near past queue met frame := by constructor <;> simp [hbody]
      exact (h.utters hfits (.inr (by simp [hsession]))).keeps rfl (by simp [hsession])
  | closes hbody hsession =>
      have hgone : Way { near with session := none } past queue met := h.keeps rfl (by simp)
      refine hgone.utters ⟨fun _ => ⟨rfl, h.unannounced hsession⟩, ?_, ?_⟩ ?_
      · simp [hbody]
      · simp [hbody]
      · exact .inl (by simp [Frame.payload?, hbody])
  | complains hbody hsession => exact h.utters (fitting_error hbody) (.inr (by simp [hsession]))
  | answers hreplies => exact h.answers hreplies

/-! ### What the end hears -/

theorem Way.meets (h : Way near past queue met)
    (hclose : frame.body = .control .sessionClose → near.session = none) :
    Way near past queue (met ++ [frame]) where
  once := h.once
  answered hack := closing_append.mpr (.inl (h.answered hack))
  ended hclosing := by
    obtain hbefore | hnow := closing_append.mp hclosing
    · exact h.ended hbefore
    · exact hclose (by simpa using hnow)
  ordered := h.ordered
  plain := h.plain
  replies := h.replies

theorem Way.receives (h : Way near past queue met) (hplain : frame.body ≠ .control .sessionOpen)
    (hreceives : near.Receives frame out next) : Way next past (queue ++ out) (met ++ [frame]) := by
  cases hreceives with
  | drops _ hsession | strays _ hsession =>
      rw [List.append_nil]
      exact h.meets fun _ => hsession
  | ignores _ _ hclose =>
      rw [List.append_nil]
      exact h.meets fun hbody => absurd hbody hclose
  | takes hbody hsession =>
      rw [List.append_nil]
      exact (h.meets (by simp [hbody])).keeps rfl (by simp [hsession])
  | @rejects payload session reply out later hbody hsession hreply hlater =>
      have hgone : Way { near with session := none, heard := near.heard ++ [payload] }
          past queue (met ++ [frame]) := (h.meets (by simp [hbody])).keeps rfl (by simp)
      refine hgone.utters_reply ⟨fun _ => ⟨rfl, h.unannounced hsession⟩, ?_, ?_⟩ ?_ hlater
      · simp [hreply]
      · simp [hreply]
      · simp [Frame.payload?, hreply]
  | @ends reply out later hbody hreply hlater =>
      have hgone : Way { near with session := none } past queue met := h.keeps rfl (by simp)
      refine (hgone.meets fun _ => rfl).utters_reply ⟨?_, fun _ => ?_, ?_⟩ ?_ hlater
      · simp [hreply]
      · simp [hbody]
      · simp [hreply]
      · simp [Frame.payload?, hreply]
  | repeats hbody | admits _ hbody => exact absurd hbody hplain

theorem Way.hears (h : Way near past queue met) (hplain : frame.body ≠ .control .sessionOpen)
    (hhears : near.Hears frame out next) : Way next past (queue ++ out) (met ++ [frame]) := by
  cases hhears with
  | receives hreceives => exact h.receives hplain hreceives
  | refuses hbody => exact absurd hbody hplain

/-! ### What the other end hears -/

/-- The other end has dealt with the next frame. -/
theorem Way.arrives (h : Way near past (frame :: queue) met) :
    Way near (past ++ [frame]) queue met where
  once := by simpa using h.once
  answered := by simpa using h.answered
  ended := h.ended
  ordered := by simpa using h.ordered
  plain := (List.forall_mem_cons.mp h.plain).2
  replies := h.replies

/-- The next frame has come to an end that is closed. -/
theorem Way.dropped (h : Way near past (frame :: queue) met) : Way near past queue met where
  once := by
    have honce := h.once
    simp only [closes_append, closes_cons] at honce ⊢
    omega
  answered hack := h.answered (by
    simp only [acknowledging_append, acknowledging_cons] at hack ⊢
    tauto)
  ended := h.ended
  ordered := h.ordered.sublist (List.Sublist.append_left (List.sublist_cons_self frame queue) past)
  plain := (List.forall_mem_cons.mp h.plain).2
  replies := h.replies

/-- The opening of the session has arrived. -/
theorem Way.opened (h : Way near [] queue met) (hbody : frame.body = .control .sessionOpen) :
    Way near [frame] queue met where
  once := by simpa [hbody] using h.once
  answered := by simpa [hbody] using h.answered
  ended := h.ended
  ordered := List.pairwise_cons.mpr ⟨fun _ _ hack => by simp [hbody] at hack, h.ordered⟩
  plain := h.plain
  replies := h.replies

/-! ### The life of a session -/

theorem Blank.way {lane : Lane} (h : lane.Blank) (session : Option Session) (free : Bool) :
    Way { lane with session, free } [] [] [] where
  once := by simp [h.replies]
  answered := by simp [h.replies]
  ended := by simp
  ordered := List.Pairwise.nil
  plain := by simp
  replies := by simp [h.replies]

theorem Blank.hears {lane : Lane} (h : lane.Blank) (hbody : frame.body = .control .sessionOpen)
    (hhears : lane.Hears frame out next) : Way next [] out [frame] := by
  have hmeets (session : Option Session) :
      Way { lane with session } [] [] [frame] :=
    (h.way session lane.free).meets (by simp [hbody])
  cases hhears with
  | refuses _ _ hreply hlater =>
      exact (hmeets lane.session).utters_reply (fitting_error hreply)
        (by simp [Frame.payload?, hreply]) hlater
  | receives hreceives =>
      cases hreceives with
      | drops | repeats | admits => exact hmeets _
      | strays hdata | takes hdata | rejects hdata => simp [hbody] at hdata
      | ends hclose => simp [hbody] at hclose
      | ignores _ hopen => exact absurd hbody hopen

/-- Where a session stands whose id belongs to `owner`: the frames on their way to the other end and
from there, and what `owner` and the other end have dealt with. -/
inductive Course (owner other : Lane) :
    List Frame → List Frame → List Frame → List Frame → Prop
  | blank (howner : owner.Blank) (hother : other.Blank) : Course owner other [] [] [] []
  /-- The opening of the session is on its way. -/
  | opening {frame : Frame} {later : List Frame} (hbody : frame.body = .control .sessionOpen)
      (hfree : owner.free = false) (hother : other.Blank) (hthere : Way owner [] later []) :
      Course owner other (frame :: later) [] [] []
  | known {there back met met' : List Frame} (hfree : owner.free = false)
      (hthere : Way owner met' there met) (hback : Way other met back met') :
      Course owner other there back met met'

variable {owner other : Lane} {there back met' : List Frame}

theorem Course.works_owner (h : Course owner other there back met met')
    (hworks : owner.Works out next) : Course next other (there ++ out) back met met' := by
  cases h with
  | blank howner hother =>
      obtain ⟨rfl, hnext⟩ | ⟨frame, endpoint, -, hbody, rfl, rfl⟩ := howner.works hworks
      · exact .blank hnext hother
      · exact .opening hbody rfl hother (howner.way _ _)
  | opening hbody hfree hother hthere =>
      exact .opening hbody (hworks.free hfree) hother (hthere.works hfree hworks)
  | known hfree hthere hback =>
      exact .known (hworks.free hfree) (hthere.works hfree hworks) hback

theorem Course.works_other (h : Course owner other there back met met')
    (hother : other.free = false) (hworks : other.Works out next) :
    Course owner next there (back ++ out) met met' := by
  have hblank (hunknown : other.Blank) : out = [] ∧ next.Blank := by
    obtain hnext | ⟨frame, endpoint, hfree, -⟩ := hunknown.works hworks
    · exact hnext
    · rw [hother] at hfree
      cases hfree
  cases h with
  | blank howner hunknown =>
      obtain ⟨rfl, hnext⟩ := hblank hunknown
      exact .blank howner hnext
  | opening hbody hfree hunknown hthere =>
      obtain ⟨rfl, hnext⟩ := hblank hunknown
      exact .opening hbody hfree hnext hthere
  | known hfree hthere hback => exact .known hfree hthere (hback.works hother hworks)

theorem Course.hears_other (h : Course owner other (frame :: there) back met met')
    (hhears : other.Hears frame out next) :
    Course owner next there (back ++ out) met (met' ++ [frame]) := by
  cases h with
  | opening hbody hfree hunknown hthere =>
      exact .known hfree (hthere.opened hbody) (hunknown.hears hbody hhears)
  | known hfree hthere hback =>
      have hplain := hthere.plain frame List.mem_cons_self
      exact .known hfree hthere.arrives (hback.hears hplain hhears)

theorem Course.hears_owner (h : Course owner other there (frame :: back) met met')
    (hhears : owner.Hears frame out next) :
    Course next other (there ++ out) back (met ++ [frame]) met' := by
  cases h with
  | known hfree hthere hback =>
      have hplain := hback.plain frame List.mem_cons_self
      have hnext : next.free = owner.free := by
        cases hhears with
        | receives hreceives => exact hreceives.free
        | refuses => rfl
      exact .known (hnext.trans hfree) (hthere.hears hplain hhears) hback.arrives

theorem Course.drops_other (h : Course owner other (frame :: there) back met met') :
    Course owner other there back met met' := by
  cases h with
  | opening hbody hfree hunknown hthere =>
      exact .known hfree hthere (hunknown.way other.session other.free)
  | known hfree hthere hback => exact .known hfree hthere.dropped hback

theorem Course.drops_owner (h : Course owner other there (frame :: back) met met') :
    Course owner other there back met met' := by
  cases h with
  | known hfree hthere hback => exact .known hfree hthere hback.dropped

/-! ### What an acknowledgement tells -/

/-- An acknowledgement has come from the far end: it has heard that the session ended, both ends
have it no more, and nothing of it is on its way that could be missed. -/
structure Over (near far : Lane) (there back met' : List Frame) : Prop where
  heard : Closing met'
  announced : ¬ Closing (there ++ near.replies)
  gone : near.session = none ∧ far.session = none
  drained : ∀ frame ∈ back ++ far.replies, frame.payload? = none

theorem over_of_acknowledging {far : Lane} (hthere : Way near met' there met)
    (hback : Way far met back met') (hack : Acknowledging met) :
    Over near far there back met' := by
  have hheard : Closing met' := hback.answered (by simp [hack])
  have hpositive := closing_iff.mp hheard
  have honce := hthere.once
  simp only [closes_append] at honce
  refine ⟨hheard, ?_, ⟨?_, hback.ended hheard⟩, ?_⟩
  · rw [closing_iff, closes_append]
    split_ifs at honce <;> omega
  · rw [← Option.not_isSome_iff_eq_none]
    intro hlive
    rw [if_pos hlive] at honce
    omega
  · obtain ⟨first, hfirst, hbody⟩ := hack
    refine List.forall_mem_append.mpr ⟨fun frame hmem => ?_, fun frame hmem => ?_⟩
    · exact (List.pairwise_append.mp hback.ordered).2.2 first hfirst frame hmem hbody
    · exact (hback.replies frame hmem).2

theorem Course.over_owner (h : Course owner other there back met met')
    (hack : Acknowledging met) : Over owner other there back met' := by
  cases h with
  | blank | opening => simp at hack
  | known _ hthere hback => exact over_of_acknowledging hthere hback hack

theorem Course.over_other (h : Course owner other there back met met')
    (hack : Acknowledging met') : Over other owner back there met := by
  cases h with
  | blank | opening => simp at hack
  | known _ hthere hback => exact over_of_acknowledging hback hthere hack

end Lane

end SessionMux
