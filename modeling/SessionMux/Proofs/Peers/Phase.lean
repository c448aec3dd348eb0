import SessionMux.Proofs.Peers.Lane

/-!
# One session at both ends

The life of a session as both ends see it. First neither end knows it (`Phase.blank`). The end to
which the id belongs opens it and may send, report and close at once, while the other end knows
nothing yet (`Phase.opening`). From when the other end has heard of it (`Phase.joint`) each end may
do anything but open it again.

`Lane.Follows` is what holds in one direction from then on: what one end has done, what the other
end has heard of it, and the frames on their way in between. What the opening end does before it is
heard of is described by the lane that the other end will have when it has heard of it.
-/

namespace SessionMux

namespace Lane

/-- What `far` knows of `near`, with the frames that are on their way from `near` to `far`. -/
structure Follows (near far : Lane) (queue : List Frame) : Prop where
  /-- What was sent was heard, or it is on its way. -/
  exact : far.session.isSome → near.sent = far.heard ++ payloads queue
  streams : far.heard <+: near.sent
  /-- An end of the session is on its way, unless the whole channel has ended. -/
  ended : near.session = none → far.session.isSome →
    near.closed = true ∨ Closing (queue ++ near.replies)
  alive : near.session.isSome → ¬ Closing (queue ++ near.replies)
  bytesOut : ∀ session, near.session = some session → session.bytesOut = volume near.sent
  bytesIn : ∀ session, far.session = some session → session.bytesIn = volume far.heard
  plain : ∀ frame ∈ queue, frame.body ≠ .control .sessionOpen
  replies : ∀ frame ∈ near.replies, frame.body ≠ .control .sessionOpen ∧ frame.payload? = none

variable {near far next : Lane} {frame : Frame} {queue out later : List Frame}

/-! ### What the near end does -/

/-- Other frames are on their way, with the same payloads and the same ends of the session. -/
theorem Follows.carries (h : Follows near far queue) {queue' : List Frame}
    (hpayloads : payloads queue' = payloads queue)
    (hclosing : Closing (queue' ++ later) ↔ Closing (queue ++ near.replies))
    (hplain : ∀ frame ∈ queue', frame.body ≠ .control .sessionOpen)
    (hreplies : ∀ frame ∈ later, frame.body ≠ .control .sessionOpen ∧ frame.payload? = none) :
    Follows { near with replies := later } far queue' where
  exact := by
    rw [hpayloads]
    exact h.exact
  streams := h.streams
  ended := by
    rw [hclosing]
    exact h.ended
  alive := by
    rw [hclosing]
    exact h.alive
  bytesOut := h.bytesOut
  bytesIn := h.bytesIn
  plain := hplain
  replies := hreplies

/-- The session ends at the near end. The far end has ended it too, or is told on the way, or the
whole channel ends. -/
theorem Follows.ends (h : Follows near far queue) {closed : Bool} {heard : List Bytes}
    (hpayloads : payloads out = [])
    (hknown : far.session.isSome → closed = true ∨ Closing (queue ++ out ++ later))
    (hplain : ∀ frame ∈ out, frame.body ≠ .control .sessionOpen)
    (hreplies : ∀ frame ∈ later, frame.body ≠ .control .sessionOpen ∧ frame.payload? = none) :
    Follows { near with closed, heard, session := none, replies := later } far (queue ++ out) where
  exact := by
    rw [payloads_append, hpayloads, List.append_nil]
    exact h.exact
  streams := h.streams
  ended _ := hknown
  alive := nofun
  bytesOut := nofun
  bytesIn := h.bytesIn
  plain := List.forall_mem_append.mpr ⟨h.plain, hplain⟩
  replies := hreplies

theorem Follows.sends (h : Follows near far queue) {payload : Bytes} {session : Session}
    (hbody : frame.body = .data payload) (hsession : near.session = some session) :
    Follows
      { near with
        session := some { session with bytesOut := session.bytesOut + payload.length }
        sent := near.sent ++ [payload] } far (queue ++ [frame]) where
  exact hfar := by
    simp [h.exact hfar, Frame.payload?_eq_some_iff.mpr hbody]
  streams := h.streams.trans (List.prefix_append _ _)
  ended := nofun
  alive _ := by
    have halive := h.alive (by simp [hsession])
    simpa [hbody] using halive
  bytesOut := by
    intro other heq
    cases heq
    calc session.bytesOut + payload.length
        = volume near.sent + payload.length := by rw [h.bytesOut session hsession]
      _ = volume (near.sent ++ [payload]) := (volume_concat near.sent payload).symm
  bytesIn := h.bytesIn
  plain := by
    refine List.forall_mem_append.mpr ⟨h.plain, ?_⟩
    simp [hbody]
  replies := h.replies

theorem Follows.works_near (h : Follows near far queue) (hfree : near.free = false)
    (hworks : near.Works out next) : Follows next far (queue ++ out) := by
  cases hworks with
  | rests =>
      rw [List.append_nil]
      exact ⟨h.exact, h.streams, h.ended, h.alive, h.bytesOut, h.bytesIn, h.plain, h.replies⟩
  | opens endpoint hstill =>
      rw [hfree] at hstill
      cases hstill
  | sends hbody hsession => exact h.sends hbody hsession
  | closes hbody hsession =>
      refine h.ends ?_ (fun _ => Or.inr ?_) (by simp [hbody]) h.replies
      · simp [Frame.payload?, hbody]
      · simp [hbody]
  | complains hbody hsession =>
      refine h.carries ?_ ?_ (List.forall_mem_append.mpr ⟨h.plain, by simp [hbody]⟩) h.replies
      · simp [Frame.payload?, hbody]
      · simp [hbody]
  | @answers front rear frame hreplies =>
      -- The reply leaves those that wait for the queue, so nothing is lost on the way.
      have hquiet := h.replies
      rw [hreplies, List.forall_mem_append, List.forall_mem_cons] at hquiet
      obtain ⟨hfront, ⟨hopen, hdata⟩, hrear⟩ := hquiet
      refine h.carries ?_ ?_ (List.forall_mem_append.mpr ⟨h.plain, by simpa using hopen⟩)
        (List.forall_mem_append.mpr ⟨hfront, hrear⟩)
      · simp [hdata]
      · simp only [hreplies, closing_append, closing_cons, closing_nil, or_false]
        tauto
  | shuts =>
      exact h.ends rfl (fun _ => Or.inl rfl) (fun _ hmem => absurd hmem List.not_mem_nil) h.replies

/-! ### What the far end does -/

/-- The far end has heard the same, and it has not begun a session. -/
theorem Follows.far_congr (h : Follows near far queue) (hheard : next.heard = far.heard)
    (hsession : ∀ session, next.session = some session →
      ∃ before, far.session = some before ∧ session.bytesIn = before.bytesIn) :
    Follows near next queue := by
  have hsome : next.session.isSome → far.session.isSome := by
    intro hnext
    obtain ⟨session, heq⟩ := Option.isSome_iff_exists.mp hnext
    obtain ⟨before, hbefore, -⟩ := hsession session heq
    simp [hbefore]
  exact
    { exact := fun hnext => by rw [hheard, h.exact (hsome hnext)]
      streams := by rw [hheard]; exact h.streams
      ended := fun hnear hnext => h.ended hnear (hsome hnext)
      alive := h.alive
      bytesOut := h.bytesOut
      bytesIn := by
        intro session heq
        obtain ⟨before, hbefore, hbytes⟩ := hsession session heq
        rw [hbytes, hheard, h.bytesIn before hbefore]
      plain := h.plain
      replies := h.replies }

theorem Follows.works_far (h : Follows near far queue) (hfree : far.free = false)
    (hworks : far.Works out next) : Follows near next queue := by
  cases hworks with
  | rests | complains | answers => exact h.far_congr rfl fun session heq => ⟨session, heq, rfl⟩
  | opens endpoint hstill =>
      rw [hfree] at hstill
      cases hstill
  | sends hbody hsession =>
      refine h.far_congr rfl fun session heq => ⟨_, hsession, ?_⟩
      cases heq
      rfl
  | closes | shuts => exact h.far_congr rfl nofun

/-! ### Frames that arrive -/

theorem Follows.passes (h : Follows near far (frame :: queue))
    (hquiet : far.session = none ∨ frame.payload? = none ∧ frame.body ≠ .control .sessionClose) :
    Follows near far queue where
  exact hfar := by
    rcases hquiet with hnone | ⟨hdata, -⟩
    · simp [hnone] at hfar
    · simpa [hdata] using h.exact hfar
  streams := h.streams
  ended hnear hfar := by
    rcases hquiet with hnone | ⟨-, hclose⟩
    · simp [hnone] at hfar
    · simpa [hclose] using h.ended hnear hfar
  alive hnear hclosing := h.alive hnear (closing_cons.mpr (Or.inr hclosing))
  bytesOut := h.bytesOut
  bytesIn := h.bytesIn
  plain := (List.forall_mem_cons.mp h.plain).2
  replies := h.replies

theorem Follows.takes (h : Follows near far (frame :: queue)) {payload : Bytes} {session : Session}
    (hbody : frame.body = .data payload) (hsession : far.session = some session) :
    Follows near
      { far with
        session := some { session with bytesIn := session.bytesIn + payload.length }
        heard := far.heard ++ [payload] } queue := by
  have hsent : near.sent = far.heard ++ [payload] ++ payloads queue := by
    simpa [Frame.payload?_eq_some_iff.mpr hbody] using h.exact (by simp [hsession])
  exact
    { exact := fun _ => hsent
      streams := ⟨payloads queue, hsent.symm⟩
      ended := fun hnear _ => by simpa [hbody] using h.ended hnear (by simp [hsession])
      alive := fun hnear => by simpa [hbody] using h.alive hnear
      bytesOut := h.bytesOut
      bytesIn := by
        intro other heq
        cases heq
        calc session.bytesIn + payload.length
            = volume far.heard + payload.length := by rw [h.bytesIn session hsession]
          _ = volume (far.heard ++ [payload]) := (volume_concat far.heard payload).symm
      plain := (List.forall_mem_cons.mp h.plain).2
      replies := h.replies }

theorem Follows.receives_far (h : Follows near far (frame :: queue))
    (hreceives : far.Receives frame out next) : Follows near next queue := by
  have hplain := h.plain frame List.mem_cons_self
  cases hreceives with
  | drops _ hsession | strays _ hsession => exact h.passes (Or.inl hsession)
  | takes hbody hsession => exact h.takes hbody hsession
  | rejects hbody hsession => exact (h.takes hbody hsession).far_congr rfl nofun
  | repeats hbody | admits _ hbody => exact absurd hbody hplain
  | ends =>
      have hdead : Follows near { far with session := none } (frame :: queue) :=
        h.far_congr rfl nofun
      exact (hdead.passes (Or.inl rfl)).far_congr rfl nofun
  | ignores hdata _ hclose => exact h.passes (Or.inr ⟨hdata, hclose⟩)

/-- The session ends at an end that has heard so from the other one, or replies that it ends. -/
theorem Follows.replies_end (h : Follows near far queue) {heard : List Bytes} {reply : Frame}
    (hreply : reply.body ≠ .control .sessionOpen ∧ reply.payload? = none)
    (hlater : Replies near.replies reply out later)
    (hknown : far.session.isSome → reply.body = .control .sessionClose) :
    Follows { near with heard, session := none, replies := later } far (queue ++ out) := by
  rcases hlater with ⟨rfl, rfl⟩ | ⟨rfl, rfl⟩
  · refine h.ends (by simp [hreply.2]) (fun hfar => Or.inr ?_) (by simpa using hreply.1) h.replies
    simp [hknown hfar]
  · refine h.ends (by simp) (fun hfar => Or.inr ?_) (by simp)
      (List.forall_mem_append.mpr ⟨h.replies, by simpa using hreply⟩)
    simp [hknown hfar]

/-- The far end hears a frame of the near end, and may have something to reply. -/
theorem Follows.receives_back {back : List Frame} (h : Follows near far (frame :: queue))
    (hback : Follows far near back) (hreceives : far.Receives frame out next) :
    Follows next near (back ++ out) := by
  have hplain := h.plain frame List.mem_cons_self
  cases hreceives with
  | drops | strays | ignores =>
      rw [List.append_nil]
      exact hback
  | @takes payload session hbody hsession =>
      rw [List.append_nil]
      exact
        { hback with
          ended := nofun
          alive := fun _ => hback.alive (by simp [hsession])
          bytesOut := by
            intro other heq
            cases heq
            exact hback.bytesOut session hsession }
  | rejects hbody hsession hreply hlater =>
      exact hback.replies_end (by simp [hreply, Frame.payload?]) hlater fun _ => hreply
  | repeats hbody | admits _ hbody => exact absurd hbody hplain
  | ends hbody hreply hlater =>
      -- Whoever has sent the end of a session has none, so it needs no word of this end.
      refine hback.replies_end (by simp [hreply, Frame.payload?]) hlater fun hnear => ?_
      exact absurd (closing_cons.mpr (Or.inl hbody)) (h.alive hnear)

/-! ### Steps that keep the port -/

/-- Only opening a session gives it a port. -/
theorem Works.port {lane : Lane} (hworks : lane.Works out next) (hfree : lane.free = false)
    {session : Session} (hnext : next.session = some session) :
    ∃ before, lane.session = some before ∧ session.port = before.port := by
  cases hworks with
  | rests | complains | answers => exact ⟨session, hnext, rfl⟩
  | opens endpoint hstill =>
      rw [hfree] at hstill
      cases hstill
  | sends hbody hsession =>
      refine ⟨_, hsession, ?_⟩
      cases hnext
      rfl
  | closes | shuts => cases hnext

theorem Receives.port {lane : Lane} (hreceives : lane.Receives frame out next)
    (hplain : frame.body ≠ .control .sessionOpen) {session : Session}
    (hnext : next.session = some session) :
    ∃ before, lane.session = some before ∧ session.port = before.port := by
  cases hreceives with
  | drops | strays | ignores | repeats => exact ⟨session, hnext, rfl⟩
  | takes hbody hsession =>
      refine ⟨_, hsession, ?_⟩
      cases hnext
      rfl
  | rejects | ends => cases hnext
  | admits _ hbody => exact absurd hbody hplain

/-- An id that was free before may be free no more; it never becomes free. -/
theorem Works.free {lane : Lane} (hworks : lane.Works out next) (hfree : lane.free = false) :
    next.free = false := by
  cases hworks with
  | rests hless =>
      rw [← Bool.not_eq_true] at hfree ⊢
      exact fun hstill => hfree (hless hstill)
  | opens => rfl
  | sends | closes | complains | answers | shuts => exact hfree

theorem Receives.free {lane : Lane} (hreceives : lane.Receives frame out next) :
    next.free = lane.free := by
  cases hreceives <;> rfl

/-! ### The life of a session -/

structure Blank (lane : Lane) : Prop where
  session : lane.session = none
  replies : lane.replies = []
  heard : lane.heard = []
  sent : lane.sent = []

structure Begun (lane : Lane) (port : UInt16) : Prop where
  session : ∃ endpoint, lane.session = some (.create port endpoint)
  replies : lane.replies = []
  heard : lane.heard = []
  sent : lane.sent = []

structure Joint (owner other : Lane) (there back : List Frame) : Prop where
  there : Follows owner other there
  back : Follows other owner back
  ports : ∀ mine yours, owner.session = some mine → other.session = some yours →
    mine.port = yours.port

/-- Where a session stands whose id belongs to `owner`. -/
inductive Phase (owner other : Lane) : List Frame → List Frame → Prop
  | blank (howner : owner.Blank) (hother : other.Blank) : Phase owner other [] []
  /-- The opening of the session is on its way. -/
  | opening {frame : Frame} {later : List Frame} (hbody : frame.body = .control .sessionOpen)
      (hfree : owner.free = false) (hother : other.Blank)
      (hjoint : ∀ next : Lane, next.Begun frame.port → Joint owner next later []) :
      Phase owner other (frame :: later) []
  | joint {there back : List Frame} (hfree : owner.free = false)
      (hjoint : Joint owner other there back) : Phase owner other there back

variable {owner other : Lane} {there back : List Frame}

theorem Joint.works_owner (h : Joint owner other there back) (hfree : owner.free = false)
    (hworks : owner.Works out next) : Joint next other (there ++ out) back where
  there := h.there.works_near hfree hworks
  back := h.back.works_far hfree hworks
  ports mine yours hmine hyours := by
    obtain ⟨before, hbefore, hport⟩ := hworks.port hfree hmine
    rw [hport, h.ports before yours hbefore hyours]

theorem Joint.symm (h : Joint owner other there back) : Joint other owner back there where
  there := h.back
  back := h.there
  ports mine yours hmine hyours := (h.ports yours mine hyours hmine).symm

theorem Joint.receives_other (h : Joint owner other (frame :: there) back)
    (hreceives : other.Receives frame out next) : Joint owner next there (back ++ out) where
  there := h.there.receives_far hreceives
  back := h.there.receives_back h.back hreceives
  ports mine yours hmine hyours := by
    have hplain := h.there.plain frame List.mem_cons_self
    obtain ⟨before, hbefore, hport⟩ := hreceives.port hplain hyours
    rw [hport, h.ports mine before hmine hbefore]

theorem Blank.begins {lane : Lane} (h : lane.Blank) (free : Bool) (port : UInt16) (endpoint : Nat) :
    Begun { lane with free, session := some (.create port endpoint) } port where
  session := ⟨endpoint, rfl⟩
  replies := h.replies
  heard := h.heard
  sent := h.sent

/-- An end that knows nothing of a session can only open it. -/
theorem Blank.works {lane : Lane} (h : lane.Blank) (hworks : lane.Works out next) :
    (out = [] ∧ next.Blank) ∨ ∃ frame endpoint, lane.free = true ∧
      frame.body = .control .sessionOpen ∧ out = [frame] ∧
      next = { lane with free := false, session := some (.create frame.port endpoint) } := by
  have hnone := h.session
  cases hworks with
  | rests => exact Or.inl ⟨rfl, h.session, h.replies, h.heard, h.sent⟩
  | @opens frame endpoint hfree hbody => exact Or.inr ⟨frame, endpoint, hfree, hbody, rfl, rfl⟩
  | sends _ hsession | closes _ hsession | complains _ hsession => simp [hnone] at hsession
  | answers hreplies => simp [h.replies] at hreplies
  | shuts => exact Or.inl ⟨rfl, rfl, h.replies, h.heard, h.sent⟩

theorem follows_of_begun {port : UInt16} (hnear : near.Begun port) (hfar : far.Begun port) :
    Follows near far [] := by
  obtain ⟨endpoint, hsession⟩ := hnear.session
  obtain ⟨endpoint', hsession'⟩ := hfar.session
  exact
    { exact := fun _ => by simp [hnear.sent, hfar.heard]
      streams := by simp [hfar.heard]
      ended := fun hnone => by simp [hsession] at hnone
      alive := fun _ => by simp [hnear.replies]
      bytesOut := fun session heq => by
        rw [hsession, Option.some.injEq] at heq
        subst heq
        simp [hnear.sent, volume, Session.create]
      bytesIn := fun session heq => by
        rw [hsession', Option.some.injEq] at heq
        subst heq
        simp [hfar.heard, volume, Session.create]
      plain := by simp
      replies := by simp [hnear.replies] }

theorem joint_of_begun {port : UInt16} (howner : owner.Begun port) (hother : other.Begun port) :
    Joint owner other [] [] where
  there := follows_of_begun howner hother
  back := follows_of_begun hother howner
  ports mine yours hmine hyours := by
    obtain ⟨endpoint, hsession⟩ := howner.session
    obtain ⟨endpoint', hsession'⟩ := hother.session
    rw [hsession, Option.some.injEq] at hmine
    rw [hsession', Option.some.injEq] at hyours
    rw [← hmine, ← hyours]
    rfl

/-- An end whose channel is closed is as if it had heard of the session and lost it. -/
theorem Joint.drops {port : UInt16} {lane : Lane} (hblank : lane.Blank) (hfree : lane.free = false)
    (hclosed : lane.closed = true)
    (hjoint : ∀ next : Lane, next.Begun port → Joint owner next there back) :
    Joint owner lane there back := by
  have hbegun := hblank.begins lane.free port 0
  have hlost : { lane with closed := true, session := none } = lane := by
    rw [← hclosed, ← hblank.session]
  have hshut := ((hjoint _ hbegun).symm.works_owner hfree .shuts).symm
  rwa [List.append_nil, hlost] at hshut

theorem Phase.works_owner (h : Phase owner other there back) (hworks : owner.Works out next) :
    Phase next other (there ++ out) back := by
  cases h with
  | blank howner hother =>
      rcases howner.works hworks with ⟨rfl, hnext⟩ | ⟨frame, endpoint, -, hbody, rfl, rfl⟩
      · exact .blank hnext hother
      · have hbegun := howner.begins false frame.port endpoint
        exact .opening hbody rfl hother fun next hnext => joint_of_begun hbegun hnext
  | opening hbody hfree hother hjoint =>
      exact .opening hbody (hworks.free hfree) hother fun other hbegun =>
        (hjoint other hbegun).works_owner hfree hworks
  | joint hfree hjoint => exact .joint (hworks.free hfree) (hjoint.works_owner hfree hworks)

theorem Phase.works_other (h : Phase owner other there back) (hother : other.free = false)
    (hworks : other.Works out next) : Phase owner next there (back ++ out) := by
  have hblank : other.Blank → out = [] ∧ next.Blank := by
    intro hblank
    rcases hblank.works hworks with hnext | ⟨frame, endpoint, hfree, -⟩
    · exact hnext
    · rw [hother] at hfree
      cases hfree
  cases h with
  | blank howner hunknown =>
      obtain ⟨rfl, hnext⟩ := hblank hunknown
      exact .blank howner hnext
  | opening hbody hfree hunknown hjoint =>
      obtain ⟨rfl, hnext⟩ := hblank hunknown
      exact .opening hbody hfree hnext hjoint
  | joint hfree hjoint => exact .joint hfree (hjoint.symm.works_owner hother hworks).symm

theorem Phase.receives_other (h : Phase owner other (frame :: there) back)
    (hother : other.free = false) (hreceives : other.Receives frame out next) :
    Phase owner next there (back ++ out) := by
  cases h with
  | opening hbody hfree hunknown hjoint =>
      -- The frame in front is the opening itself: the other end takes it, or is closed already.
      refine .joint hfree ?_
      have hnone := hunknown.session
      cases hreceives with
      | drops hclosed hsession =>
          rw [List.append_nil]
          exact .drops hunknown hother hclosed hjoint
      | admits endpoint =>
          rw [List.append_nil]
          exact hjoint _ (hunknown.begins other.free frame.port endpoint)
      | repeats _ hsession => simp [hnone] at hsession
      | strays hdata | takes hdata | rejects hdata => simp [hbody] at hdata
      | ends hclose => simp [hbody] at hclose
      | ignores _ hopen => exact absurd hbody hopen
  | joint hfree hjoint => exact .joint hfree (hjoint.receives_other hreceives)

theorem Phase.receives_owner (h : Phase owner other there (frame :: back))
    (hreceives : owner.Receives frame out next) : Phase next other (there ++ out) back := by
  cases h with
  | joint hfree hjoint =>
      exact .joint (hreceives.free.trans hfree) (hjoint.symm.receives_other hreceives).symm

/-! ### What the ends know of each other -/

theorem Phase.streams (h : Phase owner other there back) :
    other.heard <+: owner.sent ∧ owner.heard <+: other.sent := by
  cases h with
  | blank howner hother =>
      rw [howner.heard, hother.heard]
      exact ⟨List.nil_prefix, List.nil_prefix⟩
  | @opening frame _ _ _ hother hjoint =>
      have hbegun := hother.begins other.free frame.port 0
      have hback := (hjoint _ hbegun).back.streams
      rw [hother.heard]
      exact ⟨List.nil_prefix, hback⟩
  | joint _ hjoint => exact ⟨hjoint.there.streams, hjoint.back.streams⟩

/-- The other end has the session only if both have heard of it. -/
theorem Phase.joint_of_live (h : Phase owner other there back) (hlive : other.session.isSome) :
    Joint owner other there back := by
  cases h with
  | blank _ hother => simp [hother.session] at hlive
  | opening _ _ hother => simp [hother.session] at hlive
  | joint _ hjoint => exact hjoint

theorem Phase.unknown (h : Phase owner other (frame :: there) back)
    (hbody : frame.body = .control .sessionOpen) : other.session = none := by
  cases h with
  | opening _ _ hother => exact hother.session
  | joint _ hjoint => exact absurd hbody (hjoint.there.plain frame List.mem_cons_self)

theorem Phase.not_open (h : Phase owner other there (frame :: back)) :
    frame.body ≠ .control .sessionOpen := by
  cases h with
  | joint _ hjoint => exact hjoint.back.plain frame List.mem_cons_self

/-- Where nothing is on its way between open channels, the far end has no session that the near end
has not. -/
theorem Follows.session_isSome (h : Follows near far []) (hopen : near.closed = false)
    (hreplies : near.replies = []) (hfar : far.session.isSome) : near.session.isSome := by
  cases hnear : near.session with
  | some session => rfl
  | none =>
      have hended := h.ended hnear hfar
      simp [hopen, hreplies] at hended

/-- Where nothing is on its way between open channels, both ends have the session or neither. -/
theorem Phase.agree (h : Phase owner other [] []) (hopen : owner.closed = false)
    (hopen' : other.closed = false) (hreplies : owner.replies = [])
    (hreplies' : other.replies = []) :
    owner.session.map Session.port = other.session.map Session.port := by
  cases h with
  | blank howner hother => rw [howner.session, hother.session]
  | joint _ hjoint =>
      have hthere := hjoint.there.session_isSome hopen hreplies
      have hback := hjoint.back.session_isSome hopen' hreplies'
      cases howner : owner.session with
      | none =>
          cases hother : other.session with
          | none => rfl
          | some yours => simp [howner, hother] at hthere
      | some mine =>
          cases hother : other.session with
          | none => simp [howner, hother] at hback
          | some yours => exact congrArg some (hjoint.ports mine yours howner hother)

end Lane

end SessionMux
