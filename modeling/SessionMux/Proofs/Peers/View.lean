import SessionMux.Proofs.Peers.Heard

/-!
# The lanes of a ledger

`Ledger.lane` is what a ledger holds of one session. A section of work is seen on every lane as one
of the steps of `Lane.Works`: on the lane of its own session as what it does, on all others as rest.
A frame is heard on the lane of its session, and on no other.
-/

namespace SessionMux

def framesOf (key : UInt32) (frames : List Frame) : List Frame := frames.filter (·.session = key)

theorem framesOf_cons_self (frame : Frame) (rest : List Frame) :
    framesOf frame.session (frame :: rest) = frame :: framesOf frame.session rest :=
  List.filter_cons_of_pos (by simp)

theorem framesOf_cons_of_ne {key : UInt32} {frame : Frame} (hne : frame.session ≠ key)
    (rest : List Frame) : framesOf key (frame :: rest) = framesOf key rest :=
  List.filter_cons_of_neg (by simp [hne])

def sentOn (key : UInt32) (log : List (UInt32 × Bytes)) : List Bytes :=
  (log.filter (·.1 = key)).map (·.2)

namespace Ledger

def lane (ledger : Ledger) (log : List (UInt32 × Bytes)) (key : UInt32) : Lane where
  free := decide (ledger.nextSession ≤ key.toNat ∧ key.toNat % 2 = ledger.nextSession % 2)
  closed := ledger.closed
  session := ledger.sessions.find? key
  replies := framesOf key ledger.replies
  heard := ledger.heard key
  sent := sentOn key log

structure Sound (ledger : Ledger) : Prop where
  truthful : ledger.Truthful
  homed : ledger.Homed
  draining : ledger.draining = true

variable {ledger next : Ledger} {log : List (UInt32 × Bytes)} {key id : UInt32} {session : Session}
  {frame : Frame}

@[simp]
theorem lane_publish (change : Change) :
    (ledger.publish change).lane log key = ledger.lane log key :=
  rfl

@[simp]
theorem lane_push (frame : Frame) : (ledger.push frame).lane log key = ledger.lane log key := rfl

/-! ### The end of sessions -/

/-- Ending a session concerns the table, the endpoints and the trace. -/
theorem remove_eq (ledger : Ledger) (id : UInt32) : ∃ sessions endpoints changes,
    ledger.remove id = { ledger with sessions, endpoints, changes } := by
  unfold remove
  split
  · exact ⟨_, _, _, rfl⟩
  · exact ⟨_, _, _, rfl⟩

@[simp]
theorem frames_remove (ledger : Ledger) (id : UInt32) :
    (ledger.remove id).frames = ledger.frames := by
  obtain ⟨sessions, endpoints, changes, hremove⟩ := ledger.remove_eq id
  rw [hremove]

@[simp]
theorem draining_remove (ledger : Ledger) (id : UInt32) :
    (ledger.remove id).draining = ledger.draining := by
  obtain ⟨sessions, endpoints, changes, hremove⟩ := ledger.remove_eq id
  rw [hremove]

@[simp]
theorem nextSession_remove (ledger : Ledger) (id : UInt32) :
    (ledger.remove id).nextSession = ledger.nextSession := by
  obtain ⟨sessions, endpoints, changes, hremove⟩ := ledger.remove_eq id
  rw [hremove]

theorem foldl_remove_eq (ids : List UInt32) (ledger : Ledger) : ∃ sessions endpoints changes,
    ids.foldl remove ledger = { ledger with sessions, endpoints, changes } ∧
      ∀ key, (ids.foldl remove ledger).heard key = ledger.heard key := by
  induction ids generalizing ledger with
  | nil => exact ⟨_, _, _, rfl, fun _ => rfl⟩
  | cons id ids ih =>
      obtain ⟨sessions, endpoints, changes, hrest, hheard⟩ := ih (ledger.remove id)
      obtain ⟨sessions', endpoints', changes', hfirst⟩ := ledger.remove_eq id
      refine ⟨sessions, endpoints, changes, ?_, fun key => ?_⟩
      · rw [List.foldl_cons, hrest, hfirst]
      · rw [List.foldl_cons, hheard, heard_remove]

theorem lane_remove (id : UInt32) :
    (ledger.remove id).lane log key =
      { ledger.lane log key with
        session := if key = id then none else ledger.sessions.find? key } := by
  obtain ⟨sessions, endpoints, changes, hremove⟩ := ledger.remove_eq id
  apply Lane.ext
  · simp only [lane, hremove]
  · simp only [lane, hremove]
  · exact ledger.find?_remove id key
  · simp only [lane, hremove]
  · exact heard_remove id key
  · rfl

theorem lane_remove_of_ne (hne : id ≠ key) :
    (ledger.remove id).lane log key = ledger.lane log key := by
  rw [lane_remove, if_neg (Ne.symm hne)]
  rfl

theorem lane_close (hrun : Trace.Running ledger.changes ledger.sessions)
    (log : List (UInt32 × Bytes)) (key : UInt32) :
    ledger.close.lane log key = { ledger.lane log key with closed := true, session := none } ∧
      ledger.close.frames = ledger.frames := by
  obtain ⟨-, hempty, hclosed, -⟩ := close_of_running hrun
  obtain ⟨sessions, endpoints, changes, hended, hheard⟩ :=
    foldl_remove_eq ledger.sessions.ids { ledger with closed := true }
  refine ⟨?_, by rw [close, hended]; rfl⟩
  apply Lane.ext
  · simp only [lane, close, hended, publish]
  · exact hclosed
  · simp only [lane, hempty]
    rfl
  · simp only [lane, close, hended, publish]
  · exact hheard key
  · rfl

/-! ### Sessions that go on -/

theorem lane_tell_of_none {message : Message} (hmessage : message.payload? = none) (place : Nat) :
    (ledger.tell place message).lane log key = ledger.lane log key :=
  Lane.ext rfl rfl rfl rfl (heard_tell_of_none hmessage place key) rfl

theorem lane_add (id : UInt32) (port : UInt16) :
    (ledger.add id port).lane log key =
      { ledger.lane log key with
        session :=
          if key = id then some (.create port ledger.endpoints.length)
          else ledger.sessions.find? key } := by
  apply Lane.ext
  · rfl
  · rfl
  · exact Sessions.find?_insert ledger.sessions id key _
  · rfl
  · by_cases heq : id = key <;> simp [lane, heard, Ledger.add, publish, heq]
  · rfl

theorem lane_receive (h : ledger.Homed) (hfind : ledger.sessions.find? id = some session)
    (payload : Bytes) :
    (ledger.receive id session payload).lane log key =
      if key = id then
        { ledger.lane log key with
          session := some { session with bytesIn := session.bytesIn + payload.length }
          heard := ledger.heard key ++ [payload] }
      else ledger.lane log key := by
  have hsessions := Sessions.find?_insert ledger.sessions id key
    { session with bytesIn := session.bytesIn + payload.length }
  have hheard := heard_tell h hfind payload key
  split_ifs with heq
  · subst heq
    rw [if_pos rfl] at hsessions hheard
    exact Lane.ext rfl rfl hsessions rfl hheard rfl
  · rw [if_neg heq] at hsessions hheard
    exact Lane.ext rfl rfl hsessions rfl hheard rfl

theorem sentOn_concat (log : List (UInt32 × Bytes)) (id key : UInt32) (payload : Bytes) :
    sentOn key (log ++ [(id, payload)]) =
      sentOn key log ++ if id = key then [payload] else [] := by
  by_cases heq : id = key <;> simp [sentOn, heq]

theorem lane_send (id : UInt32) (session : Session) (payload : Bytes) :
    (ledger.send id session payload).lane (log ++ [(id, payload)]) key =
      if key = id then
        { ledger.lane log key with
          session := some { session with bytesOut := session.bytesOut + payload.length }
          sent := sentOn key log ++ [payload] }
      else ledger.lane log key := by
  have hsessions := Sessions.find?_insert ledger.sessions id key
    { session with bytesOut := session.bytesOut + payload.length }
  have hsent := sentOn_concat log id key payload
  split_ifs with heq
  · subst heq
    rw [if_pos rfl] at hsessions hsent
    exact Lane.ext rfl rfl hsessions rfl rfl hsent
  · rw [if_neg heq] at hsessions
    rw [if_neg (Ne.symm heq), List.append_nil] at hsent
    exact Lane.ext rfl rfl hsessions rfl rfl hsent

/-! ### Sections of work -/

theorem works_refl (lane : Lane) : lane.Works [] lane := .rests fun hfree => hfree

/-- A frame goes into the queue: it is seen on the lane of its session, and on no other. -/
theorem works_push (hdraining : ledger.draining = true) {lane lane' : Lane}
    (hself : frame.session = key → lane.Works [frame] lane')
    (hother : frame.session ≠ key → lane.Works [] lane') :
    ∃ out, framesOf key (ledger.push frame).frames = framesOf key ledger.frames ++ out ∧
      lane.Works out lane' := by
  by_cases heq : frame.session = key
  · exact ⟨[frame], by simp [push, hdraining, framesOf, heq], hself heq⟩
  · exact ⟨[], by simp [push, hdraining, framesOf, heq], hother heq⟩

/-- The search for an id goes on behind those it has passed, in steps of two. -/
theorem free_of_later {id : UInt32} {before later : Nat} (hlater : before ≤ later)
    (hparity : later % 2 = before % 2)
    (hfree : decide (later ≤ id.toNat ∧ id.toNat % 2 = later % 2) = true) :
    decide (before ≤ id.toNat ∧ id.toNat % 2 = before % 2) = true := by
  rw [decide_eq_true_iff] at hfree ⊢
  omega

/-- **A section of work on a lane.** -/
theorem Works.lane {sent : Option (UInt32 × Bytes)} (hworks : ledger.Works sent next)
    (h : ledger.Sound) (log : List (UInt32 × Bytes)) (key : UInt32) :
    ∃ out, framesOf key next.frames = framesOf key ledger.frames ++ out ∧
      (ledger.lane log key).Works out (next.lane (log ++ sent.toList) key) := by
  cases hworks with
  | rests => exact ⟨[], by simp, by simpa using works_refl _⟩
  | @sends id session payload hopen hfind =>
      rw [Option.toList_some, lane_send]
      refine works_push h.draining (fun heq => ?_) fun hne => ?_
      · rw [if_pos heq.symm]
        subst heq
        exact .sends rfl hfind
      · rw [if_neg (Ne.symm hne)]
        exact works_refl _
  | @opens id port hopen hfind hnext hparity =>
      rw [Option.toList_none, List.append_nil, lane_push, lane_add]
      refine works_push h.draining (fun heq => ?_) fun hne => ?_
      · subst heq
        have hfree : (ledger.lane log id).free = true := decide_eq_true ⟨hnext, hparity⟩
        have hspent : Ledger.lane { ledger with nextSession := id.toNat + 2 } log id =
            { ledger.lane log id with free := false } :=
          Lane.ext (decide_eq_false (by simp)) rfl rfl rfl rfl rfl
        rw [if_pos rfl, hspent]
        exact .opens _ hfree rfl
      · -- Another session only learns that the search for ids has come further.
        have hless : ledger.nextSession ≤ id.toNat + 2 := by omega
        have hsame : (id.toNat + 2) % 2 = ledger.nextSession % 2 := by omega
        rw [if_neg (Ne.symm hne)]
        exact .rests (free_of_later hless hsame)
  | exhausts hnext hparity =>
      refine ⟨[], by simp, ?_⟩
      rw [Option.toList_none, List.append_nil]
      exact .rests (free_of_later hnext hparity)
  | @closes id session hopen hfind =>
      have hdraining : (ledger.remove id).draining = true := by rw [draining_remove, h.draining]
      rw [Option.toList_none, List.append_nil, lane_push, ← frames_remove ledger id]
      refine works_push hdraining (fun heq => ?_) fun hne => ?_
      · subst heq
        rw [lane_remove, if_pos rfl]
        exact .closes rfl hfind
      · rw [lane_remove_of_ne hne]
        exact works_refl _
  | @complains id session code hopen hfind =>
      rw [Option.toList_none, List.append_nil, lane_publish, lane_push]
      refine works_push h.draining (fun heq => ?_) fun _ => works_refl _
      subst heq
      exact .complains rfl hfind
  | @answers front rear frame hreplies =>
      rw [Option.toList_none, List.append_nil, lane_push]
      refine works_push h.draining (fun heq => ?_) fun hne => ?_
      · have hbefore : (ledger.lane log key).replies =
            framesOf key front ++ frame :: framesOf key rear := by
          simp [Ledger.lane, hreplies, framesOf, heq]
        have hafter : Ledger.lane { ledger with replies := front ++ rear } log key =
            { ledger.lane log key with replies := framesOf key front ++ framesOf key rear } :=
          Lane.ext rfl rfl rfl (by simp [Ledger.lane, framesOf]) rfl rfl
        rw [hafter]
        exact .answers hbefore
      · have hafter : Ledger.lane { ledger with replies := front ++ rear } log key =
            ledger.lane log key :=
          Lane.ext rfl rfl rfl (by simp [Ledger.lane, hreplies, framesOf, hne]) rfl rfl
        rw [hafter]
        exact works_refl _
  | shuts hopen =>
      obtain ⟨hlane, hframes⟩ := lane_close (h.truthful.running hopen).1 log key
      refine ⟨[], by rw [hframes, List.append_nil], ?_⟩
      rw [Option.toList_none, List.append_nil, hlane]
      exact .shuts
  | fails code message hopen =>
      have hrun := (h.truthful.running hopen).1.report { code, level := .critical, message }
      obtain ⟨hlane, hframes⟩ :=
        lane_close (by exact hrun : Trace.Running (ledger.publish _).changes _) log key
      refine ⟨[], by rw [hframes, List.append_nil]; rfl, ?_⟩
      rw [Option.toList_none, List.append_nil, hlane]
      exact .shuts

/-! ### Frames of the peer -/

theorem Replies.lane (hreply : ledger.Replies frame next) (hdraining : ledger.draining = true)
    (log : List (UInt32 × Bytes)) :
    ∃ out later, framesOf frame.session next.frames = framesOf frame.session ledger.frames ++ out ∧
      next.lane log frame.session = { ledger.lane log frame.session with replies := later } ∧
      Lane.Replies (ledger.lane log frame.session).replies frame out later := by
  rcases hreply with rfl | ⟨-, rfl⟩
  · exact ⟨[frame], _, by simp [push, hdraining, framesOf], rfl, Or.inl ⟨rfl, rfl⟩⟩
  · refine ⟨[], _, by simp [defer], ?_, Or.inr ⟨rfl, rfl⟩⟩
    exact Lane.ext rfl rfl rfl (by simp [Ledger.lane, defer, framesOf]) rfl rfl

theorem Replies.lane_of_ne (hreply : ledger.Replies frame next) (hne : frame.session ≠ key)
    (log : List (UInt32 × Bytes)) :
    framesOf key next.frames = framesOf key ledger.frames ∧
      next.lane log key = ledger.lane log key := by
  rcases hreply with rfl | ⟨-, rfl⟩
  · refine ⟨?_, rfl⟩
    by_cases hdraining : ledger.draining <;> simp [push, hdraining, framesOf, hne]
  · refine ⟨rfl, ?_⟩
    exact Lane.ext rfl rfl rfl (by simp [Ledger.lane, defer, framesOf, hne]) rfl rfl

/-- **A frame on the lane of its session**, where every session that the peer opens is taken. -/
theorem Receives.lane {kind : EndpointKind} (hreceives : ledger.Receives frame (.ok kind) next)
    (h : ledger.Sound) (log : List (UInt32 × Bytes)) :
    ∃ out, framesOf frame.session next.frames = framesOf frame.session ledger.frames ++ out ∧
      (ledger.lane log frame.session).Receives frame out (next.lane log frame.session) := by
  cases hreceives with
  | drops hclosed =>
      have hempty := (h.truthful.ended hclosed).2.1
      refine ⟨[], by simp, .drops hclosed ?_⟩
      simp [Ledger.lane, hempty]
  | strays hopen hbody hfind => exact ⟨[], by simp [publish], .strays hbody hfind⟩
  | takes hopen hbody hfind =>
      refine ⟨[], by simp [receive, publish, tell], ?_⟩
      rw [lane_receive h.homed hfind, if_pos rfl]
      exact .takes hbody hfind
  | @rejects payload session error next hopen hbody hfind hreply =>
      obtain ⟨out, later, hframes, hlane, hlater⟩ := hreply.lane (by
        rw [draining_remove]
        exact h.draining) log
      rw [frames_remove] at hframes
      refine ⟨out, hframes, ?_⟩
      rw [lane_remove, lane_publish, lane_receive h.homed hfind, if_pos rfl, if_pos rfl]
        at hlane hlater
      rw [hlane]
      exact .rejects hbody hfind rfl hlater
  | repeats hopen hbody hfind => exact ⟨[], by simp, .repeats hbody hfind⟩
  | conflicts hopen hbody hfind => exact ⟨[], by simp [publish], .repeats hbody hfind⟩
  | admits hopen hbody hfind =>
      refine ⟨[], by simp [Ledger.add, publish], ?_⟩
      rw [lane_add, if_pos rfl]
      exact .admits _ hbody hfind
  | refuses hopen hbody hfind hadmission => cases hadmission
  | ends hopen hbody hreply =>
      obtain ⟨out, later, hframes, hlane, hlater⟩ := hreply.lane (by
        rw [draining_remove]
        exact h.draining) log
      rw [frames_remove] at hframes
      refine ⟨out, hframes, ?_⟩
      rw [lane_remove, if_pos rfl] at hlane hlater
      rw [hlane]
      exact .ends hbody rfl hlater
  | acknowledges hopen hbody =>
      exact ⟨[], by simp, .ignores (by simp [Frame.payload?, hbody]) (by simp [hbody])
        (by simp [hbody])⟩
  | misreads hopen hbody =>
      exact ⟨[], by simp [publish], .ignores (by simp [Frame.payload?, hbody]) (by simp [hbody])
        (by simp [hbody])⟩
  | warns hopen hbody hfind =>
      refine ⟨[], by simp [publish, tell], ?_⟩
      rw [lane_publish, lane_tell_of_none rfl]
      exact .ignores (by simp [Frame.payload?, hbody]) (by simp [hbody]) (by simp [hbody])
  | notes hopen hbody hfind =>
      exact ⟨[], by simp [publish], .ignores (by simp [Frame.payload?, hbody]) (by simp [hbody])
        (by simp [hbody])⟩

theorem Receives.lane_of_ne {admission : Admission}
    (hreceives : ledger.Receives frame admission next)
    (h : ledger.Sound) (hne : frame.session ≠ key) (log : List (UInt32 × Bytes)) :
    framesOf key next.frames = framesOf key ledger.frames ∧
      next.lane log key = ledger.lane log key := by
  cases hreceives with
  | drops | repeats | acknowledges | strays | conflicts | misreads | notes => exact ⟨rfl, rfl⟩
  | takes hopen hbody hfind =>
      refine ⟨rfl, ?_⟩
      rw [lane_receive h.homed hfind, if_neg (Ne.symm hne)]
  | @rejects payload session error next hopen hbody hfind hreply =>
      obtain ⟨hframes, hlane⟩ := hreply.lane_of_ne hne log
      rw [frames_remove] at hframes
      rw [lane_remove_of_ne hne, lane_publish, lane_receive h.homed hfind,
        if_neg (Ne.symm hne)] at hlane
      exact ⟨hframes, hlane⟩
  | admits hopen hbody hfind =>
      refine ⟨rfl, ?_⟩
      rw [lane_add, if_neg (Ne.symm hne)]
      rfl
  | refuses hopen hbody hfind hadmission hreply => exact hreply.lane_of_ne hne log
  | ends hopen hbody hreply =>
      obtain ⟨hframes, hlane⟩ := hreply.lane_of_ne hne log
      rw [frames_remove] at hframes
      rw [lane_remove_of_ne hne] at hlane
      exact ⟨hframes, hlane⟩
  | warns hopen hbody hfind =>
      refine ⟨rfl, ?_⟩
      rw [lane_publish, lane_tell_of_none rfl]

/-! ### Ledgers stay sound -/

theorem Replies.same (hreply : ledger.Replies frame next) :
    next.draining = ledger.draining ∧ next.nextSession = ledger.nextSession := by
  rcases hreply with rfl | ⟨-, rfl⟩ <;> exact ⟨rfl, rfl⟩

theorem same_close (ledger : Ledger) :
    ledger.close.draining = ledger.draining ∧ ledger.close.nextSession = ledger.nextSession := by
  obtain ⟨sessions, endpoints, changes, hended, -⟩ :=
    foldl_remove_eq ledger.sessions.ids { ledger with closed := true }
  rw [close, hended]
  exact ⟨rfl, rfl⟩

theorem Works.sound {sent : Option (UInt32 × Bytes)} (hworks : ledger.Works sent next)
    (h : ledger.Sound) : next.Sound where
  truthful := hworks.truthful h.truthful
  homed := hworks.homed h.homed
  draining := by
    cases hworks with
    | rests | sends | opens | exhausts | complains | answers => exact h.draining
    | closes => exact (draining_remove _ _).trans h.draining
    | shuts | fails => exact (same_close _).1.trans h.draining

theorem Receives.sound {admission : Admission} (hreceives : ledger.Receives frame admission next)
    (h : ledger.Sound) : next.Sound where
  truthful := hreceives.truthful h.truthful
  homed := hreceives.homed h.homed
  draining := by
    cases hreceives with
    | drops | strays | takes | repeats | conflicts | admits | acknowledges | misreads | warns
    | notes => exact h.draining
    | rejects _ _ _ _ hreply | ends _ _ hreply =>
        rw [hreply.same.1, draining_remove]
        exact h.draining
    | refuses _ _ _ _ hreply => exact hreply.same.1.trans h.draining

/-- An end opens sessions of one parity only. -/
theorem Works.parity {sent : Option (UInt32 × Bytes)} (hworks : ledger.Works sent next) :
    next.nextSession % 2 = ledger.nextSession % 2 := by
  cases hworks with
  | rests | sends | complains | answers => rfl
  | @opens id port hopen hfind hnext hparity => exact (Nat.add_mod_right id.toNat 2).trans hparity
  | exhausts hnext hparity => exact hparity
  | closes => exact congrArg (· % 2) (nextSession_remove _ _)
  | shuts | fails => exact congrArg (· % 2) (same_close _).2

theorem Receives.nextSession {admission : Admission}
    (hreceives : ledger.Receives frame admission next) : next.nextSession = ledger.nextSession := by
  cases hreceives with
  | drops | strays | takes | repeats | conflicts | admits | acknowledges | misreads | warns
  | notes => rfl
  | rejects _ _ _ _ hreply | ends _ _ hreply =>
      exact hreply.same.2.trans (nextSession_remove _ _)
  | refuses _ _ _ _ hreply => exact hreply.same.2

end Ledger

end SessionMux
