import SessionMux.Proofs.Channel.Trace

/-!
# The trace of a channel is well formed

`Ledger.Truthful` is the invariant of a ledger with its trace: while the channel is open the trace
runs in step with the table, and once it is closed the trace is complete and the table empty. Each
section of work and each frame of the peer keeps it (`Ledger.Works.truthful`,
`Ledger.Receives.truthful`).
-/

namespace SessionMux.Ledger

open Trace

structure Truthful (ledger : Ledger) : Prop where
  running : ledger.closed = false → Running ledger.changes ledger.sessions ∧ Calm ledger.changes
  ended : ledger.closed = true →
    WellFormed ledger.changes ∧ ledger.sessions = .empty ∧ ∀ id, ¬ Live ledger.changes id

variable {ledger next : Ledger} {id : UInt32} {session : Session}

theorem Truthful.wellFormed (h : ledger.Truthful) : WellFormed ledger.changes := by
  cases hclosed : ledger.closed with
  | false =>
      obtain ⟨hrun, hcalm⟩ := h.running hclosed
      exact hcalm.wellFormed hrun.orderly
  | true => exact (h.ended hclosed).1

theorem Truthful.live_iff (h : ledger.Truthful) (id : UInt32) :
    Live ledger.changes id ↔ ledger.sessions.contains id = true := by
  cases hclosed : ledger.closed with
  | false => exact (h.running hclosed).1.live_iff id
  | true =>
      obtain ⟨-, hempty, hdead⟩ := h.ended hclosed
      simp [hempty, hdead id, Sessions.contains]

/-- The invariant reads the table, the trace and whether the channel is closed, and no more. -/
theorem Truthful.congr (h : ledger.Truthful) (hclosed : next.closed = ledger.closed)
    (hsessions : next.sessions = ledger.sessions) (hchanges : next.changes = ledger.changes) :
    next.Truthful where
  running := by
    rw [hclosed, hsessions, hchanges]
    exact h.running
  ended := by
    rw [hclosed, hsessions, hchanges]
    exact h.ended

theorem truthful_of_running (hopen : ledger.closed = false)
    (hrun : Running ledger.changes ledger.sessions) (hcalm : Calm ledger.changes) :
    ledger.Truthful where
  running _ := ⟨hrun, hcalm⟩
  ended hclosed := by
    rw [hopen] at hclosed
    cases hclosed

theorem truthful_of_closed (hclosed : ledger.closed = true) (hwell : WellFormed ledger.changes)
    (hempty : ledger.sessions = .empty) (hdead : ∀ id, ¬ Live ledger.changes id) :
    ledger.Truthful where
  running hopen := by
    rw [hclosed] at hopen
    cases hopen
  ended _ := ⟨hwell, hempty, hdead⟩

theorem calm_singleton {change : Change} (hchange : ∀ report, change = .channelError report →
    report.level ≠ .critical) : Calm [change] := fun report hmem =>
  hchange report (List.mem_singleton.mp hmem).symm

/-! ### The parts of a section of work -/

/-- An error of the channel that is not fatal. -/
theorem Truthful.publish_error (h : ledger.Truthful) (hopen : ledger.closed = false)
    {report : ErrorReport} (hlevel : report.level ≠ .critical) :
    (ledger.publish (.channelError report)).Truthful := by
  obtain ⟨hrun, hcalm⟩ := h.running hopen
  refine truthful_of_running hopen (hrun.report report) ?_
  refine hcalm.append (calm_singleton fun other heq => ?_)
  cases heq
  exact hlevel

/-- Something that happens to a live session. -/
theorem Truthful.publish_activity (h : ledger.Truthful) (hopen : ledger.closed = false)
    (hfind : ledger.sessions.find? id = some session) {change : Change}
    (hactivity : change.isActivity = true) (hid : change.session? = some id) :
    (ledger.publish change).Truthful := by
  obtain ⟨hrun, hcalm⟩ := h.running hopen
  have hlive := hrun.live hfind
  cases change with
  | sessionError other report =>
      cases hid
      exact truthful_of_running hopen (hrun.concat hlive (fun _ => rfl) nofun)
        (hcalm.append (calm_singleton nofun))
  | sessionTransaction other bytesIn bytesOut =>
      cases hid
      exact truthful_of_running hopen (hrun.concat hlive (fun _ => rfl) nofun)
        (hcalm.append (calm_singleton nofun))
  | channelCreate | channelClose | channelError | sessionCreate | sessionClose => cases hactivity

theorem Truthful.insert (h : ledger.Truthful) (hopen : ledger.closed = false)
    (hfind : ledger.sessions.find? id = some session) (entry : Session) :
    { ledger with sessions := ledger.sessions.insert id entry }.Truthful := by
  obtain ⟨hrun, hcalm⟩ := h.running hopen
  exact truthful_of_running hopen (hrun.insert hfind entry) hcalm

theorem Truthful.add (h : ledger.Truthful) (hopen : ledger.closed = false)
    (hfind : ledger.sessions.find? id = none) (port : UInt16) : (ledger.add id port).Truthful := by
  obtain ⟨hrun, hcalm⟩ := h.running hopen
  exact truthful_of_running hopen (hrun.add hfind port _) (hcalm.append (calm_singleton nofun))

theorem remove_of_find? (hfind : ledger.sessions.find? id = some session) :
    ledger.remove id =
      { ledger.tell session.endpoint .closed with sessions := ledger.sessions.erase id }.publish
        (.sessionClose id) := by
  rw [remove, hfind]

@[simp]
theorem find?_remove (ledger : Ledger) (id key : UInt32) :
    (ledger.remove id).sessions.find? key =
      if key = id then none else ledger.sessions.find? key := by
  cases hfind : ledger.sessions.find? id with
  | none =>
      rw [remove, hfind]
      split_ifs with heq
      · rw [heq]
        exact hfind
      · rfl
  | some session =>
      rw [remove_of_find? hfind]
      exact Sessions.find?_erase ledger.sessions id key

theorem Truthful.remove (h : ledger.Truthful) (hopen : ledger.closed = false) (id : UInt32) :
    (ledger.remove id).Truthful := by
  obtain ⟨hrun, hcalm⟩ := h.running hopen
  cases hfind : ledger.sessions.find? id with
  | none =>
      rw [Ledger.remove, hfind]
      exact h
  | some session =>
      rw [remove_of_find? hfind]
      exact truthful_of_running hopen (hrun.remove hfind) (hcalm.append (calm_singleton nofun))

theorem Truthful.push (h : ledger.Truthful) (frame : Frame) : (ledger.push frame).Truthful :=
  h.congr rfl rfl rfl

theorem Truthful.replies (h : ledger.Truthful) {frame : Frame}
    (hreply : ledger.Replies frame next) : next.Truthful := by
  rcases hreply with rfl | ⟨-, rfl⟩
  · exact h.push frame
  · exact h.congr rfl rfl rfl

@[simp]
theorem closed_remove (ledger : Ledger) (id : UInt32) :
    (ledger.remove id).closed = ledger.closed := by
  unfold remove
  split <;> rfl

theorem Replies.closed {frame : Frame} (hreply : ledger.Replies frame next) :
    next.closed = ledger.closed := by
  rcases hreply with rfl | ⟨-, rfl⟩ <;> rfl

/-! ### The end of a channel -/

theorem find?_foldl_remove (ids : List UInt32) (ledger : Ledger) (key : UInt32) :
    (ids.foldl remove ledger).sessions.find? key =
      if key ∈ ids then none else ledger.sessions.find? key := by
  induction ids generalizing ledger with
  | nil => rfl
  | cons id ids ih =>
      rw [List.foldl_cons, ih, find?_remove]
      by_cases hmem : key ∈ ids <;> by_cases heq : key = id <;> simp [hmem, heq]

theorem find?_close (ledger : Ledger) (key : UInt32) : ledger.close.sessions.find? key = none := by
  have hended := find?_foldl_remove ledger.sessions.ids { ledger with closed := true } key
  refine Eq.trans hended ?_
  split_ifs with hmem
  · rfl
  · exact Sessions.find?_eq_none_iff.mpr hmem

/-- Ending sessions that are all in the table reports the end of each. -/
theorem foldl_remove (ids : List UInt32) (ledger : Ledger)
    (hrun : Running ledger.changes ledger.sessions) (hnodup : ids.Nodup)
    (hids : ∀ id ∈ ids, ledger.sessions.contains id = true) :
    Running (ids.foldl remove ledger).changes (ids.foldl remove ledger).sessions ∧
      (ids.foldl remove ledger).changes = ledger.changes ++ ids.map .sessionClose ∧
      (ids.foldl remove ledger).closed = ledger.closed := by
  -- A session that was ended is in the table no more, so no id may come twice.
  induction ids generalizing ledger with
  | nil => simp [hrun]
  | cons id ids ih =>
      obtain ⟨session, hfind⟩ := Sessions.contains_iff.mp (hids id List.mem_cons_self)
      obtain ⟨hnotMem, hnodup⟩ := List.nodup_cons.mp hnodup
      have hrest : ∀ other ∈ ids, (ledger.remove id).sessions.contains other = true := by
        intro other hmem
        have hne : other ≠ id := fun heq => hnotMem (heq ▸ hmem)
        rw [Sessions.contains, find?_remove, if_neg hne]
        exact hids other (List.mem_cons_of_mem _ hmem)
      have hremoved : Running (ledger.remove id).changes (ledger.remove id).sessions := by
        rw [remove_of_find? hfind]
        exact hrun.remove hfind
      obtain ⟨hrun', hchanges, hclosed⟩ := ih (ledger.remove id) hremoved hnodup hrest
      rw [List.foldl_cons]
      refine ⟨hrun', ?_, ?_⟩
      · rw [hchanges, remove_of_find? hfind, List.map_cons]
        simp [publish, tell]
      · rw [hclosed, closed_remove]

/-- Closing a channel reports the end of every session, by rising id, and then its own. -/
theorem close_of_running (hrun : Running ledger.changes ledger.sessions) :
    ledger.close.changes = ledger.changes ++ (ledger.sessions.ids.map .sessionClose ++
        [.channelClose]) ∧
      ledger.close.sessions = .empty ∧ ledger.close.closed = true ∧
      Orderly ledger.close.changes := by
  have hids : ∀ id ∈ ledger.sessions.ids, ledger.sessions.contains id = true := fun id hmem =>
    Sessions.contains_iff_mem_ids.mpr hmem
  obtain ⟨hrun', hchanges, hclosed⟩ := foldl_remove ledger.sessions.ids
    { ledger with closed := true } hrun hrun.sorted.nodup hids
  have hempty := Sessions.eq_empty_of_find? ledger.find?_close
  refine ⟨?_, hempty, hclosed, ?_⟩
  · rw [close, publish, hchanges, List.append_assoc]
  · refine hrun'.orderly.concat hrun'.running fun id hlive => ?_
    have hcontains := (hrun'.live_iff id).mp hlive
    change ledger.close.sessions.contains id = true at hcontains
    rw [hempty] at hcontains
    cases hcontains

theorem not_live_of_ending {changes : List Change} {ids : List UInt32}
    (horderly : Orderly (changes ++ (ids.map .sessionClose ++ [.channelClose]))) (id : UInt32) :
    ¬ Live (changes ++ (ids.map .sessionClose ++ [.channelClose])) id := by
  rw [← List.append_assoc] at horderly ⊢
  rw [live_concat_of_none rfl]
  exact (horderly.closing _ [] rfl).2 id

theorem Truthful.close (h : ledger.Truthful) (hopen : ledger.closed = false) :
    ledger.close.Truthful := by
  obtain ⟨hrun, hcalm⟩ := h.running hopen
  obtain ⟨hchanges, hempty, hclosed, horderly⟩ := close_of_running hrun
  rw [hchanges] at horderly
  refine truthful_of_closed hclosed ?_ hempty ?_ <;> rw [hchanges]
  · exact (hcalm.append (calm_ending _)).wellFormed horderly
  · exact not_live_of_ending horderly

theorem Truthful.fail (h : ledger.Truthful) (hopen : ledger.closed = false) (report : ErrorReport) :
    (ledger.publish (.channelError report)).close.Truthful := by
  obtain ⟨hrun, hcalm⟩ := h.running hopen
  have hfatal : Running (ledger.publish (.channelError report)).changes
      (ledger.publish (.channelError report)).sessions :=
    hrun.report report
  obtain ⟨hchanges, hempty, hclosed, horderly⟩ := close_of_running hfatal
  rw [hchanges] at horderly
  refine truthful_of_closed hclosed ?_ hempty ?_ <;> rw [hchanges]
  · simp only [publish, List.append_assoc, List.singleton_append] at horderly ⊢
    refine wellFormed_of_fatal horderly hcalm hrun.sorted fun id => ?_
    rw [hrun.live_iff, Sessions.contains_iff_mem_ids]
  · exact not_live_of_ending horderly

/-! ### Sections of work and frames -/

/-- Bytes of a live session are counted and reported. -/
theorem Truthful.count (h : ledger.Truthful) (hopen : ledger.closed = false)
    (hfind : ledger.sessions.find? id = some session) (entry : Session) (bytesIn bytesOut : Nat) :
    ({ ledger with sessions := ledger.sessions.insert id entry }.publish
      (.sessionTransaction id bytesIn bytesOut)).Truthful := by
  have hfound : (ledger.sessions.insert id entry).find? id = some entry :=
    (Sessions.find?_insert _ _ _ _).trans (if_pos rfl)
  exact (h.insert hopen hfind entry).publish_activity hopen hfound rfl rfl

theorem Works.truthful {sent : Option (UInt32 × Bytes)} (hworks : ledger.Works sent next)
    (h : ledger.Truthful) : next.Truthful := by
  cases hworks with
  | rests => exact h
  | sends payload hopen hfind => exact (h.count hopen hfind _ 0 payload.length).congr rfl rfl rfl
  | @opens id port hopen hfind hnext hparity =>
      have hmoved : Truthful { ledger with nextSession := id.toNat + 2 } := h.congr rfl rfl rfl
      exact (hmoved.add hopen hfind port).push _
  | exhausts => exact h.congr rfl rfl rfl
  | closes hopen hfind => exact (h.remove hopen _).push _
  | complains code hopen hfind => exact (h.push _).publish_activity hopen hfind rfl rfl
  | answers => exact h.congr rfl rfl rfl
  | shuts hopen => exact h.close hopen
  | fails code message hopen => exact h.fail hopen _

/-- No frame closes a channel. -/
theorem Receives.closed {frame : Frame} {admission : Admission}
    (hreceives : ledger.Receives frame admission next) : next.closed = ledger.closed := by
  cases hreceives with
  | drops | strays | takes | repeats | conflicts | admits | acknowledges | misreads | warns
  | notes => rfl
  | rejects error hopen hbody hfind hreply =>
      rw [hreply.closed, closed_remove]
      rfl
  | refuses hopen hbody hfind hadmission hreply => exact hreply.closed
  | ends hopen hbody hreply => rw [hreply.closed, closed_remove]

theorem Receives.truthful {frame : Frame} {admission : Admission}
    (hreceives : ledger.Receives frame admission next) (h : ledger.Truthful) : next.Truthful := by
  cases hreceives with
  | drops | repeats | acknowledges => exact h
  | strays hopen | conflicts hopen | misreads hopen | notes hopen =>
      exact h.publish_error hopen nofun
  | takes hopen hbody hfind => exact (h.count hopen hfind _ _ 0).congr rfl rfl rfl
  | @rejects payload session error next hopen hbody hfind hreply =>
      have hreceived : (ledger.receive frame.session session payload).Truthful :=
        (h.count hopen hfind _ payload.length 0).congr rfl rfl rfl
      have hfound : (ledger.receive frame.session session payload).sessions.find? frame.session =
          some { session with bytesIn := session.bytesIn + payload.length } :=
        (Sessions.find?_insert _ _ _ _).trans (if_pos rfl)
      exact ((hreceived.publish_activity hopen hfound rfl rfl).remove hopen _).replies hreply
  | admits hopen hbody hfind => exact h.add hopen hfind _
  | refuses hopen hbody hfind hadmission hreply =>
      exact (h.replies hreply).publish_error (hreply.closed.trans hopen) nofun
  | ends hopen hbody hreply => exact (h.remove hopen _).replies hreply
  | warns hopen hbody hfind =>
      exact (h.congr rfl rfl rfl : Truthful (ledger.tell _ _)).publish_activity hopen hfind rfl rfl

end SessionMux.Ledger
