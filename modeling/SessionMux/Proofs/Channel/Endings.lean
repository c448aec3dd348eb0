import SessionMux.Proofs.Peers.Heard

/-!
# Sessions that have ended

An endpoint that was told of the end of its session stays told. Its session does not come back: a
session with the same id that is live later has an endpoint of its own, which comes later and has
not been told of an end yet. So an id is of no use to whoever had it for a session that is over, as
long as no later session with this id is live (`Ledger.find?_of_told_closed`).
-/

namespace SessionMux.Ledger

variable {ledger next : Ledger} {key other : UInt32} {session found : Session} {message : Message}

/-! ### What was told stays told -/

/-- Every endpoint is there still, and has been told everything that it had been told. -/
def Extends (ledger next : Ledger) : Prop :=
  ∀ (place : Nat) (owner : UInt32) (told : List Message),
    ledger.endpoints[place]? = some (owner, told) →
      ∃ more, next.endpoints[place]? = some (owner, told ++ more)

theorem Extends.of_same (hendpoints : next.endpoints = ledger.endpoints) : ledger.Extends next := by
  intro place owner told hplace
  exact ⟨[], by rw [hendpoints, hplace, List.append_nil]⟩

theorem Extends.refl (ledger : Ledger) : ledger.Extends ledger := .of_same rfl

theorem Extends.trans {last : Ledger} (hfirst : ledger.Extends next) (hsecond : next.Extends last) :
    ledger.Extends last := by
  intro place owner told hplace
  obtain ⟨more, hnext⟩ := hfirst place owner told hplace
  obtain ⟨rest, hlast⟩ := hsecond place owner (told ++ more) hnext
  exact ⟨more ++ rest, by rw [hlast, List.append_assoc]⟩

theorem endpoints_tell (ledger : Ledger) (place other : Nat) (message : Message) :
    (ledger.tell place message).endpoints[other]? =
      ledger.endpoints[other]?.map fun (owner, told) =>
        (owner, if place = other then told ++ [message] else told) := by
  rw [tell, List.getElem?_modify]
  cases ledger.endpoints[other]? with
  | none => rfl
  | some endpoint => by_cases heq : place = other <;> simp [heq, Prod.map]

theorem extends_tell (ledger : Ledger) (place : Nat) (message : Message) :
    ledger.Extends (ledger.tell place message) := by
  intro other owner told hother
  rw [endpoints_tell, hother]
  by_cases heq : place = other
  · exact ⟨[message], by simp [heq]⟩
  · exact ⟨[], by simp [heq]⟩

theorem extends_add (ledger : Ledger) (id : UInt32) (port : UInt16) :
    ledger.Extends (ledger.add id port) := by
  intro place owner told hplace
  obtain ⟨hbound, -⟩ := List.getElem?_eq_some_iff.mp hplace
  refine ⟨[], ?_⟩
  change (ledger.endpoints ++ [(id, [])])[place]? = _
  rw [List.getElem?_append_left hbound, hplace, List.append_nil]

theorem extends_remove (ledger : Ledger) (id : UInt32) : ledger.Extends (ledger.remove id) := by
  cases hfind : ledger.sessions.find? id with
  | none =>
      rw [remove, hfind]
      exact .refl ledger
  | some session =>
      rw [remove_of_find? hfind]
      exact extends_tell ledger session.endpoint .closed

theorem extends_close (ledger : Ledger) : ledger.Extends ledger.close :=
  close_preserves (.of_same rfl) (fun before id hbefore => hbefore.trans (extends_remove before id))
    fun _ hbefore => hbefore.trans (.of_same rfl)

theorem Replies.endpoints {frame : Frame} (hreply : ledger.Replies frame next) :
    next.endpoints = ledger.endpoints := by
  rcases hreply with rfl | ⟨-, rfl⟩ <;> rfl

theorem Replies.sessions {frame : Frame} (hreply : ledger.Replies frame next) :
    next.sessions = ledger.sessions := by
  rcases hreply with rfl | ⟨-, rfl⟩ <;> rfl

theorem Works.extends {sent : Option (UInt32 × Bytes)} (hworks : ledger.Works sent next) :
    ledger.Extends next := by
  cases hworks with
  | rests | sends | exhausts | complains | answers => exact .of_same rfl
  | @opens id port => exact extends_add { ledger with nextSession := id.toNat + 2 } id port
  | closes => exact extends_remove ledger _
  | shuts => exact extends_close ledger
  | fails code message => exact extends_close (ledger.publish _)

theorem Receives.extends {frame : Frame} {admission : Admission}
    (hreceives : ledger.Receives frame admission next) : ledger.Extends next := by
  cases hreceives with
  | drops | repeats | acknowledges | strays | conflicts | misreads | notes => exact .of_same rfl
  | takes => exact extends_tell ledger _ _
  | @rejects payload session error next hopen hbody hfind hreply =>
      have hremoved := extends_remove ((ledger.receive frame.session session payload).publish
        (.sessionError frame.session
          { code := .connReset, level := .warning
            message := s!"local endpoint failed: {error.message}" })) frame.session
      have htold : ledger.Extends (ledger.receive frame.session session payload) :=
        extends_tell ledger session.endpoint _
      exact (htold.trans hremoved).trans (.of_same hreply.endpoints)
  | admits => exact extends_add ledger _ _
  | refuses hopen hbody hfind hadmission hreply => exact .of_same hreply.endpoints
  | ends hopen hbody hreply =>
      exact (extends_remove ledger _).trans (.of_same hreply.endpoints)
  | warns => exact extends_tell ledger _ _

/-! ### Live sessions have not been told of an end -/

theorem Homed.owner (h : ledger.Homed) (hfind : ledger.sessions.find? key = some session) :
    ledger.owners[session.endpoint]? = some key := by
  obtain ⟨front, rear, hsplit, hlength, -⟩ := h key session hfind
  rw [hsplit, ← hlength]
  simp

/-- No two live sessions have one endpoint. -/
theorem Homed.key_eq (h : ledger.Homed) (hfind : ledger.sessions.find? key = some session)
    (hother : ledger.sessions.find? other = some found)
    (hsame : found.endpoint = session.endpoint) : other = key := by
  have howner := h.owner hother
  rw [hsame, h.owner hfind] at howner
  exact (Option.some.inj howner).symm

def Unended (ledger : Ledger) : Prop :=
  ∀ (id : UInt32) (session : Session) (owner : UInt32) (told : List Message),
    ledger.sessions.find? id = some session →
      ledger.endpoints[session.endpoint]? = some (owner, told) → .closed ∉ told

theorem unended_of_empty (hempty : ledger.sessions = .empty) : ledger.Unended := by
  intro id session owner told hfind
  rw [hempty] at hfind
  cases hfind

/-- The sessions that are live were live before, with the endpoints that they had. -/
theorem Unended.congr (h : ledger.Unended) (hendpoints : next.endpoints = ledger.endpoints)
    (hsessions : ∀ key session, next.sessions.find? key = some session →
      ∃ before, ledger.sessions.find? key = some before ∧ session.endpoint = before.endpoint) :
    next.Unended := by
  intro key session owner told hfind htold
  obtain ⟨before, hbefore, hendpoint⟩ := hsessions key session hfind
  rw [hendpoints, hendpoint] at htold
  exact h key before owner told hbefore htold

theorem Unended.of_same (h : ledger.Unended) (hendpoints : next.endpoints = ledger.endpoints)
    (hsessions : next.sessions = ledger.sessions) : next.Unended :=
  h.congr hendpoints fun _ session hfind => ⟨session, hsessions ▸ hfind, rfl⟩

theorem Unended.insert (h : ledger.Unended) (hfind : ledger.sessions.find? key = some session)
    (entry : Session) (hentry : entry.endpoint = session.endpoint) :
    { ledger with sessions := ledger.sessions.insert key entry }.Unended :=
  h.congr rfl fun _ _ => Sessions.find?_of_find?_insert hfind hentry

theorem Unended.tell (h : ledger.Unended) (hmessage : message ≠ .closed) (place : Nat) :
    (ledger.tell place message).Unended := by
  intro key session owner told hfind htold
  rw [endpoints_tell] at htold
  obtain ⟨⟨before, earlier⟩, hbefore, heq⟩ := Option.map_eq_some_iff.mp htold
  obtain ⟨rfl, rfl⟩ := Prod.mk.inj heq
  have hearlier := h key session before earlier hfind hbefore
  split_ifs
  · simp [hearlier, Ne.symm hmessage]
  · exact hearlier

theorem Unended.add (h : ledger.Unended) (hhomed : ledger.Homed) (key : UInt32) (port : UInt16) :
    (ledger.add key port).Unended := by
  intro other session owner told hfind htold
  have hsessions := Sessions.find?_insert ledger.sessions key other
    (.create port ledger.endpoints.length)
  change (ledger.endpoints ++ [(key, [])])[session.endpoint]? = _ at htold
  by_cases heq : other = key
  · rw [if_pos heq] at hsessions
    obtain rfl : Session.create port ledger.endpoints.length = session :=
      Option.some.inj (hsessions.symm.trans hfind)
    have hnew : (ledger.endpoints ++ [(key, [])])[ledger.endpoints.length]? =
        some (key, ([] : List Message)) := List.getElem?_concat_length
    obtain ⟨-, rfl⟩ := Prod.mk.inj (Option.some.inj (hnew.symm.trans htold))
    exact List.not_mem_nil
  · rw [if_neg heq] at hsessions
    have hbefore := hsessions.symm.trans hfind
    obtain ⟨hbound, -⟩ := List.getElem?_eq_some_iff.mp (hhomed.owner hbefore)
    rw [owners, List.length_map] at hbound
    rw [List.getElem?_append_left hbound] at htold
    exact h other session owner told hbefore htold

theorem Unended.remove (h : ledger.Unended) (hhomed : ledger.Homed) (key : UInt32) :
    (ledger.remove key).Unended := by
  cases hfind : ledger.sessions.find? key with
  | none =>
      rw [Ledger.remove, hfind]
      exact h
  | some session =>
      rw [remove_of_find? hfind]
      intro other found owner told hfound htold
      change (ledger.sessions.erase key).find? other = some found at hfound
      change (ledger.tell session.endpoint .closed).endpoints[found.endpoint]? = _ at htold
      rw [Sessions.find?_erase] at hfound
      split_ifs at hfound with heq
      -- The endpoint that is told of the end is no endpoint of a session that stays.
      have hplace : session.endpoint ≠ found.endpoint := fun hsame =>
        heq (hhomed.key_eq hfind hfound hsame.symm)
      rw [endpoints_tell] at htold
      simp only [if_neg hplace, Prod.mk.eta, Option.map_id_fun', id] at htold
      exact h other found owner told hfound htold

theorem Unended.close (h : ledger.Unended) (hhomed : ledger.Homed) : ledger.close.Unended :=
  (close_preserves (motive := fun after => after.Homed ∧ after.Unended)
    ⟨hhomed.of_same rfl rfl, h.of_same rfl rfl⟩
    (fun _ id hbefore => ⟨hbefore.1.remove id, hbefore.2.remove hbefore.1 id⟩)
    fun _ hbefore => ⟨hbefore.1.of_same rfl rfl, hbefore.2.of_same rfl rfl⟩).2

theorem Unended.receive (h : ledger.Unended) (hfind : ledger.sessions.find? key = some session)
    (payload : Bytes) : (ledger.receive key session payload).Unended := by
  have htold : (ledger.tell session.endpoint (.data payload)).Unended :=
    h.tell (by simp) session.endpoint
  have hcounted := htold.insert hfind
    { session with bytesIn := session.bytesIn + payload.length } rfl
  exact hcounted.of_same rfl rfl

theorem Unended.replies (h : ledger.Unended) {frame : Frame} (hreply : ledger.Replies frame next) :
    next.Unended :=
  h.of_same hreply.endpoints hreply.sessions

theorem Works.unended {sent : Option (UInt32 × Bytes)} (hworks : ledger.Works sent next)
    (hhomed : ledger.Homed) (h : ledger.Unended) : next.Unended := by
  cases hworks with
  | rests => exact h
  | @sends id session payload hopen hfind =>
      have hcounted := h.insert hfind
        { session with bytesOut := session.bytesOut + payload.length } rfl
      exact hcounted.of_same rfl rfl
  | @opens id port =>
      have hmoved : Unended { ledger with nextSession := id.toNat + 2 } := h.of_same rfl rfl
      have hhomed' : Homed { ledger with nextSession := id.toNat + 2 } := hhomed.of_same rfl rfl
      exact (hmoved.add hhomed' id port).of_same rfl rfl
  | exhausts | complains | answers => exact h.of_same rfl rfl
  | closes => exact (h.remove hhomed _).of_same rfl rfl
  | shuts => exact h.close hhomed
  | fails code message =>
      have hreported :
          (ledger.publish (.channelError { code, level := .critical, message })).Unended :=
        h.of_same rfl rfl
      exact hreported.close (hhomed.of_same rfl rfl)

theorem Receives.unended {frame : Frame} {admission : Admission}
    (hreceives : ledger.Receives frame admission next) (hhomed : ledger.Homed)
    (h : ledger.Unended) : next.Unended := by
  cases hreceives with
  | drops | repeats | acknowledges => exact h
  | strays | conflicts | misreads | notes => exact h.of_same rfl rfl
  | takes hopen hbody hfind => exact h.receive hfind _
  | @rejects payload session error next hopen hbody hfind hreply =>
      refine Unended.replies (Unended.remove ?_ ?_ frame.session) hreply
      · exact (h.receive hfind payload).of_same rfl rfl
      · exact (hhomed.receive hfind payload).of_same rfl rfl
  | admits => exact h.add hhomed _ _
  | refuses hopen hbody hfind hadmission hreply => exact (h.replies hreply).of_same rfl rfl
  | ends hopen hbody hreply => exact (h.remove hhomed _).replies hreply
  | @warns code session =>
      have htold : (ledger.tell session.endpoint (.error code)).Unended :=
        h.tell (by simp) session.endpoint
      exact htold.of_same rfl rfl

/-- An id stands for no session after the session that it stood for has ended, unless a later one
with the same id is live. -/
theorem find?_of_told_closed (hhomed : ledger.Homed) (h : ledger.Unended) {place : Nat}
    {told : List Message} (hplace : ledger.endpoints[place]? = some (key, told))
    (hended : .closed ∈ told)
    (hlater : ∀ later ∈ ledger.endpoints.drop (place + 1), later.1 = key → .closed ∈ later.2) :
    ledger.sessions.find? key = none := by
  rw [Option.eq_none_iff_forall_ne_some]
  intro session hfind
  obtain ⟨front, rear, hsplit, hlength, hrear⟩ := hhomed key session hfind
  have howner : ledger.owners[place]? = some key := by
    rw [owners, List.getElem?_map, hplace]
    rfl
  -- A live session has the last endpoint with its id. That is not a later one, all of which are
  -- told of their ends, nor the one in question; and if it came earlier, it would not be the last.
  rcases lt_trichotomy place session.endpoint with hbefore | rfl | hafter
  · have hhome := hhomed.owner hfind
    rw [owners, List.getElem?_map] at hhome
    obtain ⟨⟨owner, last⟩, hlast, rfl⟩ := Option.map_eq_some_iff.mp hhome
    have hmem : (owner, last) ∈ ledger.endpoints.drop (place + 1) := by
      refine List.mem_of_getElem? (i := session.endpoint - (place + 1)) ?_
      rw [List.getElem?_drop, Nat.add_sub_cancel' hbefore, hlast]
    exact h owner session owner last hfind hlast (hlater _ hmem rfl)
  · exact h key session key told hfind hplace hended
  · rw [hsplit, List.getElem?_append_right (by omega), hlength,
      show place - session.endpoint = place - session.endpoint - 1 + 1 by omega,
      List.getElem?_cons_succ] at howner
    exact hrear (List.mem_of_getElem? howner)

end SessionMux.Ledger
