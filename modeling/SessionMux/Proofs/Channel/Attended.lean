import SessionMux.Proofs.Channel.Deeds

/-!
# Endpoints without an end

An endpoint that was not told of the end of its session has a session that is live
(`Ledger.Attended`). So whoever finds an id without a session knows that every endpoint with this id
was told of an end. On a closed channel no session is live, and all endpoints were told. Both are
kept by every deed, along with what live sessions know of their endpoints (`Ledger.Paired`).
-/

namespace SessionMux.Ledger

variable {ledger next : Ledger} {key : UInt32} {session : Session} {deed : Deed}
  {deeds : List Deed}

def Attended (ledger : Ledger) : Prop :=
  ∀ (place : Nat) (owner : UInt32) (told : List Message),
    ledger.endpoints[place]? = some (owner, told) →
      .closed ∈ told ∨
        ∃ session, ledger.sessions.find? owner = some session ∧ session.endpoint = place

theorem Attended.of_same (h : ledger.Attended) (hendpoints : next.endpoints = ledger.endpoints)
    (hsessions : next.sessions = ledger.sessions) : next.Attended := by
  intro place owner told hplace
  rw [hendpoints] at hplace
  rw [hsessions]
  exact h place owner told hplace

theorem Attended.insert (h : ledger.Attended) (hfind : ledger.sessions.find? key = some session)
    (entry : Session) (hentry : entry.endpoint = session.endpoint) :
    { ledger with sessions := ledger.sessions.insert key entry }.Attended := by
  intro place owner told hplace
  refine (h place owner told hplace).imp_right ?_
  rintro ⟨found, hfound, rfl⟩
  have hinsert := Sessions.find?_insert ledger.sessions key owner entry
  by_cases heq : owner = key
  · subst heq
    cases hfind.symm.trans hfound
    exact ⟨entry, hinsert.trans (if_pos rfl), hentry⟩
  · exact ⟨found, (hinsert.trans (if_neg heq)).trans hfound, rfl⟩

theorem Attended.tell (h : ledger.Attended) (place : Nat) (message : Message) :
    (ledger.tell place message).Attended := by
  intro other owner told hother
  rw [endpoints_tell] at hother
  obtain ⟨⟨before, earlier⟩, hbefore, heq⟩ := Option.map_eq_some_iff.mp hother
  obtain ⟨rfl, rfl⟩ := Prod.mk.inj heq
  refine (h other before earlier hbefore).imp_left fun hmem => ?_
  split_ifs
  · exact List.mem_append_left _ hmem
  · exact hmem

theorem Attended.add (h : ledger.Attended) (hnone : ledger.sessions.find? key = none)
    (port : UInt16) : (ledger.add key port).Attended := by
  intro place owner told hplace
  have hsessions := Sessions.find?_insert ledger.sessions key owner
    (.create port ledger.endpoints.length)
  change (ledger.endpoints ++ [(key, [])])[place]? = _ at hplace
  rcases lt_or_ge place ledger.endpoints.length with hbound | hbound
  · rw [List.getElem?_append_left hbound] at hplace
    refine (h place owner told hplace).imp_right ?_
    rintro ⟨session, hfind, hendpoint⟩
    have hne : owner ≠ key := by
      rintro rfl
      cases hnone.symm.trans hfind
    exact ⟨session, (hsessions.trans (if_neg hne)).trans hfind, hendpoint⟩
  · obtain ⟨hlength, hentry⟩ := List.getElem?_eq_some_iff.mp hplace
    rw [List.length_append, List.length_singleton] at hlength
    obtain rfl : place = ledger.endpoints.length :=
      Nat.le_antisymm (Nat.le_of_lt_succ hlength) hbound
    rw [List.getElem_concat_length rfl] at hentry
    obtain ⟨rfl, -⟩ := Prod.mk.inj hentry
    exact .inr ⟨_, hsessions.trans (if_pos rfl), rfl⟩

theorem Attended.remove (h : ledger.Attended) (key : UInt32) : (ledger.remove key).Attended := by
  cases hfind : ledger.sessions.find? key with
  | none =>
      rw [Ledger.remove, hfind]
      exact h
  | some session =>
      have herase := Sessions.find?_erase ledger.sessions key
      rw [remove_of_find? hfind]
      intro place owner told hplace
      change (ledger.tell session.endpoint .closed).endpoints[place]? = _ at hplace
      rw [endpoints_tell] at hplace
      obtain ⟨⟨before, earlier⟩, hbefore, heq⟩ := Option.map_eq_some_iff.mp hplace
      obtain ⟨rfl, rfl⟩ := Prod.mk.inj heq
      -- The endpoint is that of the session that ends, or its session stays.
      obtain hended | ⟨found, hfound, rfl⟩ := h place before earlier hbefore
      · left
        split_ifs
        · exact List.mem_append_left _ hended
        · exact hended
      · by_cases hsame : before = key
        · subst hsame
          cases hfind.symm.trans hfound
          simp
        · exact .inr ⟨found, ((herase before).trans (if_neg hsame)).trans hfound, rfl⟩

theorem Attended.close (h : ledger.Attended) : ledger.close.Attended :=
  close_preserves (h.of_same rfl rfl) (fun _ id hbefore => hbefore.remove id)
    fun _ hbefore => hbefore.of_same rfl rfl

theorem Attended.receive (h : ledger.Attended) (hfind : ledger.sessions.find? key = some session)
    (payload : Bytes) : (ledger.receive key session payload).Attended := by
  have htold : (ledger.tell session.endpoint (.data payload)).Attended := h.tell _ _
  have hcounted := htold.insert hfind
    { session with bytesIn := session.bytesIn + payload.length } rfl
  exact hcounted.of_same rfl rfl

theorem Attended.replies (h : ledger.Attended) {frame : Frame}
    (hreply : ledger.Replies frame next) : next.Attended :=
  h.of_same hreply.endpoints hreply.sessions

theorem Works.attended {sent : Option (UInt32 × Bytes)} (hworks : ledger.Works sent next)
    (h : ledger.Attended) : next.Attended := by
  cases hworks with
  | rests => exact h
  | @sends id session payload hopen hfind =>
      have hcounted := h.insert hfind
        { session with bytesOut := session.bytesOut + payload.length } rfl
      exact hcounted.of_same rfl rfl
  | @opens id port hopen hfind =>
      have hmoved : Attended { ledger with nextSession := id.toNat + 2 } := h.of_same rfl rfl
      exact (hmoved.add hfind port).of_same rfl rfl
  | exhausts | complains | answers => exact h.of_same rfl rfl
  | closes => exact (h.remove _).of_same rfl rfl
  | shuts => exact h.close
  | fails code message =>
      have hreported :
          (ledger.publish (.channelError { code, level := .critical, message })).Attended :=
        h.of_same rfl rfl
      exact hreported.close

theorem Receives.attended {frame : Frame} {admission : Admission}
    (hreceives : ledger.Receives frame admission next) (h : ledger.Attended) : next.Attended := by
  cases hreceives with
  | drops | repeats | acknowledges => exact h
  | strays | conflicts | misreads | notes => exact h.of_same rfl rfl
  | takes hopen hbody hfind => exact h.receive hfind _
  | @rejects payload session error next hopen hbody hfind hreply =>
      refine Attended.replies (Attended.remove ?_ frame.session) hreply
      exact (h.receive hfind payload).of_same rfl rfl
  | admits hopen hbody hfind => exact h.add hfind _
  | refuses hopen hbody hfind hadmission hreply => exact (h.replies hreply).of_same rfl rfl
  | ends hopen hbody hreply => exact (h.remove _).replies hreply
  | @warns code session =>
      have htold : (ledger.tell session.endpoint (.error code)).Attended := h.tell _ _
      exact htold.of_same rfl rfl

/-! ### The end of a channel -/

def Cleared (ledger : Ledger) : Prop :=
  ledger.closed = true → ∀ key, ledger.sessions.find? key = none

theorem cleared_of_open (hopen : ledger.closed = false) : ledger.Cleared := by
  intro hclosed
  cases hopen.symm.trans hclosed

theorem Works.cleared {sent : Option (UInt32 × Bytes)} (hworks : ledger.Works sent next)
    (h : ledger.Cleared) : next.Cleared := by
  cases hworks with
  | rests | exhausts | answers => exact h
  | sends _ hopen | opens _ hopen | complains _ hopen => exact cleared_of_open hopen
  | closes hopen => exact cleared_of_open ((closed_remove _ _).trans hopen)
  | shuts => exact fun _ => ledger.find?_close
  | fails => exact fun _ => find?_close _

theorem Does.cleared (hdoes : ledger.Does deed next) (h : ledger.Cleared) : next.Cleared := by
  cases hclosed : ledger.closed with
  | true =>
      obtain ⟨-, hsessions, -⟩ := hdoes.of_closed hclosed
      exact fun _ => hsessions ▸ h hclosed
  | false =>
      cases hdoes with
      | works hworks => exact hworks.cleared h
      | hears hreceives => exact cleared_of_open (hreceives.closed.trans hclosed)
      | reports | takes | loses | abandons => exact cleared_of_open hclosed

/-! ### Every deed -/

structure Paired (ledger : Ledger) : Prop where
  homed : ledger.Homed
  unended : ledger.Unended
  attended : ledger.Attended
  cleared : ledger.Cleared

theorem Does.paired (hdoes : ledger.Does deed next) (h : ledger.Paired) : next.Paired := by
  have hcleared := hdoes.cleared h.cleared
  cases hdoes with
  | works hworks =>
      exact ⟨hworks.homed h.homed, hworks.unended h.homed h.unended,
        hworks.attended h.attended, hcleared⟩
  | hears hreceives =>
      exact ⟨hreceives.homed h.homed, hreceives.unended h.homed h.unended,
        hreceives.attended h.attended, hcleared⟩
  | reports | takes | loses | abandons =>
      exact ⟨h.homed.of_same rfl rfl, h.unended.of_same rfl rfl, h.attended.of_same rfl rfl,
        hcleared⟩

theorem Runs.paired (hruns : ledger.Runs deeds next) (h : ledger.Paired) : next.Paired :=
  hruns.preserves (fun _ _ _ _ hdoes => hdoes.paired) h

/-- An endpoint without a live session was told of an end. -/
theorem Paired.closed_mem (h : ledger.Paired) {place : Nat} {told : List Message}
    (hplace : ledger.endpoints[place]? = some (key, told))
    (hgone : ledger.closed = true ∨ ledger.sessions.find? key = none) : .closed ∈ told := by
  have hnone : ledger.sessions.find? key = none := hgone.elim (h.cleared · key) id
  refine (h.attended place key told hplace).resolve_right ?_
  rintro ⟨session, hfind, -⟩
  cases hnone.symm.trans hfind

end SessionMux.Ledger
