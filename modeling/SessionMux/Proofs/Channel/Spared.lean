import SessionMux.Proofs.Channel.Deeds

/-!
# Sessions that are left alone

A session on which nobody sends, and whose id is not given to another one, can do no more than end:
what it has counted stays as it is while it is there, and no payload of it is put into the queue
(`Ledger.Runs.spares`). An id that our side gave away lies below the counter, so only the peer could
give it to another session, and that one would have an endpoint of its own.
-/

namespace SessionMux

def Deed.sendsOn? : Deed → Option UInt32
  | works (some (id, _)) => some id
  | _ => none

namespace Ledger

variable {ledger next last : Ledger} {id : UInt32} {deed : Deed} {deeds : List Deed} {frame : Frame}

/-! ### What was told stays told -/

theorem Extends.owners (h : ledger.Extends next) : ledger.owners <+: next.owners := by
  rw [List.prefix_iff_getElem?]
  intro place hplace
  rw [Ledger.owners, List.length_map] at hplace
  obtain ⟨more, hmore⟩ := h place _ _ (List.getElem?_eq_getElem hplace)
  rw [Ledger.owners, List.getElem?_map, hmore]
  simp [Ledger.owners]

theorem Does.extends (hdoes : ledger.Does deed next) : ledger.Extends next := by
  cases hdoes with
  | works hworks => exact hworks.extends
  | hears hreceives => exact hreceives.extends
  | reports | takes | loses | abandons => exact .of_same rfl

theorem Runs.extends (hruns : ledger.Runs deeds last) : ledger.Extends last :=
  hruns.preserves (fun _ _ _ _ hdoes hbefore => hbefore.trans hdoes.extends) (.refl ledger)

/-! ### Replies carry no payloads -/

theorem Works.dataless {sent : Option (UInt32 × Bytes)} (hworks : ledger.Works sent next)
    (h : ledger.Dataless) : next.Dataless := by
  cases hworks with
  | rests | sends | opens | exhausts | complains => exact h
  | closes => exact h.remove _
  | @answers front rear reply hreplies =>
      rw [Dataless, hreplies, payloads_append, payloads_cons, List.append_eq_nil_iff,
        List.append_eq_nil_iff] at h
      rw [Dataless, push, payloads_append, h.1, h.2.2]
      rfl
  | shuts => exact (ledger.close_of_dataless h).2
  | fails code message =>
      exact (close_of_dataless
        (ledger.publish (.channelError { code, level := .critical, message })) h).2

theorem Does.dataless (hdoes : ledger.Does deed next) (h : ledger.Dataless) : next.Dataless := by
  cases hdoes with
  | works hworks => exact hworks.dataless h
  | hears hreceives => exact (hreceives.queues h).2
  | reports | takes | abandons => exact h
  | loses hreplies =>
      rw [Dataless, hreplies, payloads_append, payloads_cons, List.append_eq_nil_iff,
        List.append_eq_nil_iff] at h
      rw [Dataless, payloads_append, h.1, h.2.2]
      rfl

/-! ### The counter -/

theorem Works.nextSession_le {sent : Option (UInt32 × Bytes)} (hworks : ledger.Works sent next) :
    ledger.nextSession ≤ next.nextSession := by
  cases hworks with
  | rests | sends | complains | answers => exact Nat.le_refl _
  | opens port hopen hfind hnext => exact Nat.le_add_right_of_le hnext
  | exhausts hnext => exact hnext
  | closes => exact Nat.le_of_eq (nextSession_remove _ _).symm
  | shuts => exact Nat.le_of_eq ledger.same_close.2.symm
  | fails code message =>
      exact Nat.le_of_eq (same_close
        (ledger.publish (.channelError { code, level := .critical, message }))).2.symm

theorem Does.nextSession_le (hdoes : ledger.Does deed next) :
    ledger.nextSession ≤ next.nextSession := by
  cases hdoes with
  | works hworks => exact hworks.nextSession_le
  | hears hreceives => exact Nat.le_of_eq hreceives.nextSession.symm
  | reports | takes | loses | abandons => exact Nat.le_refl _

/-! ### One session among others -/

structure Spares (id : UInt32) (ledger next : Ledger) : Prop where
  entry : ∀ session, next.sessions.find? id = some session →
    ∃ before, ledger.sessions.find? id = some before ∧ session.bytesOut = before.bytesOut
  frames : ∃ kept out, kept <:+ ledger.frames ∧ next.frames = kept ++ out ∧
    payloads (framesOf id out) = []

namespace Spares

theorem refl (id : UInt32) (ledger : Ledger) : Spares id ledger ledger where
  entry := fun session hfind => ⟨session, hfind, rfl⟩
  frames := ⟨ledger.frames, [], List.suffix_rfl, (List.append_nil _).symm, rfl⟩

theorem trans (hfirst : Spares id ledger next) (hsecond : Spares id next last) :
    Spares id ledger last where
  entry := fun session hfind => by
    obtain ⟨middle, hmiddle, hsame⟩ := hsecond.entry session hfind
    obtain ⟨before, hbefore, heq⟩ := hfirst.entry middle hmiddle
    exact ⟨before, hbefore, hsame.trans heq⟩
  frames := by
    obtain ⟨kept, out, hkept, hframes, hnone⟩ := hfirst.frames
    obtain ⟨left, more, ⟨gone, hgone⟩, hlast, hnothing⟩ := hsecond.frames
    have happend (front rear : List Frame) (hfront : payloads (framesOf id front) = [])
        (hrear : payloads (framesOf id rear) = []) :
        payloads (framesOf id (front ++ rear)) = [] := by
      rw [framesOf, List.filter_append, payloads_append]
      exact List.append_eq_nil_iff.mpr ⟨hfront, hrear⟩
    -- What is left of the queue begins among the frames that were kept, or among those behind them.
    rw [hframes] at hgone
    obtain ⟨rest, hrest, rfl⟩ | ⟨rest, hrest, rfl⟩ := List.append_eq_append_iff.mp hgone
    · refine ⟨rest, out ++ more, ?_, ?_, happend out more hnone hnothing⟩
      · exact List.IsSuffix.trans ⟨gone, hrest.symm⟩ hkept
      · rw [hlast, List.append_assoc]
    · refine ⟨[], left ++ more, List.nil_suffix, hlast, happend left more ?_ hnothing⟩
      rw [framesOf, List.filter_append, payloads_append] at hnone
      exact (List.append_eq_nil_iff.mp hnone).2

theorem of_same (hframes : next.frames = ledger.frames)
    (hentry : ∀ session, next.sessions.find? id = some session →
      ∃ before, ledger.sessions.find? id = some before ∧ session.bytesOut = before.bytesOut) :
    Spares id ledger next where
  entry := hentry
  frames := ⟨ledger.frames, [], List.suffix_rfl, by rw [hframes, List.append_nil], rfl⟩

theorem publish (h : Spares id ledger next) (change : Change) :
    Spares id ledger (next.publish change) :=
  ⟨h.entry, h.frames⟩

theorem push (id : UInt32) (ledger : Ledger) (hframe : frame.payload? = none ∨ frame.session ≠ id) :
    Spares id ledger (ledger.push frame) where
  entry := fun session hfind => ⟨session, hfind, rfl⟩
  frames := by
    have hnone : payloads (framesOf id [frame]) = [] := by
      obtain hnone | hne := hframe
      · unfold framesOf
        by_cases heq : frame.session = id <;> simp [heq, hnone]
      · rw [framesOf_cons_of_ne hne]
        rfl
    rw [Ledger.push]
    split
    · exact ⟨ledger.frames, [frame], List.suffix_rfl, rfl, hnone⟩
    · exact ⟨ledger.frames, [], List.suffix_rfl, (List.append_nil _).symm, rfl⟩

theorem remove (id : UInt32) (ledger : Ledger) (other : UInt32) :
    Spares id ledger (ledger.remove other) := by
  refine .of_same (ledger.frames_remove other) fun session hfind => ?_
  rw [find?_remove] at hfind
  split at hfind
  · cases hfind
  · exact ⟨session, hfind, rfl⟩

theorem close (id : UInt32) (ledger : Ledger) : Spares id ledger ledger.close := by
  have hended (ids : List UInt32) (ledger : Ledger) :
      Spares id ledger (ids.foldl Ledger.remove ledger) := by
    induction ids generalizing ledger with
    | nil => exact .refl id ledger
    | cons other ids ih => exact (remove id ledger other).trans (ih _)
  have hall := hended ledger.sessions.ids { ledger with closed := true }
  exact ⟨hall.entry, hall.frames⟩

/-- To count what comes in for a session is not to touch what it has sent. -/
theorem receive {other : UInt32} {session : Session}
    (hfind : ledger.sessions.find? other = some session) (payload : Bytes) :
    Spares id ledger (ledger.receive other session payload) := by
  refine .of_same rfl fun found hfound => ?_
  have hentry := Sessions.find?_insert ledger.sessions other id
    { session with bytesIn := session.bytesIn + payload.length }
  rw [show (ledger.receive other session payload).sessions.find? id = _ from hentry] at hfound
  split at hfound
  · rename_i heq
    cases hfound
    exact ⟨session, heq ▸ hfind, rfl⟩
  · exact ⟨found, hfound, rfl⟩

theorem reply (hreply : ledger.Replies frame next) (hframe : frame.payload? = none) :
    Spares id ledger next := by
  obtain rfl | ⟨-, rfl⟩ := hreply
  · exact push id ledger (.inl hframe)
  · exact .of_same rfl fun session hfind => ⟨session, hfind, rfl⟩

theorem add {other : UInt32} (hne : id ≠ other) (port : UInt16) :
    Spares id ledger (ledger.add other port) := by
  refine .of_same rfl fun session hfind => ?_
  have hentry := Sessions.find?_insert ledger.sessions other id
    (.create port ledger.endpoints.length)
  rw [if_neg hne] at hentry
  exact ⟨session, hentry.symm.trans hfind, rfl⟩

end Spares

theorem Works.spares {sent : Option (UInt32 × Bytes)} (hworks : ledger.Works sent next)
    (hid : id.toNat < ledger.nextSession) (hsent : ∀ payload, sent ≠ some (id, payload))
    (hdata : ledger.Dataless) : Spares id ledger next := by
  cases hworks with
  | rests => exact .refl id ledger
  | @sends other session payload hopen hfind =>
      have hne : id ≠ other := by
        rintro rfl
        exact hsent payload rfl
      have hentry := Sessions.find?_insert ledger.sessions other id
        { session with bytesOut := session.bytesOut + payload.length }
      rw [if_neg hne] at hentry
      refine ⟨fun found hfound => ⟨found, hentry.symm.trans hfound, rfl⟩, ?_⟩
      exact (Spares.push id ledger (.inr (Ne.symm hne))).frames
  | @opens other port hopen hfind hnext =>
      have hne : id ≠ other := by
        rintro rfl
        exact absurd hid (Nat.not_lt.mpr hnext)
      have hadded : Spares id { ledger with nextSession := other.toNat + 2 } _ := .add hne port
      exact Spares.trans ⟨hadded.entry, hadded.frames⟩ (.push id _ (.inl rfl))
  | exhausts => exact .of_same rfl fun session hfind => ⟨session, hfind, rfl⟩
  | closes => exact (Spares.remove id ledger _).trans (.push id _ (.inl rfl))
  | complains => exact (Spares.push id ledger (.inl rfl)).publish _
  | @answers front rear reply hreplies =>
      rw [Dataless, hreplies, payloads_append, payloads_cons, List.append_eq_nil_iff,
        List.append_eq_nil_iff, Option.toList_eq_nil_iff] at hdata
      have hrest : Spares id ledger { ledger with replies := front ++ rear } :=
        .of_same rfl fun session hfind => ⟨session, hfind, rfl⟩
      exact hrest.trans (.push id _ (.inl hdata.2.1))
  | shuts => exact .close id ledger
  | fails code message =>
      exact ((Spares.refl id ledger).publish _).trans (.close id _)

/-- A session can only be added with an endpoint of its own. -/
theorem Receives.spares {admission : Admission} (hreceives : ledger.Receives frame admission next)
    (hcount : next.owners.count id = ledger.owners.count id) : Spares id ledger next := by
  have hrests {later : Ledger} (hsessions : later.sessions = ledger.sessions)
      (hframes : later.frames = ledger.frames) : Spares id ledger later :=
    .of_same hframes fun session hfind => ⟨session, hsessions ▸ hfind, rfl⟩
  cases hreceives with
  | drops | strays | repeats | conflicts | acknowledges | misreads | warns | notes =>
      exact hrests rfl rfl
  | takes hopen hbody hfind => exact .receive hfind _
  | @rejects payload session error next hopen hbody hfind hreply =>
      have htold := (Spares.receive hfind payload : Spares id ledger _).publish
        (.sessionError frame.session
          { code := .connReset, level := .warning
            message := s!"local endpoint failed: {error.message}" })
      exact (htold.trans (.remove id _ _)).trans (.reply hreply rfl)
  | @admits kind hopen hbody hfind hadmission =>
      refine .add ?_ _
      rintro rfl
      simp [Ledger.owners, Ledger.add, publish] at hcount
  | refuses hopen hbody hfind hadmission hreply =>
      exact (Spares.reply hreply rfl).publish _
  | ends hopen hbody hreply => exact (Spares.remove id ledger _).trans (.reply hreply rfl)

theorem Does.spares (hdoes : ledger.Does deed next) (hid : id.toNat < ledger.nextSession)
    (hdeed : deed.sendsOn? ≠ some id) (hdata : ledger.Dataless)
    (hcount : next.owners.count id = ledger.owners.count id) : Spares id ledger next := by
  cases hdoes with
  | works hworks =>
      refine hworks.spares hid (fun payload hsent => hdeed ?_) hdata
      rw [hsent]
      rfl
  | hears hreceives => exact hreceives.spares hcount
  | reports | loses => exact .of_same rfl fun session hfind => ⟨session, hfind, rfl⟩
  | @takes taken frames hframes =>
      refine ⟨fun session hfind => ⟨session, hfind, rfl⟩, frames, [], ?_, (List.append_nil _).symm,
        rfl⟩
      rw [hframes]
      exact List.suffix_cons taken frames
  | abandons =>
      exact ⟨fun session hfind => ⟨session, hfind, rfl⟩, [], [], List.nil_suffix, rfl, rfl⟩

/-- **A session that is left alone.** -/
theorem Runs.spares (hruns : ledger.Runs deeds last) (hid : id.toNat < ledger.nextSession)
    (hdeeds : ∀ deed ∈ deeds, deed.sendsOn? ≠ some id) (hdata : ledger.Dataless)
    (hcount : last.owners.count id = ledger.owners.count id) : Spares id ledger last := by
  induction hruns with
  | nil => exact .refl id _
  | cons hdoes hruns ih =>
      have hfirst := hdoes.extends.owners.sublist.count_le id
      have hrest := hruns.extends.owners.sublist.count_le id
      refine (hdoes.spares hid (hdeeds _ List.mem_cons_self) hdata (by omega)).trans ?_
      refine ih (Nat.lt_of_lt_of_le hid hdoes.nextSession_le) (fun deed hmem => ?_)
        (hdoes.dataless hdata) (by omega)
      exact hdeeds deed (List.mem_cons_of_mem _ hmem)

/-- No payload of the session is among the frames that lie behind those of before. -/
theorem Spares.payloads_drop (h : Spares id ledger next) :
    payloads (framesOf id (next.frames.drop ledger.frames.length)) = [] := by
  obtain ⟨kept, out, hkept, hframes, hnone⟩ := h.frames
  have hbehind : next.frames.drop ledger.frames.length =
      out.drop (ledger.frames.length - kept.length) := by
    rw [hframes, List.drop_append, List.drop_eq_nil_of_le hkept.length_le, List.nil_append]
  have hsublist : (payloads (framesOf id (out.drop (ledger.frames.length - kept.length)))).Sublist
      (payloads (framesOf id out)) :=
    ((List.drop_sublist _ out).filter _).filterMap _
  rw [hbehind]
  exact List.sublist_nil.mp (hnone ▸ hsublist)

end Ledger

end SessionMux
