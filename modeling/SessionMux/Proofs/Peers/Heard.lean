import SessionMux.Proofs.Channel.Truthful
import SessionMux.Proofs.Peers.Lane

/-!
# What the endpoints of a session were told

A session is told what arrives for it through its endpoint, and finds the endpoint by a place in the
list of all endpoints. `Ledger.Homed` says that at this place there is the latest endpoint of the
session. So a payload that arrives is the last one that the session has heard, whatever other
sessions hear, and whatever sessions with the same id there have been before.
-/

namespace SessionMux

def Channel.heard (channel : Channel) (id : UInt32) : List Bytes :=
  (channel.endpoints.filter (·.session = id)).flatMap (·.told.filterMap Message.payload?)

namespace Ledger

def heard (ledger : Ledger) (id : UInt32) : List Bytes :=
  (ledger.endpoints.filter (·.1 = id)).flatMap (·.2.filterMap Message.payload?)

def owners (ledger : Ledger) : List UInt32 := ledger.endpoints.map (·.1)

def Homed (ledger : Ledger) : Prop :=
  ∀ id session, ledger.sessions.find? id = some session → ∃ front rear,
    ledger.owners = front ++ id :: rear ∧ front.length = session.endpoint ∧ id ∉ rear

variable {ledger next : Ledger} {key other : UInt32} {session : Session} {message : Message}

theorem heard_ledger (channel : Channel) (replies : List Frame) (key : UInt32) :
    (channel.ledger replies).heard key = channel.heard key := by
  simp only [heard, Channel.ledger, Channel.heard, List.filter_map, List.flatMap_map]
  rfl

theorem tell_eq {place : Nat} (hplace : place < ledger.endpoints.length) (message : Message) :
    ∃ front owner told rear, ledger.endpoints = front ++ (owner, told) :: rear ∧
      front.length = place ∧
      (ledger.tell place message).endpoints = front ++ (owner, told ++ [message]) :: rear := by
  obtain ⟨front, ⟨owner, told⟩, rear, hsplit, hlength, htold⟩ :=
    List.exists_of_modify (Prod.map id (· ++ [message])) hplace
  exact ⟨front, owner, told, rear, hsplit, hlength, htold⟩

theorem tell_of_le {place : Nat} (hplace : ledger.endpoints.length ≤ place) (message : Message) :
    ledger.tell place message = ledger := by
  rw [tell, List.modify_eq_self hplace]

@[simp]
theorem owners_tell (place : Nat) (message : Message) :
    (ledger.tell place message).owners = ledger.owners := by
  rcases lt_or_ge place ledger.endpoints.length with hplace | hplace
  · obtain ⟨front, owner, told, rear, hsplit, -, htold⟩ := tell_eq hplace message
    simp [owners, hsplit, htold]
  · rw [tell_of_le hplace]

theorem heard_tell_of_none (hmessage : message.payload? = none) (place : Nat) (key : UInt32) :
    (ledger.tell place message).heard key = ledger.heard key := by
  rcases lt_or_ge place ledger.endpoints.length with hplace | hplace
  · obtain ⟨front, owner, told, rear, hsplit, -, htold⟩ := tell_eq hplace message
    by_cases howner : owner = key <;> simp [heard, hsplit, htold, howner, hmessage]
  · rw [tell_of_le hplace]

/-- A live session that is told of a payload has heard it last; no other session has heard it. -/
theorem heard_tell (hhomed : ledger.Homed) (hfind : ledger.sessions.find? key = some session)
    (payload : Bytes) (other : UInt32) :
    (ledger.tell session.endpoint (.data payload)).heard other =
      if other = key then ledger.heard key ++ [payload] else ledger.heard other := by
  obtain ⟨front, rear, howners, hplace, hrear⟩ := hhomed key session hfind
  have hbound : session.endpoint < ledger.endpoints.length := by
    have hlength := congrArg List.length howners
    simp only [owners, List.length_map, List.length_append, List.length_cons] at hlength
    omega
  obtain ⟨before, owner, told, after, hsplit, hlength, htold⟩ := tell_eq hbound (.data payload)
  have hsame : before.map (·.1) = front ∧ owner :: after.map (·.1) = key :: rear := by
    simp only [owners, hsplit, List.map_append, List.map_cons] at howners
    exact List.append_inj howners (by rw [List.length_map, hlength, hplace])
  obtain ⟨-, htail⟩ := hsame
  obtain ⟨rfl, rfl⟩ := List.cons.inj htail
  have hnone : after.filter (·.1 = owner) = [] := by
    rw [List.filter_eq_nil_iff]
    intro endpoint hmem
    rw [decide_eq_true_iff]
    exact fun heq => hrear (heq ▸ List.mem_map_of_mem hmem)
  by_cases heq : other = owner
  · subst heq
    simp [heard, hsplit, htold, hnone, Message.payload?]
  · simp [heard, hsplit, htold, heq, Ne.symm heq]

@[simp]
theorem heard_remove (id key : UInt32) : (ledger.remove id).heard key = ledger.heard key := by
  cases hfind : ledger.sessions.find? id with
  | none => rw [remove, hfind]
  | some session =>
      rw [remove_of_find? hfind]
      exact heard_tell_of_none rfl session.endpoint key

/-! ### Sessions keep finding their endpoints -/

/-- The sessions that are live were live before, with the endpoints that they had. -/
theorem Homed.congr (h : ledger.Homed) (howners : next.owners = ledger.owners)
    (hsessions : ∀ key session, next.sessions.find? key = some session →
      ∃ before, ledger.sessions.find? key = some before ∧ session.endpoint = before.endpoint) :
    next.Homed := by
  intro key session hfind
  obtain ⟨before, hbefore, hendpoint⟩ := hsessions key session hfind
  rw [howners, hendpoint]
  exact h key before hbefore

theorem Homed.of_same (h : ledger.Homed) (howners : next.owners = ledger.owners)
    (hsessions : next.sessions = ledger.sessions) : next.Homed :=
  h.congr howners fun _ session hfind => ⟨session, hsessions ▸ hfind, rfl⟩

theorem homed_of_empty (hempty : ledger.sessions = .empty) : ledger.Homed := by
  intro key session hfind
  rw [hempty] at hfind
  cases hfind

theorem Homed.add (h : ledger.Homed) (key : UInt32) (port : UInt16) :
    (ledger.add key port).Homed := by
  have howners : (ledger.add key port).owners = ledger.owners ++ [key] := by
    simp [owners, Ledger.add, publish]
  intro other session hfind
  rw [howners]
  have hsessions := Sessions.find?_insert ledger.sessions key other
    (.create port ledger.endpoints.length)
  by_cases heq : other = key
  · subst heq
    rw [if_pos rfl] at hsessions
    obtain rfl : Session.create port ledger.endpoints.length = session :=
      Option.some.inj (hsessions.symm.trans hfind)
    exact ⟨ledger.owners, [], rfl, by simp [owners, Session.create], List.not_mem_nil⟩
  · rw [if_neg heq] at hsessions
    obtain ⟨front, rear, hsplit, hlength, hrear⟩ := h other session (hsessions.symm.trans hfind)
    refine ⟨front, rear ++ [key], ?_, hlength, ?_⟩
    · rw [hsplit, List.append_assoc, List.cons_append]
    · simp [hrear, heq]

theorem Homed.insert (h : ledger.Homed) (hfind : ledger.sessions.find? key = some session)
    (entry : Session) (hentry : entry.endpoint = session.endpoint) :
    { ledger with sessions := ledger.sessions.insert key entry }.Homed :=
  h.congr rfl fun _ _ => Sessions.find?_of_find?_insert hfind hentry

theorem Homed.remove (h : ledger.Homed) (key : UInt32) : (ledger.remove key).Homed := by
  cases hfind : ledger.sessions.find? key with
  | none =>
      rw [Ledger.remove, hfind]
      exact h
  | some session =>
      rw [remove_of_find? hfind]
      refine h.congr (owners_tell session.endpoint .closed) fun other found hfound => ?_
      change (ledger.sessions.erase key).find? other = some found at hfound
      rw [Sessions.find?_erase] at hfound
      split_ifs at hfound
      exact ⟨found, hfound, rfl⟩

theorem Homed.close (h : ledger.Homed) : ledger.close.Homed :=
  close_preserves (h.of_same rfl rfl) (fun _ id hbefore => hbefore.remove id)
    fun _ hbefore => hbefore.of_same rfl rfl

theorem Homed.receive (h : ledger.Homed) (hfind : ledger.sessions.find? key = some session)
    (payload : Bytes) : (ledger.receive key session payload).Homed := by
  have htold : (ledger.tell session.endpoint (.data payload)).Homed :=
    h.of_same (owners_tell session.endpoint _) rfl
  have hcounted := htold.insert hfind
    { session with bytesIn := session.bytesIn + payload.length } rfl
  exact hcounted.of_same rfl rfl

theorem Homed.replies (h : ledger.Homed) {frame : Frame} (hreply : ledger.Replies frame next) :
    next.Homed := by
  rcases hreply with rfl | ⟨-, rfl⟩
  · exact h.of_same rfl rfl
  · exact h.of_same rfl rfl

theorem Works.homed {sent : Option (UInt32 × Bytes)} (hworks : ledger.Works sent next)
    (h : ledger.Homed) : next.Homed := by
  cases hworks with
  | rests => exact h
  | @sends id session payload hopen hfind =>
      have hcounted := h.insert hfind
        { session with bytesOut := session.bytesOut + payload.length } rfl
      exact hcounted.of_same rfl rfl
  | @opens id port =>
      have hmoved : Homed { ledger with nextSession := id.toNat + 2 } := h.of_same rfl rfl
      exact (hmoved.add id port).of_same rfl rfl
  | exhausts | complains | answers => exact h.of_same rfl rfl
  | closes => exact (h.remove _).of_same rfl rfl
  | shuts => exact h.close
  | fails code message =>
      have hreported :
          (ledger.publish (.channelError { code, level := .critical, message })).Homed :=
        h.of_same rfl rfl
      exact hreported.close

theorem Receives.homed {frame : Frame} {admission : Admission}
    (hreceives : ledger.Receives frame admission next) (h : ledger.Homed) : next.Homed := by
  cases hreceives with
  | drops | repeats | acknowledges => exact h
  | strays | conflicts | misreads | notes => exact h.of_same rfl rfl
  | takes hopen hbody hfind => exact h.receive hfind _
  | @rejects payload session error next hopen hbody hfind hreply =>
      refine Homed.replies (Homed.remove ?_ frame.session) hreply
      exact (h.receive hfind payload).of_same rfl rfl
  | admits => exact h.add _ _
  | refuses hopen hbody hfind hadmission hreply => exact (h.replies hreply).of_same rfl rfl
  | ends hopen hbody hreply => exact (h.remove _).replies hreply
  | warns => exact h.of_same (owners_tell _ _) rfl

end Ledger

end SessionMux
