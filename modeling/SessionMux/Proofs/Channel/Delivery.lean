import SessionMux.Proofs.Channel.Endings

/-!
# What an endpoint is told, and when

While its session is in the table, an endpoint has been told the payloads and the errors that
arrived for it, in order, and nothing else. Once the session has left the table, by whatever way, it
has been told of the end besides, once and last. `Ledger.Delivered` says so for what has arrived up
to now; a section of local work brings nothing new, and a frame brings what it carries to the one
endpoint that its session has in the table.
-/

namespace SessionMux

/-- What a frame tells the endpoint of its session, if it is not about the session itself. -/
def FrameBody.message? : FrameBody → Option Message
  | data payload => some (.data payload)
  | error code => some (.error code)
  | control _ => none

namespace Sessions

variable {sessions : Sessions} {key : UInt32} {session : Session} {frame : Frame}
  {message : Message}

def home? (sessions : Sessions) (id : UInt32) : Option Nat :=
  (sessions.find? id).map Session.endpoint

def arrival? (sessions : Sessions) (frame : Frame) (place : Nat) : Option Message :=
  if sessions.home? frame.session = some place then frame.body.message? else none

theorem home?_of_find? (hfind : sessions.find? key = some session) :
    sessions.home? key = some session.endpoint := by
  rw [home?, hfind, Option.map_some]

theorem home?_eq_none (hfind : sessions.find? key = none) : sessions.home? key = none := by
  rw [home?, hfind, Option.map_none]

theorem home?_insert (sessions : Sessions) (key other : UInt32) (entry : Session) :
    (sessions.insert key entry).home? other =
      if other = key then some entry.endpoint else sessions.home? other := by
  rw [home?, find?_insert]
  by_cases heq : other = key
  · rw [if_pos heq, if_pos heq, Option.map_some]
  · rw [if_neg heq, if_neg heq, home?]

theorem home?_erase (sessions : Sessions) (key other : UInt32) :
    (sessions.erase key).home? other = if other = key then none else sessions.home? other := by
  rw [home?, find?_erase]
  by_cases heq : other = key
  · rw [if_pos heq, if_pos heq, Option.map_none]
  · rw [if_neg heq, if_neg heq, home?]

/-- A new entry for a live session does not move it. -/
theorem home?_insert_of_find? (hfind : sessions.find? key = some session)
    (entry : Session) (hentry : entry.endpoint = session.endpoint) (other : UInt32) :
    (sessions.insert key entry).home? other = sessions.home? other := by
  rw [home?_insert]
  by_cases heq : other = key
  · rw [if_pos heq, heq, home?_of_find? hfind, hentry]
  · rw [if_neg heq]

theorem arrival?_of_none (hbody : frame.body.message? = none) (place : Nat) :
    sessions.arrival? frame place = none := by
  rw [arrival?, hbody, ite_self]

theorem arrival?_of_unknown (hfind : sessions.find? frame.session = none) (place : Nat) :
    sessions.arrival? frame place = none := by
  rw [arrival?, home?_eq_none hfind, if_neg (by simp)]

theorem toList_arrival? (hfind : sessions.find? frame.session = some session)
    (hbody : frame.body.message? = some message) (place : Nat) :
    (sessions.arrival? frame place).toList =
      if session.endpoint = place then [message] else [] := by
  rw [arrival?, home?_of_find? hfind, hbody]
  by_cases hhere : session.endpoint = place
  · rw [if_pos hhere, if_pos (by rw [hhere]), Option.toList_some]
  · rw [if_neg hhere, if_neg (by simpa using hhere), Option.toList_none]

end Sessions

namespace Ledger

/-- `arrived` is what came in for the endpoint at each place. -/
structure Delivered (ledger : Ledger) (arrived : Nat → List Message) : Prop where
  told : ∀ (place : Nat) (owner : UInt32) (told : List Message),
    ledger.endpoints[place]? = some (owner, told) →
      told = arrived place ++
        if ledger.sessions.home? owner = some place then [] else [.closed]
  vacant : ∀ place, ledger.endpoints.length ≤ place → arrived place = []

variable {ledger next : Ledger} {arrived : Nat → List Message} {key : UInt32} {session : Session}
  {message : Message}

/-- The endpoint at the place of a live session is its own. -/
theorem Homed.owner_eq (h : ledger.Homed) (hfind : ledger.sessions.find? key = some session)
    {owner : UInt32} {told : List Message}
    (hplace : ledger.endpoints[session.endpoint]? = some (owner, told)) : owner = key := by
  have howner := h.owner hfind
  rw [owners, List.getElem?_map, hplace] at howner
  exact Option.some.inj howner

/-! ### The operations of the ledger -/

/-- What was told and where the sessions are is all that matters. -/
theorem Delivered.congr (h : ledger.Delivered arrived)
    (hendpoints : next.endpoints = ledger.endpoints)
    (hhomes : ∀ id, next.sessions.home? id = ledger.sessions.home? id) :
    next.Delivered arrived where
  told := by
    intro place owner told hplace
    rw [hendpoints] at hplace
    rw [hhomes]
    exact h.told place owner told hplace
  vacant := by
    rw [hendpoints]
    exact h.vacant

theorem Delivered.of_same (h : ledger.Delivered arrived)
    (hendpoints : next.endpoints = ledger.endpoints) (hsessions : next.sessions = ledger.sessions) :
    next.Delivered arrived :=
  h.congr hendpoints fun _ => by rw [hsessions]

theorem Delivered.replies (h : ledger.Delivered arrived) {frame : Frame}
    (hreply : ledger.Replies frame next) : next.Delivered arrived := by
  rcases hreply with rfl | ⟨-, rfl⟩
  · exact h.of_same rfl rfl
  · exact h.of_same rfl rfl

/-- A session that begins has an endpoint of its own, which was told nothing. -/
theorem Delivered.add (h : ledger.Delivered arrived) (hfind : ledger.sessions.find? key = none)
    (port : UInt16) : (ledger.add key port).Delivered arrived where
  told := by
    intro place owner told hplace
    change (ledger.endpoints ++ [(key, [])])[place]? = _ at hplace
    change told = _ ++ if (ledger.sessions.insert key _).home? owner = some place then _ else _
    rw [Sessions.home?_insert]
    by_cases hbound : place < ledger.endpoints.length
    · rw [List.getElem?_append_left hbound] at hplace
      have htold := h.told place owner told hplace
      by_cases howner : owner = key
      · rw [howner, Sessions.home?_eq_none hfind, if_neg (by simp)] at htold
        rw [if_pos howner, if_neg]
        · exact htold
        · simp only [Session.create, Option.some.injEq]
          omega
      · rw [if_neg howner]
        exact htold
    · have hlast : place = ledger.endpoints.length := by
        have hlength := (List.getElem?_eq_some_iff.mp hplace).1
        rw [List.length_append, List.length_singleton] at hlength
        omega
      subst hlast
      rw [List.getElem?_concat_length, Option.some.injEq, Prod.mk.injEq] at hplace
      obtain ⟨rfl, rfl⟩ := hplace
      have hnew : (Session.create port ledger.endpoints.length).endpoint =
          ledger.endpoints.length := rfl
      rw [if_pos rfl, hnew, if_pos rfl, h.vacant _ le_rfl, List.append_nil]
  vacant := by
    intro place hplace
    change (ledger.endpoints ++ [(key, [])]).length ≤ place at hplace
    rw [List.length_append] at hplace
    exact h.vacant place (by omega)

theorem length_endpoints_tell (ledger : Ledger) (place : Nat) (message : Message) :
    (ledger.tell place message).endpoints.length = ledger.endpoints.length := by
  rw [tell, List.length_modify]

/-- A live session is told what arrives for it. -/
theorem Delivered.tell (h : ledger.Delivered arrived) (hhomed : ledger.Homed)
    (hfind : ledger.sessions.find? key = some session) (message : Message) :
    (ledger.tell session.endpoint message).Delivered fun place =>
      arrived place ++ if session.endpoint = place then [message] else [] where
  told := by
    intro place owner told hplace
    rw [endpoints_tell] at hplace
    obtain ⟨⟨before, earlier⟩, hbefore, heq⟩ := Option.map_eq_some_iff.mp hplace
    obtain ⟨rfl, rfl⟩ := Prod.mk.inj heq
    have htold := h.told place before earlier hbefore
    change _ = _ ++ if ledger.sessions.home? before = some place then _ else _
    by_cases hhere : session.endpoint = place
    · have howner : before = key := hhomed.owner_eq hfind (by rw [hhere, hbefore])
      rw [howner, Sessions.home?_of_find? hfind, hhere, if_pos rfl, List.append_nil] at htold
      rw [if_pos hhere, if_pos hhere, howner, Sessions.home?_of_find? hfind, hhere, if_pos rfl,
        List.append_nil, htold]
    · rw [if_neg hhere, if_neg hhere, List.append_nil]
      exact htold
  vacant := by
    intro place hplace
    rw [length_endpoints_tell] at hplace
    have hhome := hhomed.owner hfind
    have hbound := (List.getElem?_eq_some_iff.mp hhome).1
    rw [owners, List.length_map] at hbound
    rw [h.vacant place hplace, if_neg (by omega), List.append_nil]

/-- A session that leaves the table has told its endpoint so. -/
theorem Delivered.remove (h : ledger.Delivered arrived) (hhomed : ledger.Homed) (id : UInt32) :
    (ledger.remove id).Delivered arrived := by
  cases hfind : ledger.sessions.find? id with
  | none =>
      rw [Ledger.remove, hfind]
      exact h
  | some session =>
      rw [remove_of_find? hfind]
      refine ⟨?_, ?_⟩
      · intro place owner told hplace
        change (ledger.tell session.endpoint .closed).endpoints[place]? = _ at hplace
        change told = _ ++ if (ledger.sessions.erase id).home? owner = some place then _ else _
        rw [endpoints_tell] at hplace
        obtain ⟨⟨before, earlier⟩, hbefore, heq⟩ := Option.map_eq_some_iff.mp hplace
        obtain ⟨rfl, rfl⟩ := Prod.mk.inj heq
        have htold := h.told place before earlier hbefore
        rw [Sessions.home?_erase]
        by_cases hhere : session.endpoint = place
        · have howner : before = id := hhomed.owner_eq hfind (by rw [hhere, hbefore])
          rw [howner, Sessions.home?_of_find? hfind, hhere, if_pos rfl, List.append_nil] at htold
          rw [if_pos hhere, if_pos howner, if_neg (by simp), htold]
        · rw [if_neg hhere]
          by_cases howner : before = id
          · rw [howner, Sessions.home?_of_find? hfind, if_neg (by simpa using hhere)] at htold
            rw [if_pos howner, if_neg (by simp)]
            exact htold
          · rw [if_neg howner]
            exact htold
      · intro place hplace
        change (ledger.tell session.endpoint .closed).endpoints.length ≤ place at hplace
        rw [length_endpoints_tell] at hplace
        exact h.vacant place hplace

theorem Delivered.close (h : ledger.Delivered arrived) (hhomed : ledger.Homed) :
    ledger.close.Delivered arrived :=
  (close_preserves (motive := fun after => after.Homed ∧ after.Delivered arrived)
    ⟨hhomed.of_same rfl rfl, h.of_same rfl rfl⟩
    (fun _ id hbefore => ⟨hbefore.1.remove id, hbefore.2.remove hbefore.1 id⟩)
    fun _ hbefore => ⟨hbefore.1.of_same rfl rfl, hbefore.2.of_same rfl rfl⟩).2

theorem Delivered.receive (h : ledger.Delivered arrived) (hhomed : ledger.Homed)
    (hfind : ledger.sessions.find? key = some session) (payload : Bytes) :
    (ledger.receive key session payload).Delivered fun place =>
      arrived place ++ if session.endpoint = place then [.data payload] else [] :=
  (h.tell hhomed hfind (.data payload)).congr rfl
    (Sessions.home?_insert_of_find? hfind
      { session with bytesIn := session.bytesIn + payload.length } rfl)

/-! ### Sections of work and frames -/

theorem Works.delivered {sent : Option (UInt32 × Bytes)} (hworks : ledger.Works sent next)
    (hhomed : ledger.Homed) (h : ledger.Delivered arrived) : next.Delivered arrived := by
  cases hworks with
  | rests => exact h
  | @sends id session payload hopen hfind =>
      exact h.congr rfl (Sessions.home?_insert_of_find? hfind
        { session with bytesOut := session.bytesOut + payload.length } rfl)
  | @opens id port hopen hfind =>
      have hmoved : Delivered { ledger with nextSession := id.toNat + 2 } arrived :=
        h.of_same rfl rfl
      exact (hmoved.add hfind port).of_same rfl rfl
  | exhausts | complains | answers => exact h.of_same rfl rfl
  | closes => exact (h.remove hhomed _).of_same rfl rfl
  | shuts => exact h.close hhomed
  | fails code message =>
      have hreported : (ledger.publish
          (.channelError { code, level := .critical, message })).Delivered arrived :=
        h.of_same rfl rfl
      exact hreported.close (hhomed.of_same rfl rfl)

theorem Receives.delivered {frame : Frame} {admission : Admission}
    (hreceives : ledger.Receives frame admission next) (htruthful : ledger.Truthful)
    (hhomed : ledger.Homed) (h : ledger.Delivered arrived) :
    next.Delivered fun place =>
      arrived place ++ (ledger.sessions.arrival? frame place).toList := by
  have hnothing (hnone : ∀ place, ledger.sessions.arrival? frame place = none)
      (hnext : next.Delivered arrived) :
      next.Delivered fun place =>
        arrived place ++ (ledger.sessions.arrival? frame place).toList := by
    simpa only [hnone, Option.toList_none, List.append_nil] using hnext
  -- Nothing arrives with a frame for a session that is not live, or about the session itself.
  have hunknown (hfind : ledger.sessions.find? frame.session = none) :=
    hnothing (Sessions.arrival?_of_unknown hfind)
  have hcontrol {code : ControlCode} (hbody : frame.body = .control code) :=
    hnothing (Sessions.arrival?_of_none (by rw [hbody, FrameBody.message?]))
  cases hreceives with
  | drops hclosed =>
      have hempty : ledger.sessions = .empty := (htruthful.ended hclosed).2.1
      apply hunknown
      · rw [hempty]
        rfl
      · exact h
  | strays hopen hbody hfind => exact hunknown hfind (h.of_same rfl rfl)
  | notes hopen hbody hfind => exact hunknown hfind (h.of_same rfl rfl)
  | @takes payload session hopen hbody hfind =>
      have hmessage : frame.body.message? = some (.data payload) := by
        rw [hbody, FrameBody.message?]
      simp only [Sessions.toList_arrival? hfind hmessage]
      exact h.receive hhomed hfind payload
  | @rejects payload session error next hopen hbody hfind hreply =>
      have hmessage : frame.body.message? = some (.data payload) := by
        rw [hbody, FrameBody.message?]
      simp only [Sessions.toList_arrival? hfind hmessage]
      refine Delivered.replies (Delivered.remove ?_ ?_ frame.session) hreply
      · exact (h.receive hhomed hfind payload).of_same rfl rfl
      · exact (hhomed.receive hfind payload).of_same rfl rfl
  | @warns code session hopen hbody hfind =>
      have hmessage : frame.body.message? = some (.error code) := by
        rw [hbody, FrameBody.message?]
      simp only [Sessions.toList_arrival? hfind hmessage]
      exact (h.tell hhomed hfind (.error code)).of_same rfl rfl
  | repeats hopen hbody => exact hcontrol hbody h
  | conflicts hopen hbody => exact hcontrol hbody (h.of_same rfl rfl)
  | admits hopen hbody hfind => exact hcontrol hbody (h.add hfind _)
  | refuses hopen hbody hfind hadmission hreply =>
      exact hcontrol hbody ((h.replies hreply).of_same rfl rfl)
  | ends hopen hbody hreply => exact hcontrol hbody ((h.remove hhomed _).replies hreply)
  | acknowledges hopen hbody => exact hcontrol hbody h
  | misreads hopen hbody => exact hcontrol hbody (h.of_same rfl rfl)

/-- A payload for a session that is not live changes neither the table nor what anyone was told. -/
theorem Receives.unheard {frame : Frame} {admission : Admission} {payload : Bytes}
    (hreceives : ledger.Receives frame admission next) (hbody : frame.body = .data payload)
    (hfind : ledger.sessions.find? frame.session = none) :
    next.endpoints = ledger.endpoints ∧ next.sessions = ledger.sessions := by
  cases hreceives with
  | drops => exact ⟨rfl, rfl⟩
  | strays => exact ⟨rfl, rfl⟩
  | takes hopen hbody' hfound =>
      rw [hfind] at hfound
      cases hfound
  | rejects error hopen hbody' hfound =>
      rw [hfind] at hfound
      cases hfound
  | repeats hopen hother | conflicts hopen hother | admits hopen hother | refuses hopen hother
  | ends hopen hother | acknowledges hopen hother | misreads hopen hother | warns hopen hother
  | notes hopen hother =>
      rw [hbody] at hother
      cases hother

end Ledger

end SessionMux
