import Mathlib.Algebra.BigOperators.Group.List.Basic
import Mathlib.Data.List.DropRight
import SessionMux.Proofs.Channel.Truthful
import SessionMux.Proofs.Peers.View

/-!
# The books of a channel

Bytes are counted in three places: by the channel, by each live session, and in the trace. A ledger
is balanced if the three agree (`Ledger.Balanced`). The counters of a session stand for its lifetime
alone, so they are compared with what the trace tells since the session last began, while those of
the channel outlive every session.

Each section of local work and each frame of the peer keeps the balance. What they add to the
counters of the channel is the payload that is sent, or that comes in for a live session.
-/

namespace SessionMux

theorem volume_append (front rear : List Bytes) :
    volume (front ++ rear) = volume front + volume rear := by
  rw [volume, List.flatten_append, List.length_append]
  rfl

namespace Change

def bytesIn : Change → Nat
  | sessionTransaction _ bytesIn _ => bytesIn
  | _ => 0

def bytesOut : Change → Nat
  | sessionTransaction _ _ bytesOut => bytesOut
  | _ => 0

end Change

namespace Trace

def total (count : Change → Nat) (changes : List Change) : Nat := (changes.map count).sum

/-- What a trace tells of a session since the session last began. -/
def lifetime (changes : List Change) (id : UInt32) : List Change :=
  (changes.rtakeWhile fun change => change.lifecycle? id ≠ some true).filter
    fun change => change.session? = some id

variable {changes : List Change} {change : Change} {id : UInt32}

theorem total_concat (count : Change → Nat) (changes : List Change) (change : Change) :
    total count (changes ++ [change]) = total count changes + count change := by
  rw [total, List.map_append, List.sum_append, List.map_singleton, List.sum_singleton]
  rfl

theorem lifetime_concat_of_begins (hbegins : change.lifecycle? id = some true) :
    lifetime (changes ++ [change]) id = [] := by
  rw [lifetime, List.rtakeWhile_concat_neg _ _ _ (by simp [hbegins]), List.filter_nil]

theorem lifetime_concat (hbegins : change.lifecycle? id ≠ some true) :
    lifetime (changes ++ [change]) id =
      lifetime changes id ++ if change.session? = some id then [change] else [] := by
  rw [lifetime, List.rtakeWhile_concat_pos _ _ _ (by simp [hbegins]), List.filter_append]
  congr 1
  split_ifs with hsession <;> simp [hsession]

theorem total_lifetime_concat (count : Change → Nat) (hbegins : change.lifecycle? id ≠ some true) :
    total count (lifetime (changes ++ [change]) id) =
      total count (lifetime changes id) +
        if change.session? = some id then count change else 0 := by
  rw [lifetime_concat hbegins]
  split_ifs with hsession
  · exact total_concat count _ change
  · rw [List.append_nil, Nat.add_zero]

end Trace

namespace Ledger

open Trace

/-- The counters of the channel and of each live session are what the trace tells of them. -/
structure Balanced (ledger : Ledger) : Prop where
  received : ledger.bytesIn = total Change.bytesIn ledger.changes
  sent : ledger.bytesOut = total Change.bytesOut ledger.changes
  sessions : ∀ id session, ledger.sessions.find? id = some session →
    session.bytesIn = total Change.bytesIn (lifetime ledger.changes id) ∧
      session.bytesOut = total Change.bytesOut (lifetime ledger.changes id)

variable {ledger next : Ledger} {id : UInt32} {session : Session} {frame : Frame}

theorem Balanced.of_same (h : ledger.Balanced) (hin : next.bytesIn = ledger.bytesIn)
    (hout : next.bytesOut = ledger.bytesOut) (hsessions : next.sessions = ledger.sessions)
    (hchanges : next.changes = ledger.changes) : next.Balanced := by
  refine ⟨?_, ?_, ?_⟩
  · rw [hin, hchanges]
    exact h.received
  · rw [hout, hchanges]
    exact h.sent
  · rw [hsessions, hchanges]
    exact h.sessions

/-- A change that reports no bytes, and no beginning of a session. -/
theorem Balanced.publish (h : ledger.Balanced) {change : Change} (hin : change.bytesIn = 0)
    (hout : change.bytesOut = 0) (hbegins : ∀ id : UInt32, change.lifecycle? id ≠ some true) :
    (ledger.publish change).Balanced := by
  refine ⟨?_, ?_, ?_⟩
  · rw [Ledger.publish, total_concat, hin]
    exact h.received
  · rw [Ledger.publish, total_concat, hout]
    exact h.sent
  · intro id session hfind
    rw [Ledger.publish, total_lifetime_concat _ (hbegins id), total_lifetime_concat _ (hbegins id),
      hin, hout, ite_self, Nat.add_zero, Nat.add_zero]
    exact h.sessions id session hfind

/-- Bytes of a live session are counted for the session and for the channel, and reported. -/
theorem Balanced.count (h : ledger.Balanced) (hfind : ledger.sessions.find? id = some session)
    (entry : Session) {received sent : Nat} (hreceived : entry.bytesIn = session.bytesIn + received)
    (hsent : entry.bytesOut = session.bytesOut + sent)
    (hin : next.bytesIn = ledger.bytesIn + received) (hout : next.bytesOut = ledger.bytesOut + sent)
    (hsessions : next.sessions = ledger.sessions.insert id entry)
    (hchanges : next.changes = ledger.changes ++ [.sessionTransaction id received sent]) :
    next.Balanced := by
  have hbegins (other : UInt32) :
      (Change.sessionTransaction id received sent).lifecycle? other ≠ some true := nofun
  refine ⟨?_, ?_, ?_⟩
  · rw [hin, hchanges, total_concat, h.received]
    rfl
  · rw [hout, hchanges, total_concat, h.sent]
    rfl
  · intro other found hfound
    rw [hsessions, Sessions.find?_insert] at hfound
    rw [hchanges, total_lifetime_concat _ (hbegins other), total_lifetime_concat _ (hbegins other)]
    by_cases heq : other = id
    · subst heq
      rw [if_pos rfl] at hfound
      cases hfound
      obtain ⟨hbefore, hbefore'⟩ := h.sessions other session hfind
      have hself : (Change.sessionTransaction other received sent).session? = some other := rfl
      rw [if_pos hself, if_pos hself, hreceived, hsent, hbefore, hbefore']
      exact ⟨rfl, rfl⟩
    · have hother : (Change.sessionTransaction id received sent).session? ≠ some other := by
        rintro hsome
        cases hsome
        exact heq rfl
      rw [if_neg heq] at hfound
      rw [if_neg hother, if_neg hother]
      exact h.sessions other found hfound

/-- The books of a session are opened anew each time it begins. -/
theorem Balanced.add (h : ledger.Balanced) (id : UInt32) (port : UInt16) :
    (ledger.add id port).Balanced := by
  refine ⟨?_, ?_, ?_⟩
  · rw [Ledger.add, Ledger.publish, total_concat]
    exact h.received
  · rw [Ledger.add, Ledger.publish, total_concat]
    exact h.sent
  · intro other found hfound
    change (ledger.sessions.insert id _).find? other = some found at hfound
    change found.bytesIn = total _ (lifetime (ledger.changes ++ [.sessionCreate id port]) other) ∧
      found.bytesOut = total _ (lifetime (ledger.changes ++ [.sessionCreate id port]) other)
    rw [Sessions.find?_insert] at hfound
    by_cases heq : other = id
    · rw [if_pos heq] at hfound
      cases hfound
      rw [lifetime_concat_of_begins (by rw [Change.lifecycle?, if_pos heq.symm])]
      exact ⟨rfl, rfl⟩
    · have hbegins : (Change.sessionCreate id port).lifecycle? other ≠ some true := by
        rw [Change.lifecycle?, if_neg (Ne.symm heq)]
        exact (Option.some_ne_none true).symm
      have hother : (Change.sessionCreate id port).session? ≠ some other := by
        rintro hsome
        cases hsome
        exact heq rfl
      rw [if_neg heq] at hfound
      rw [lifetime_concat hbegins, if_neg hother, List.append_nil]
      exact h.sessions other found hfound

theorem Balanced.remove (h : ledger.Balanced) (id : UInt32) : (ledger.remove id).Balanced := by
  cases hfind : ledger.sessions.find? id with
  | none =>
      rw [Ledger.remove, hfind]
      exact h
  | some session =>
      rw [remove_of_find? hfind]
      refine Balanced.publish ?_ rfl rfl fun other => ?_
      · refine ⟨h.received, h.sent, ?_⟩
        intro other found hfound
        change (ledger.sessions.erase id).find? other = some found at hfound
        rw [Sessions.find?_erase] at hfound
        split_ifs at hfound
        exact h.sessions other found hfound
      · rw [Change.lifecycle?]
        split_ifs <;> simp

theorem Balanced.close (h : ledger.Balanced) : ledger.close.Balanced :=
  close_preserves (h.of_same rfl rfl rfl rfl) (fun _ id hbefore => hbefore.remove id)
    fun _ hbefore => hbefore.publish rfl rfl nofun

theorem Balanced.push (h : ledger.Balanced) (frame : Frame) : (ledger.push frame).Balanced :=
  h.of_same rfl rfl rfl rfl

theorem Balanced.replies (h : ledger.Balanced) (hreply : ledger.Replies frame next) :
    next.Balanced := by
  obtain rfl | ⟨-, rfl⟩ := hreply
  · exact h.push frame
  · exact h.of_same rfl rfl rfl rfl

theorem Balanced.receive (h : ledger.Balanced) (hfind : ledger.sessions.find? id = some session)
    (payload : Bytes) : (ledger.receive id session payload).Balanced := by
  have hsent : session.bytesOut = session.bytesOut + 0 := rfl
  exact h.count hfind { session with bytesIn := session.bytesIn + payload.length } rfl hsent
    rfl rfl rfl rfl

theorem Balanced.send (h : ledger.Balanced) (hfind : ledger.sessions.find? id = some session)
    (payload : Bytes) : (ledger.send id session payload).Balanced := by
  have hreceived : session.bytesIn = session.bytesIn + 0 := rfl
  exact h.count hfind { session with bytesOut := session.bytesOut + payload.length } hreceived
    rfl rfl rfl rfl rfl

/-! ### Sections of work and frames -/

theorem Works.balanced {sent : Option (UInt32 × Bytes)} (hworks : ledger.Works sent next)
    (h : ledger.Balanced) : next.Balanced := by
  cases hworks with
  | rests => exact h
  | sends payload hopen hfind => exact h.send hfind payload
  | @opens id port hopen hfind hnext hparity =>
      have hmoved : Balanced { ledger with nextSession := id.toNat + 2 } :=
        h.of_same rfl rfl rfl rfl
      exact (hmoved.add id port).push _
  | exhausts => exact h.of_same rfl rfl rfl rfl
  | closes => exact (h.remove _).push _
  | complains => exact (h.push _).publish rfl rfl nofun
  | answers => exact h.of_same rfl rfl rfl rfl
  | shuts => exact h.close
  | fails code message =>
      refine Balanced.close ?_
      exact h.publish rfl rfl nofun

theorem Receives.balanced {admission : Admission} (hreceives : ledger.Receives frame admission next)
    (h : ledger.Balanced) : next.Balanced := by
  cases hreceives with
  | drops | repeats | acknowledges => exact h
  | strays | conflicts | misreads | notes => exact h.publish rfl rfl nofun
  | takes hopen hbody hfind => exact h.receive hfind _
  | rejects error hopen hbody hfind hreply =>
      refine Balanced.replies (Balanced.remove ?_ _) hreply
      exact (h.receive hfind _).publish rfl rfl nofun
  | admits => exact h.add _ _
  | refuses hopen hbody hfind hadmission hreply => exact (h.replies hreply).publish rfl rfl nofun
  | ends hopen hbody hreply => exact (h.remove _).replies hreply
  | warns => exact (h.of_same rfl rfl rfl rfl : Balanced (ledger.tell _ _)).publish rfl rfl nofun

/-! ### What the counters of the channel stand for -/

def taken? (ledger : Ledger) (frame : Frame) : Option Bytes :=
  if ledger.sessions.contains frame.session then frame.payload? else none

theorem bytes_remove (ledger : Ledger) (id : UInt32) :
    (ledger.remove id).bytesIn = ledger.bytesIn ∧
      (ledger.remove id).bytesOut = ledger.bytesOut := by
  obtain ⟨sessions, endpoints, changes, hremove⟩ := ledger.remove_eq id
  rw [hremove]
  exact ⟨rfl, rfl⟩

theorem bytes_close (ledger : Ledger) :
    ledger.close.bytesIn = ledger.bytesIn ∧ ledger.close.bytesOut = ledger.bytesOut := by
  obtain ⟨sessions, endpoints, changes, hended, -⟩ :=
    foldl_remove_eq ledger.sessions.ids { ledger with closed := true }
  rw [close, hended]
  exact ⟨rfl, rfl⟩

theorem Replies.bytes (hreply : ledger.Replies frame next) :
    next.bytesIn = ledger.bytesIn ∧ next.bytesOut = ledger.bytesOut := by
  obtain rfl | ⟨-, rfl⟩ := hreply <;> exact ⟨rfl, rfl⟩

theorem Works.bytes {sent : Option (UInt32 × Bytes)} (hworks : ledger.Works sent next) :
    next.bytesIn = ledger.bytesIn ∧
      next.bytesOut = ledger.bytesOut + volume (sent.map Prod.snd).toList := by
  cases hworks with
  | rests | opens | exhausts | complains | answers => exact ⟨rfl, rfl⟩
  | sends payload hopen hfind =>
      refine ⟨rfl, ?_⟩
      rw [Option.map_some, Option.toList_some, volume, List.flatten_singleton]
      rfl
  | closes => exact ledger.bytes_remove _
  | shuts => exact ledger.bytes_close
  | fails => exact bytes_close _

theorem Receives.bytes {admission : Admission} (hreceives : ledger.Receives frame admission next)
    (h : ledger.Truthful) :
    next.bytesIn = ledger.bytesIn + volume (ledger.taken? frame).toList ∧
      next.bytesOut = ledger.bytesOut := by
  have hnothing (hbody : frame.payload? = none) : volume (ledger.taken? frame).toList = 0 := by
    rw [taken?, hbody, ite_self]
    rfl
  have hunknown (hfind : ledger.sessions.find? frame.session = none) :
      volume (ledger.taken? frame).toList = 0 := by
    rw [taken?, Sessions.contains, hfind, Option.isSome_none, if_neg Bool.false_ne_true]
    rfl
  have hpayload {payload : Bytes} {session : Session} (hbody : frame.body = .data payload)
      (hfind : ledger.sessions.find? frame.session = some session) :
      volume (ledger.taken? frame).toList = payload.length := by
    rw [taken?, Sessions.contains, hfind, Option.isSome_some, if_pos rfl,
      Frame.payload?_eq_some_iff.mpr hbody, Option.toList_some, volume, List.flatten_singleton]
  have hcontrol {code : ControlCode} (hbody : frame.body = .control code) :
      frame.payload? = none := by
    rw [Frame.payload?, hbody]
  have herror {code : ErrorCode} (hbody : frame.body = .error code) : frame.payload? = none := by
    rw [Frame.payload?, hbody]
  cases hreceives with
  | drops hclosed =>
      have hempty : ledger.sessions = .empty := (h.ended hclosed).2.1
      rw [hunknown (by rw [hempty, Sessions.find?_empty])]
      exact ⟨rfl, rfl⟩
  | strays hopen hbody hfind =>
      rw [hunknown hfind]
      exact ⟨rfl, rfl⟩
  | takes hopen hbody hfind =>
      rw [hpayload hbody hfind]
      exact ⟨rfl, rfl⟩
  | rejects error hopen hbody hfind hreply =>
      rw [hpayload hbody hfind, hreply.bytes.1, hreply.bytes.2, (bytes_remove _ _).1,
        (bytes_remove _ _).2]
      exact ⟨rfl, rfl⟩
  | repeats hopen hbody | conflicts hopen hbody | admits hopen hbody | acknowledges hopen hbody
  | misreads hopen hbody =>
      rw [hnothing (hcontrol hbody)]
      exact ⟨rfl, rfl⟩
  | refuses hopen hbody hfind hadmission hreply =>
      rw [hnothing (hcontrol hbody)]
      exact hreply.bytes
  | ends hopen hbody hreply =>
      rw [hnothing (hcontrol hbody), hreply.bytes.1, hreply.bytes.2, (bytes_remove _ _).1,
        (bytes_remove _ _).2]
      exact ⟨rfl, rfl⟩
  | warns hopen hbody hfind =>
      rw [hnothing (herror hbody)]
      exact ⟨rfl, rfl⟩
  | notes hopen hbody hfind =>
      rw [hunknown hfind]
      exact ⟨rfl, rfl⟩

/-! ### What goes into the queue -/

def Dataless (ledger : Ledger) : Prop := payloads ledger.replies = []

theorem frames_push (ledger : Ledger) (frame : Frame) :
    ∃ out, (ledger.push frame).frames = ledger.frames ++ out ∧
      payloads out = if ledger.draining then frame.payload?.toList else [] := by
  rw [push]
  split_ifs with hdraining
  · exact ⟨[frame], rfl, by rw [payloads_cons, payloads_nil, List.append_nil]⟩
  · exact ⟨[], (List.append_nil _).symm, rfl⟩

theorem frames_push_of_dataless (ledger : Ledger) (frame : Frame) (hbody : frame.payload? = none) :
    ∃ out, (ledger.push frame).frames = ledger.frames ++ out ∧ payloads out = [] := by
  obtain ⟨out, hframes, hout⟩ := ledger.frames_push frame
  rw [hbody, Option.toList_none, ite_self] at hout
  exact ⟨out, hframes, hout⟩

theorem Replies.queues (hreply : ledger.Replies frame next) (hbody : frame.payload? = none)
    (h : ledger.Dataless) :
    (∃ out, next.frames = ledger.frames ++ out ∧ payloads out = []) ∧ next.Dataless := by
  obtain rfl | ⟨-, rfl⟩ := hreply
  · exact ⟨ledger.frames_push_of_dataless frame hbody, h⟩
  · refine ⟨⟨[], (List.append_nil _).symm, rfl⟩, ?_⟩
    rw [Dataless, defer, payloads_append, payloads_cons, hbody, h]
    rfl

theorem close_of_dataless (ledger : Ledger) (h : ledger.Dataless) :
    ledger.close.frames = ledger.frames ∧ ledger.close.Dataless := by
  obtain ⟨sessions, endpoints, changes, hended, -⟩ :=
    foldl_remove_eq ledger.sessions.ids { ledger with closed := true }
  rw [close, hended]
  exact ⟨rfl, h⟩

theorem Dataless.remove (h : ledger.Dataless) (id : UInt32) : (ledger.remove id).Dataless := by
  obtain ⟨sessions, endpoints, changes, hremove⟩ := ledger.remove_eq id
  rw [hremove]
  exact h

/-- Local work puts the payload that it sends into the queue, and no other. -/
theorem Works.queues {sent : Option (UInt32 × Bytes)} (hworks : ledger.Works sent next)
    (hdraining : sent ≠ none → ledger.draining = true) (h : ledger.Dataless) :
    (∃ out, next.frames = ledger.frames ++ out ∧ payloads out = (sent.map Prod.snd).toList) ∧
      next.Dataless := by
  have hnothing : ∃ out, ledger.frames = ledger.frames ++ out ∧ payloads out = [] :=
    ⟨[], (List.append_nil _).symm, rfl⟩
  cases hworks with
  | rests | exhausts => exact ⟨hnothing, h⟩
  | sends payload hopen hfind =>
      obtain ⟨out, hframes, hout⟩ := ledger.frames_push
        { port := Session.port _, session := _, body := .data payload }
      rw [if_pos (hdraining (Option.some_ne_none _))] at hout
      exact ⟨⟨out, hframes, hout⟩, h⟩
  | opens port => exact ⟨frames_push_of_dataless _ _ rfl, h⟩
  | closes =>
      obtain ⟨out, hframes, hout⟩ := frames_push_of_dataless (ledger.remove _)
        { port := Session.port _, session := _, body := .control .sessionClose } rfl
      rw [frames_remove] at hframes
      exact ⟨⟨out, hframes, hout⟩, h.remove _⟩
  | complains code =>
      exact ⟨ledger.frames_push_of_dataless
        { port := Session.port _, session := _, body := .error code } rfl, h⟩
  | @answers front rear frame hreplies =>
      rw [Dataless, hreplies, payloads_append, payloads_cons, List.append_eq_nil_iff,
        List.append_eq_nil_iff, Option.toList_eq_nil_iff] at h
      obtain ⟨hfront, hframe, hrear⟩ := h
      refine ⟨frames_push_of_dataless _ _ hframe, ?_⟩
      rw [Dataless, push, payloads_append, hfront, hrear]
      rfl
  | shuts =>
      obtain ⟨hframes, hclosed⟩ := ledger.close_of_dataless h
      refine ⟨⟨[], ?_, rfl⟩, hclosed⟩
      rw [hframes, List.append_nil]
  | fails code message =>
      obtain ⟨hframes, hclosed⟩ := close_of_dataless
        (ledger.publish (.channelError { code, level := .critical, message })) h
      refine ⟨⟨[], ?_, rfl⟩, hclosed⟩
      rw [hframes, List.append_nil]
      rfl

theorem Receives.queues {admission : Admission} (hreceives : ledger.Receives frame admission next)
    (h : ledger.Dataless) :
    (∃ out, next.frames = ledger.frames ++ out ∧ payloads out = []) ∧ next.Dataless := by
  have hnothing : ∃ out, ledger.frames = ledger.frames ++ out ∧ payloads out = [] :=
    ⟨[], (List.append_nil _).symm, rfl⟩
  cases hreceives with
  | drops | strays | takes | repeats | conflicts | admits | acknowledges | misreads | warns
  | notes => exact ⟨hnothing, h⟩
  | rejects error hopen hbody hfind hreply =>
      obtain ⟨⟨out, hframes, hout⟩, hnext⟩ := hreply.queues rfl (Dataless.remove (by exact h) _)
      rw [frames_remove] at hframes
      exact ⟨⟨out, hframes, hout⟩, hnext⟩
  | refuses hopen hbody hfind hadmission hreply => exact hreply.queues rfl h
  | ends hopen hbody hreply =>
      obtain ⟨⟨out, hframes, hout⟩, hnext⟩ := hreply.queues rfl (h.remove _)
      rw [frames_remove] at hframes
      exact ⟨⟨out, hframes, hout⟩, hnext⟩

end Ledger

end SessionMux
