import Mathlib.Data.List.Basic
import SessionMux.Channel.Call

/-!
# What a call in vain does to a channel

A call asks for a place in the outbound queue before it looks at the channel, and it gives the place
back when it finds that it cannot go on. `Channel.Spares` says that nothing but this has happened: a
channel is what it was, but for the places of one caller, for the places that were passed on to
others, and for the number from which the next search for a session id goes on. Each turn of a call
that has not succeeded spares the channel (`Call.spares_step`).
-/

namespace SessionMux

namespace Outbox

variable {outbox next last : Outbox} {caller : Caller}

def places (outbox : Outbox) : List Caller := outbox.granted ++ outbox.waiting

structure Spares (outbox : Outbox) (caller : Caller) (next : Outbox) : Prop where
  rest : next = { outbox with granted := next.granted, waiting := next.waiting }
  others : next.places.filter (· ≠ caller) = outbox.places.filter (· ≠ caller)
  granted : ∀ other, other ≠ caller → other ∈ outbox.granted → other ∈ next.granted

theorem Spares.refl (outbox : Outbox) (caller : Caller) : outbox.Spares caller outbox :=
  ⟨rfl, rfl, fun _ _ hmem => hmem⟩

theorem Spares.trans (hfirst : outbox.Spares caller next) (hsecond : next.Spares caller last) :
    outbox.Spares caller last where
  rest := by
    rw [hsecond.rest, hfirst.rest]
  others := hsecond.others.trans hfirst.others
  granted := fun other hne hmem => hsecond.granted other hne (hfirst.granted other hne hmem)

theorem places_grantFree (outbox : Outbox) : outbox.grantFree.places = outbox.places := by
  rw [places, grantFree, List.append_assoc, List.take_append_drop]
  rfl

theorem spares_request (outbox : Outbox) (caller : Caller) :
    outbox.Spares caller (outbox.request caller) := by
  have hself : [caller].filter (· ≠ caller) = [] := by simp
  rw [request]
  split_ifs
  · refine ⟨rfl, ?_, fun _ _ hmem => List.mem_append_left _ hmem⟩
    rw [places, places, List.filter_append, List.filter_append, List.filter_append, hself,
      List.append_nil]
  · refine ⟨rfl, ?_, fun _ _ hmem => hmem⟩
    rw [places, places, List.filter_append, List.filter_append, List.filter_append, hself,
      List.append_nil]

theorem spares_reserve (outbox : Outbox) (caller : Caller) :
    outbox.Spares caller (outbox.reserve caller).2 := by
  rw [reserve]
  split_ifs
  · exact .refl _ _
  · exact .refl _ _
  · exact .refl _ _
  · exact outbox.spares_request caller
  · exact outbox.spares_request caller

theorem places_release (outbox : Outbox) (caller : Caller) :
    (outbox.release caller).places = outbox.places.filter (· ≠ caller) := by
  rw [release, places_grantFree, places, places, List.filter_append]

theorem spares_release (outbox : Outbox) (caller : Caller) :
    outbox.Spares caller (outbox.release caller) where
  rest := rfl
  others := by
    rw [places_release, List.filter_filter]
    simp only [Bool.and_self]
  granted := fun other hne hmem =>
    List.mem_append_left _ (List.mem_filter.mpr ⟨hmem, decide_eq_true hne⟩)

theorem not_mem_places_release (outbox : Outbox) (caller : Caller) :
    caller ∉ (outbox.release caller).places := by
  rw [places_release, List.mem_filter]
  rintro ⟨-, hne⟩
  exact absurd rfl (of_decide_eq_true hne)

end Outbox

namespace Channel

variable {channel next last : Channel} {caller : Caller}

/-- Nothing has changed but the places of one caller and where the search for a session id goes on,
and nobody was told of anything but of a place. -/
structure Spares (channel : Channel) (caller : Caller) (next : Channel) : Prop where
  rest : next = { channel with
    nextSession := next.nextSession, outbox := next.outbox, signals := next.signals }
  forward : channel.nextSession ≤ next.nextSession
  outbox : channel.outbox.Spares caller next.outbox
  signals : ∃ callers : List Caller, next.signals = channel.signals ++ callers.map .granted

theorem Spares.refl (channel : Channel) (caller : Caller) : channel.Spares caller channel :=
  ⟨rfl, Nat.le_refl _, .refl _ _, [], (List.append_nil _).symm⟩

theorem Spares.trans (hfirst : channel.Spares caller next) (hsecond : next.Spares caller last) :
    channel.Spares caller last where
  rest := by
    rw [hsecond.rest, hfirst.rest]
  forward := Nat.le_trans hfirst.forward hsecond.forward
  outbox := hfirst.outbox.trans hsecond.outbox
  signals := by
    obtain ⟨first, hfirst⟩ := hfirst.signals
    obtain ⟨second, hsecond⟩ := hsecond.signals
    refine ⟨first ++ second, ?_⟩
    rw [hsecond, hfirst, List.append_assoc, List.map_append]

theorem spares_reserve (channel : Channel) (caller : Caller) :
    channel.Spares caller (channel.reserve caller).2 :=
  ⟨rfl, Nat.le_refl _, channel.outbox.spares_reserve caller, [], (List.append_nil _).symm⟩

theorem spares_giveBack (channel : Channel) (caller : Caller) :
    channel.Spares caller (channel.giveBack caller) :=
  ⟨rfl, Nat.le_refl _, channel.outbox.spares_release caller, _, rfl⟩

theorem spares_exhaust (channel : Channel) (caller : Caller) :
    channel.Spares caller { channel with nextSession := channel.nextAfter none } :=
  ⟨rfl, Nat.le_max_left _ _, .refl _ _, [], (List.append_nil _).symm⟩

/-! ### Requests that fail -/

theorem spares_send (channel : Channel) (caller : Caller) (id : UInt32) (payload : Bytes)
    (hfails : (channel.send caller id payload).1 ≠ .ok ()) :
    channel.Spares caller (channel.send caller id payload).2 := by
  unfold send at hfails ⊢
  split
  · exact spares_giveBack _ _
  · split
    · exact spares_giveBack _ _
    · rename_i hopen _ session hfind
      rw [if_neg hopen, hfind] at hfails
      exact absurd rfl hfails

theorem spares_openSession (channel : Channel) (caller : Caller) (port : UInt16)
    (kind : EndpointKind) (hfails : ∀ id, (channel.openSession caller port kind).1 ≠ .ok id) :
    channel.Spares caller (channel.openSession caller port kind).2 := by
  unfold openSession at hfails ⊢
  split
  · exact spares_giveBack _ _
  · rename_i hopen
    rw [if_neg hopen] at hfails
    cases hfound : firstFree? channel.sessions channel.sessions.size channel.nextSession with
    | none => exact (spares_exhaust channel caller).trans (spares_giveBack _ _)
    | some id =>
        simp only [hfound] at hfails
        exact absurd rfl (hfails id)

theorem spares_closeSession (channel : Channel) (caller : Caller) (id : UInt32) (waits : Bool)
    (hfails : (channel.closeSession caller id waits).1 ≠ .ok ()) :
    channel.Spares caller (channel.closeSession caller id waits).2 := by
  unfold closeSession at hfails ⊢
  split
  · exact spares_giveBack _ _
  · split
    · exact spares_giveBack _ _
    · rename_i hopen _ session hfind
      rw [if_neg hopen, hfind] at hfails
      exact absurd rfl hfails

theorem spares_sendError (channel : Channel) (caller : Caller) (id : UInt32) (code : ErrorCode)
    (hfails : (channel.sendError caller id code).1 ≠ .ok ()) :
    channel.Spares caller (channel.sendError caller id code).2 := by
  unfold sendError at hfails ⊢
  split
  · exact spares_giveBack _ _
  · split
    · exact spares_giveBack _ _
    · rename_i hopen _ session hfind
      rw [if_neg hopen, hfind] at hfails
      exact absurd rfl hfails

end Channel

namespace Call

variable {channel : Channel} {caller : Caller}

def Succeeds : Turn CallStage CallResult → Prop
  | .ends (.ok _) | .waits (.awaiting ..) | .goes (.awaiting ..) => True
  | _ => False

theorem spares_perform (channel : Channel) (clock : Nat) (caller : Caller) (request : Request)
    (hfails : ¬ Succeeds (perform channel clock caller request).1) :
    channel.Spares caller (perform channel clock caller request).2 := by
  cases request with
  | send id payload =>
      refine channel.spares_send caller id payload fun hok => hfails ?_
      simp only [perform, hok]
      trivial
  | openSession port kind =>
      refine channel.spares_openSession caller port kind fun id hok => hfails ?_
      simp only [perform, hok]
      trivial
  | closeSession id =>
      refine channel.spares_closeSession caller id false fun hok => hfails ?_
      simp only [perform, hok]
      trivial
  | sendError id code =>
      refine channel.spares_sendError caller id code fun hok => hfails ?_
      simp only [perform, hok]
      trivial
  | closeAndWait id timeout =>
      have hspares := channel.spares_closeSession caller id true
      rcases hclose : channel.closeSession caller id true with ⟨error | ⟨⟩, next⟩ <;>
        rw [hclose] at hspares <;> simp only [perform, hclose] at hfails ⊢
      · exact hspares nofun
      · exact absurd trivial hfails

theorem spares_ask (channel : Channel) (clock : Nat) (caller : Caller) (request : Request)
    (hfails : ¬ Succeeds (ask channel clock caller request).1) :
    channel.Spares caller (ask channel clock caller request).2 := by
  revert hfails
  unfold ask
  extract_lets oversize
  clear_value oversize
  intro hfails
  cases oversize with
  | some error => exact .refl _ _
  | none =>
      have hreserve := channel.spares_reserve caller
      rcases hreserved : channel.reserve caller with ⟨_ | _ | _, next⟩ <;>
        rw [hreserved] at hreserve <;> simp only [hreserved] at hfails ⊢
      · exact hreserve.trans (spares_perform next clock caller request hfails)
      · exact hreserve
      · exact hreserve

/-- **A call that has not succeeded spares the channel.** So does each turn of a call before its
frame is in the queue, whether the call goes on, waits for a place or ends in an error. -/
theorem spares_step (channel : Channel) (present : Bool) (clock : Nat) (caller : Caller)
    (request : Request) {stage : CallStage} (hstage : stage = .arriving ∨ stage = .asking)
    (hfails : ¬ Succeeds (step channel present clock caller request stage).1) :
    channel.Spares caller (step channel present clock caller request stage).2 := by
  obtain rfl | rfl := hstage
  · exact .refl _ _
  · exact spares_ask channel clock caller request hfails

end Call

end SessionMux
