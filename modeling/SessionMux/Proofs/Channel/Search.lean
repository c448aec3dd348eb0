import Mathlib.Data.List.Basic
import SessionMux.Proofs.Channel.Register

/-!
# The search for a session id

Our side takes its ids from a counter, in steps of two. A peer may use any id, so the search passes
over those that are live. It is a loop (`Sessions.Seeks`) that passes over no more ids than there
are live sessions, so the bound in `Channel.firstFree?` never cuts it short (`Sessions.seeks`). It
finds the least id that is free, and fails only where none is (`Channel.opening_openSession`).
-/

namespace SessionMux

open Channel (sessionBound firstFree?)

def Register.ours (register : Register) : List UInt32 :=
  (register.origins.filter (!·.2)).map (·.1)

namespace Sessions

/-- An id that our side may use: it is not live, not below the counter, and of its parity. -/
structure IsFree (sessions : Sessions) (next : Nat) (id : UInt32) : Prop where
  unused : sessions.find? id = none
  above : next ≤ id.toNat
  parity : id.toNat % 2 = next % 2

/-- A search: where it begins, how many ids it passes over, what it finds, and where the counter is
afterwards. -/
inductive Seeks (sessions : Sessions) : Nat → Nat → Option UInt32 → Nat → Prop
  | exhausts {next : Nat} (hbound : sessionBound ≤ next) : Seeks sessions next 0 none next
  | takes {next : Nat} (hbound : next < sessionBound)
      (hunused : sessions.find? (.ofNat next) = none) :
      Seeks sessions next 0 (some (.ofNat next)) (next + 2)
  | passes {next passed after : Nat} {found : Option UInt32} (hbound : next < sessionBound)
      (hlive : sessions.find? (.ofNat next) ≠ none)
      (hrest : Seeks sessions (next + 2) passed found after) :
      Seeks sessions next (passed + 1) found after

variable {sessions : Sessions} {next passed after : Nat} {found : Option UInt32} {id : UInt32}

theorem toNat_ofNat (hbound : next < sessionBound) : (UInt32.ofNat next).toNat = next :=
  UInt32.toNat_ofNat_of_lt' hbound

/-- Past an id that is live, the same ids are free. -/
theorem isFree_passed (hbound : next < sessionBound)
    (hlive : sessions.find? (.ofNat next) ≠ none) :
    sessions.IsFree (next + 2) id ↔ sessions.IsFree next id := by
  constructor
  · rintro ⟨hunused, habove, hparity⟩
    exact ⟨hunused, by omega, by omega⟩
  · rintro ⟨hunused, habove, hparity⟩
    have hne : id.toNat ≠ next := by
      rintro rfl
      rw [UInt32.ofNat_toNat] at hlive
      exact hlive hunused
    exact ⟨hunused, by omega, by omega⟩

theorem Seeks.least (h : sessions.Seeks next passed (some id) after) :
    sessions.IsFree next id ∧ (∀ other, sessions.IsFree next other → id ≤ other) ∧
      after = id.toNat + 2 := by
  generalize hfound : some id = found at h
  induction h with
  | exhausts => cases hfound
  | takes hbound hunused =>
      cases hfound
      have hid := toNat_ofNat hbound
      refine ⟨⟨hunused, Nat.le_of_eq hid.symm, by rw [hid]⟩, fun other hother => ?_, by rw [hid]⟩
      rw [UInt32.le_iff_toNat_le, hid]
      exact hother.above
  | passes hbound hlive hrest ih =>
      obtain ⟨hfree, hleast, hafter⟩ := ih hfound
      exact ⟨(isFree_passed hbound hlive).mp hfree,
        fun other hother => hleast other ((isFree_passed hbound hlive).mpr hother), hafter⟩

theorem Seeks.none (h : sessions.Seeks next passed none after) :
    (∀ id, ¬ sessions.IsFree next id) ∧ after = max next (sessionBound + next % 2) := by
  generalize hfound : (Option.none : Option UInt32) = found at h
  induction h with
  | exhausts hbound =>
      refine ⟨fun id hfree => ?_, ?_⟩
      · have habove := hfree.above
        have hsmall : id.toNat < sessionBound := id.toNat_lt
        omega
      · simp only [sessionBound] at hbound ⊢
        omega
  | takes => cases hfound
  | @passes next _ _ _ hbound hlive hrest ih =>
      obtain ⟨hnone, hafter⟩ := ih hfound
      refine ⟨fun id hfree => hnone id ((isFree_passed hbound hlive).mpr hfree), ?_⟩
      rw [hafter]
      simp only [sessionBound] at hbound ⊢
      omega

def liveFrom (sessions : Sessions) (next : Nat) : List UInt32 :=
  sessions.ids.filter (next ≤ ·.toNat)

theorem length_liveFrom_le (sessions : Sessions) (next : Nat) :
    (sessions.liveFrom next).length ≤ sessions.size :=
  (List.length_filter_le _ _).trans_eq (List.length_map _)

/-- An id that was passed over is not met again. -/
theorem liveFrom_passed (hbound : next < sessionBound)
    (hlive : sessions.find? (.ofNat next) ≠ none) :
    (sessions.liveFrom (next + 2)).length < (sessions.liveFrom next).length := by
  have hsublist : (sessions.liveFrom (next + 2)).Sublist (sessions.liveFrom next) := by
    refine List.monotone_filter_right _ fun id hid => ?_
    simp only [decide_eq_true_eq] at hid ⊢
    omega
  refine hsublist.length_le.lt_of_ne fun heq => ?_
  have hmem : UInt32.ofNat next ∈ sessions.liveFrom next := by
    rw [Ne, find?_eq_none_iff, not_not] at hlive
    exact List.mem_filter.mpr ⟨hlive, by simp [toNat_ofNat hbound]⟩
  rw [← hsublist.eq_of_length heq] at hmem
  have habove := (List.mem_filter.mp hmem).2
  rw [toNat_ofNat hbound, decide_eq_true_eq] at habove
  omega

theorem firstFree?_of_free {fuel : Nat} (hbound : next < sessionBound)
    (hunused : sessions.find? (.ofNat next) = none) :
    firstFree? sessions fuel next = some (.ofNat next) := by
  unfold firstFree?
  rw [if_pos hbound, if_neg (by simp [contains, hunused])]

theorem firstFree?_of_bound {fuel : Nat} (hbound : ¬ next < sessionBound) :
    firstFree? sessions fuel next = none := by
  unfold firstFree?
  rw [if_neg hbound]

theorem firstFree?_of_live {fuel : Nat} (hbound : next < sessionBound)
    (hlive : sessions.find? (.ofNat next) ≠ none) :
    firstFree? sessions (fuel + 1) next = firstFree? sessions fuel (next + 2) := by
  have hcontains : sessions.contains (.ofNat next) = true := Option.isSome_iff_ne_none.mpr hlive
  rw [firstFree?, if_pos hbound, if_pos hcontains]

/-- **The search ends**, and what is found is what the loop finds. -/
theorem seeks {fuel next : Nat} (hfuel : (sessions.liveFrom next).length ≤ fuel) :
    ∃ passed after, passed ≤ fuel ∧
      sessions.Seeks next passed (firstFree? sessions fuel next) after := by
  by_cases hbound : next < sessionBound
  · by_cases hlive : sessions.find? (.ofNat next) = none
    · rw [firstFree?_of_free hbound hlive]
      exact ⟨0, _, Nat.zero_le _, .takes hbound hlive⟩
    · have hfewer := liveFrom_passed hbound hlive
      cases fuel with
      | zero => omega
      | succ fuel =>
          obtain ⟨passed, after, hpassed, hrest⟩ :=
            seeks (Nat.lt_succ_iff.mp (hfewer.trans_le hfuel))
          rw [firstFree?_of_live hbound hlive]
          exact ⟨passed + 1, after, Nat.succ_le_succ hpassed, .passes hbound hlive hrest⟩
  · rw [firstFree?_of_bound hbound]
    exact ⟨0, _, Nat.zero_le _, .exhausts (Nat.not_lt.mp hbound)⟩

end Sessions

namespace Channel

variable {channel next : Channel}

structure Opening (channel : Channel) (result : Except ChannelError UInt32) (next : Channel) :
    Prop where
  closed : result = .error .closed ↔ channel.closed = true
  exhausted : result = .error .idsExhausted ↔
    channel.closed = false ∧ ∀ id, ¬ channel.sessions.IsFree channel.nextSession id
  fails : ∀ error, result = .error error → error = .closed ∨ error = .idsExhausted
  least : ∀ id, result = .ok id → channel.sessions.IsFree channel.nextSession id ∧
    ∀ other, channel.sessions.IsFree channel.nextSession other → id ≤ other
  /-- The search passes over no more ids than there are live sessions. -/
  seeks : channel.closed = false → ∃ passed ≤ channel.sessions.size,
    channel.sessions.Seeks channel.nextSession passed result.toOption next.nextSession
  ours : next.register.ours = channel.register.ours ++ result.toOption.toList
  rests : channel.closed = true → next.nextSession = channel.nextSession

theorem Opening.of_closed (hclosed : channel.closed = true)
    (hours : next.register.ours = channel.register.ours)
    (hnext : next.nextSession = channel.nextSession) :
    channel.Opening (.error .closed) next where
  closed := by simp [hclosed]
  exhausted := by simp [hclosed]
  fails error herror := .inl (Except.error.inj herror).symm
  least id hid := by cases hid
  seeks hopen := by cases hclosed.symm.trans hopen
  ours := by rw [hours]; exact (List.append_nil _).symm
  rests _ := hnext

def resultOf (found : Option UInt32) : Except ChannelError UInt32 :=
  found.elim (.error .idsExhausted) .ok

theorem Opening.of_seeks (hopen : channel.closed = false) {passed : Nat} {found : Option UInt32}
    (hpassed : passed ≤ channel.sessions.size)
    (hseeks : channel.sessions.Seeks channel.nextSession passed found next.nextSession)
    (hours : next.register.ours = channel.register.ours ++ found.toList) :
    channel.Opening (resultOf found) next := by
  have hclosed : ¬ channel.closed = true := Bool.eq_false_iff.mp hopen
  cases found with
  | none =>
      exact
        { closed := by simp [resultOf, hclosed]
          exhausted := by simpa [resultOf, hopen] using hseeks.none.1
          fails := fun error herror => .inr (Except.error.inj herror).symm
          least := fun id hid => by cases hid
          seeks := fun _ => ⟨passed, hpassed, hseeks⟩
          ours := hours
          rests := fun h => absurd h hclosed }
  | some found =>
      obtain ⟨hfree, hleast, -⟩ := hseeks.least
      exact
        { closed := by simp [resultOf, hclosed]
          exhausted := by
            simp only [resultOf, Option.elim_some, reduceCtorEq, false_iff, not_and, not_forall,
              not_not]
            exact fun _ => ⟨found, hfree⟩
          fails := fun error herror => by cases herror
          least := fun id hid => by
            cases hid
            exact ⟨hfree, hleast⟩
          seeks := fun _ => ⟨passed, hpassed, hseeks⟩
          ours := hours
          rests := fun h => absurd h hclosed }

theorem Opening.counter_of_exhausted {result : Except ChannelError UInt32}
    (h : channel.Opening result next) (hresult : result = .error .idsExhausted) :
    sessionBound ≤ next.nextSession := by
  obtain ⟨passed, -, hseeks⟩ := h.seeks (h.exhausted.mp hresult).1
  rw [hresult] at hseeks
  rw [hseeks.none.2]
  exact (Nat.le_add_right _ _).trans (le_max_right _ _)

/-- Once the counter has gone past the last id, nothing is found any more. -/
theorem Opening.of_exhausted {result : Except ChannelError UInt32}
    (h : channel.Opening result next) (hnext : sessionBound ≤ channel.nextSession) :
    result = .error (if channel.closed then .closed else .idsExhausted) := by
  cases hclosed : channel.closed with
  | true => exact h.closed.mpr hclosed
  | false =>
      refine h.exhausted.mpr ⟨hclosed, fun id hfree => ?_⟩
      have habove := hfree.above
      have hbound : id.toNat < sessionBound := id.toNat_lt
      omega

theorem opening_openSession (channel : Channel) (caller : Caller) (port : UInt16)
    (kind : EndpointKind) :
    channel.Opening (channel.openSession caller port kind).1
      (channel.openSession caller port kind).2 := by
  unfold openSession
  split
  · rename_i hclosed
    exact .of_closed hclosed (by rw [register_giveBack]) rfl
  · rename_i hopen
    have hopen := Bool.eq_false_of_not_eq_true hopen
    obtain ⟨passed, after, hpassed, hseeks⟩ :=
      Sessions.seeks (channel.sessions.length_liveFrom_le channel.nextSession)
    dsimp only
    generalize firstFree? channel.sessions channel.sessions.size channel.nextSession = found
      at hseeks ⊢
    cases found with
    | none =>
        obtain rfl : after = channel.nextAfter none := hseeks.none.2
        change channel.Opening (resultOf none) _
        refine .of_seeks hopen hpassed hseeks ?_
        rw [register_giveBack]
        exact (List.append_nil _).symm
    | some id =>
        obtain rfl : after = channel.nextAfter (some id) := hseeks.least.2.2
        change channel.Opening (resultOf (some id)) _
        refine .of_seeks hopen hpassed hseeks ?_
        rw [register_publish, register_fill, register_addSession, Register.ours, Register.add,
          List.filter_append, List.map_append]
        rfl

end Channel

end SessionMux
