import Mathlib.Data.List.Basic
import SessionMux.Proofs.Channel.Section

/-!
# What a channel publishes

A trace is the list of changes that a channel has published. `Trace.WellFormed` says which traces
there can be, by what may stand behind what. A channel that is open also keeps its table in step
with its trace: a session is in the table if and only if the last thing reported of its life is that
it began (`Trace.Running`). That is the invariant which carries the argument, since each change is
published because of what the table says.

Closing is the one place where the two go apart for a while: the sessions are reported closed one by
one, by rising id, and only then the channel is. A fatal error makes the channel close in the same
section of work, so nothing but these reports can follow it.
-/

namespace SessionMux

/-- Whether a change begins (`true`) or ends (`false`) the session with an id. -/
def Change.lifecycle? (id : UInt32) : Change → Option Bool
  | sessionCreate session _ => if session = id then some true else none
  | sessionClose session => if session = id then some false else none
  | _ => none

def Change.isActivity : Change → Bool
  | sessionTransaction .. | sessionError .. => true
  | _ => false

namespace Trace

def lifecycle (changes : List Change) (id : UInt32) : List Bool :=
  changes.filterMap (Change.lifecycle? id)

def Live (changes : List Change) (id : UInt32) : Prop :=
  (lifecycle changes id).getLast? = some true

structure Orderly (changes : List Change) : Prop where
  /-- The creation of the channel comes first, and only there. -/
  opening : ∃ callHome transport rest, changes = .channelCreate callHome transport :: rest ∧
    ∀ callHome transport, .channelCreate callHome transport ∉ rest
  /-- Nothing follows the end of the channel, and every session has ended before. -/
  closing : ∀ before after, changes = before ++ .channelClose :: after →
    after = [] ∧ ∀ id, ¬ Live before id
  /-- Beginnings stand at the even places, ends at the odd ones. -/
  alternation : ∀ id place (hplace : place < (lifecycle changes id).length),
    (lifecycle changes id)[place] = decide (place % 2 = 0)
  /-- What happens to a session happens between its beginning and its end. -/
  attribution : ∀ before change after id, changes = before ++ change :: after →
    change.isActivity = true → change.session? = some id → Live before id

structure WellFormed (changes : List Change) : Prop extends Orderly changes where
  /-- A fatal error is followed by the ends of the live sessions, by rising id, and the end of the
  channel. -/
  finality : ∀ before report after, changes = before ++ .channelError report :: after →
    report.level = .critical → ∃ ids : List UInt32, ids.Pairwise (· < ·) ∧
      (∀ id, id ∈ ids ↔ Live before id) ∧ after = ids.map .sessionClose ++ [.channelClose]

variable {changes : List Change} {change : Change} {id : UInt32}

theorem lifecycle_concat (changes : List Change) (change : Change) (id : UInt32) :
    lifecycle (changes ++ [change]) id = lifecycle changes id ++ (change.lifecycle? id).toList := by
  rw [lifecycle, List.filterMap_append]
  cases hchange : change.lifecycle? id <;> simp [lifecycle, hchange]

theorem live_concat_of_none (hchange : change.lifecycle? id = none) :
    Live (changes ++ [change]) id ↔ Live changes id := by
  rw [Live, lifecycle_concat, hchange, Option.toList_none, List.append_nil]
  rfl

theorem live_concat_of_some {began : Bool} (hchange : change.lifecycle? id = some began) :
    Live (changes ++ [change]) id ↔ began = true := by
  rw [Live, lifecycle_concat, hchange, Option.toList_some, List.getLast?_concat, Option.some.injEq]

/-- A place in a trace with one more change is the last one, or a place in the trace before. -/
theorem concat_eq_append_cons {last : Change} {before after : List Change}
    (heq : changes ++ [last] = before ++ change :: after) :
    (before = changes ∧ change = last ∧ after = []) ∨
      ∃ rest, after = rest ++ [last] ∧ changes = before ++ change :: rest := by
  rcases List.eq_nil_or_concat after with rfl | ⟨rest, final, rfl⟩
  · left
    obtain ⟨hbefore, hlast⟩ := List.append_inj' heq rfl
    simp only [List.cons.injEq, and_true] at hlast
    exact ⟨hbefore.symm, hlast.symm, rfl⟩
  · right
    rw [List.concat_eq_append, ← List.cons_append, ← List.append_assoc] at heq
    obtain ⟨hchanges, hlast⟩ := List.append_inj' heq rfl
    simp only [List.cons.injEq, and_true] at hlast
    exact ⟨rest, by rw [List.concat_eq_append, hlast], hchanges⟩

/-- Where beginnings and ends alternate, the last of them is a beginning if their number is odd. -/
theorem Orderly.live_iff_odd (horderly : Orderly changes) (id : UInt32) :
    Live changes id ↔ (lifecycle changes id).length % 2 = 1 := by
  rw [Live, List.getLast?_eq_getElem?]
  by_cases hlength : (lifecycle changes id).length = 0
  · simp [List.length_eq_zero_iff.mp hlength]
  · have hlast : (lifecycle changes id).length - 1 < (lifecycle changes id).length := by omega
    rw [List.getElem?_eq_getElem hlast, horderly.alternation id _ hlast, Option.some.injEq,
      decide_eq_true_iff]
    omega

def Follows (changes : List Change) : Change → Prop
  | .channelCreate .. => False
  | .channelClose => ∀ id, ¬ Live changes id
  | .channelError _ => True
  | .sessionCreate id _ => ¬ Live changes id
  | .sessionClose id | .sessionError id _ | .sessionTransaction id _ _ => Live changes id

theorem Follows.live_iff (hfollows : Follows changes change) {began : Bool}
    (hchange : change.lifecycle? id = some began) : Live changes id ↔ began = false := by
  cases change with
  | sessionCreate session port =>
      simp only [Change.lifecycle?, Option.ite_none_right_eq_some, Option.some.injEq] at hchange
      obtain ⟨rfl, rfl⟩ := hchange
      simpa [Follows] using hfollows
  | sessionClose session =>
      simp only [Change.lifecycle?, Option.ite_none_right_eq_some, Option.some.injEq] at hchange
      obtain ⟨rfl, rfl⟩ := hchange
      simpa [Follows] using hfollows
  | channelCreate | channelClose | channelError | sessionError | sessionTransaction => cases hchange

theorem Orderly.concat (horderly : Orderly changes) (hrunning : .channelClose ∉ changes)
    (hfollows : Follows changes change) : Orderly (changes ++ [change]) where
  opening := by
    obtain ⟨callHome, transport, rest, rfl, hrest⟩ := horderly.opening
    refine ⟨callHome, transport, rest ++ [change], rfl, fun callHome transport hmem => ?_⟩
    rcases List.mem_append.mp hmem with hmem | hmem
    · exact hrest callHome transport hmem
    · rw [List.mem_singleton] at hmem
      subst hmem
      exact hfollows
  closing := by
    intro before after heq
    rcases concat_eq_append_cons heq with ⟨rfl, rfl, rfl⟩ | ⟨rest, -, rfl⟩
    · exact ⟨rfl, hfollows⟩
    · exact absurd (List.mem_append_right _ List.mem_cons_self) hrunning
  alternation := by
    intro id place hplace
    cases hchange : change.lifecycle? id with
    | none =>
        simp only [lifecycle_concat, hchange, Option.toList_none, List.append_nil] at hplace ⊢
        exact horderly.alternation id place hplace
    | some began =>
        simp only [lifecycle_concat, hchange, Option.toList_some, List.length_append,
          List.length_singleton] at hplace ⊢
        by_cases hlast : place < (lifecycle changes id).length
        · rw [List.getElem_append_left hlast]
          exact horderly.alternation id place hlast
        · have hend : place = (lifecycle changes id).length := by omega
          have hlive := (horderly.live_iff_odd id).symm.trans (hfollows.live_iff hchange)
          subst hend
          rw [List.getElem_append_right le_rfl]
          cases began with
          | false => simpa using hlive
          | true =>
              simp only [Bool.true_eq_false, iff_false] at hlive
              simp only [Nat.sub_self, List.getElem_cons_zero, true_eq_decide_iff]
              omega
  attribution := by
    intro before other after id heq hactivity hid
    rcases concat_eq_append_cons heq with ⟨rfl, rfl, rfl⟩ | ⟨rest, -, hchanges⟩
    · cases other with
      | sessionError session report | sessionTransaction session bytesIn bytesOut =>
          cases hid
          exact hfollows
      | channelCreate | channelClose | channelError | sessionCreate | sessionClose =>
          cases hactivity
    · exact horderly.attribution before other rest id hchanges hactivity hid

theorem orderly_singleton (callHome : Bool) (transport : Transport) :
    Orderly [.channelCreate callHome transport] where
  opening := ⟨callHome, transport, [], rfl, fun _ _ => List.not_mem_nil⟩
  closing := by
    intro before after heq
    rcases before with _ | ⟨first, _ | ⟨second, rest⟩⟩ <;> simp at heq
  alternation := by
    intro id place hplace
    exact absurd hplace (Nat.not_lt_zero _)
  attribution := by
    intro before change after id heq hactivity hid
    rcases before with _ | ⟨first, _ | ⟨second, rest⟩⟩ <;> simp at heq
    obtain ⟨rfl, rfl⟩ := heq
    cases hactivity

/-! ### Traces of channels that are open -/

structure Running (changes : List Change) (sessions : Sessions) : Prop where
  orderly : Orderly changes
  running : .channelClose ∉ changes
  live_iff : ∀ id, Live changes id ↔ sessions.contains id = true
  sorted : sessions.Sorted

variable {sessions : Sessions} {session : Session}

theorem Running.concat (hrun : Running changes sessions) (hfollows : Follows changes change)
    (hlifecycle : ∀ id, change.lifecycle? id = none) (hchange : change ≠ .channelClose) :
    Running (changes ++ [change]) sessions where
  orderly := hrun.orderly.concat hrun.running hfollows
  running := by
    rw [List.mem_append, List.mem_singleton]
    exact fun hmem => hmem.elim hrun.running fun heq => hchange heq.symm
  live_iff id := (live_concat_of_none (hlifecycle id)).trans (hrun.live_iff id)
  sorted := hrun.sorted

/-- An error of the channel changes nothing for its sessions. -/
theorem Running.report (hrun : Running changes sessions) (report : ErrorReport) :
    Running (changes ++ [.channelError report]) sessions :=
  hrun.concat trivial (fun _ => rfl) nofun

theorem Running.live (hrun : Running changes sessions) (hfind : sessions.find? id = some session) :
    Live changes id :=
  (hrun.live_iff id).mpr (Sessions.contains_iff.mpr ⟨session, hfind⟩)

/-- A new entry for a session that is live already. -/
theorem Running.insert (hrun : Running changes sessions) (hfind : sessions.find? id = some session)
    (entry : Session) : Running changes (sessions.insert id entry) where
  orderly := hrun.orderly
  running := hrun.running
  live_iff other := by
    rw [hrun.live_iff, Sessions.contains, Sessions.contains, Sessions.find?_insert]
    by_cases heq : other = id
    · rw [heq, hfind, if_pos rfl]
      rfl
    · rw [if_neg heq]
  sorted := hrun.sorted.insert id entry

theorem Running.add (hrun : Running changes sessions) (hfind : sessions.find? id = none)
    (port : UInt16) (entry : Session) :
    Running (changes ++ [.sessionCreate id port]) (sessions.insert id entry) where
  orderly := by
    refine hrun.orderly.concat hrun.running fun hlive => ?_
    simp [(hrun.live_iff id), Sessions.contains, hfind] at hlive
  running := by simp [hrun.running]
  live_iff other := by
    rw [Sessions.contains, Sessions.find?_insert]
    by_cases heq : other = id
    · rw [live_concat_of_some (by rw [Change.lifecycle?, if_pos heq.symm]), if_pos heq]
      rfl
    · rw [live_concat_of_none (by rw [Change.lifecycle?, if_neg (Ne.symm heq)]), if_neg heq]
      exact hrun.live_iff other
  sorted := hrun.sorted.insert id entry

theorem Running.remove (hrun : Running changes sessions)
    (hfind : sessions.find? id = some session) :
    Running (changes ++ [.sessionClose id]) (sessions.erase id) where
  orderly := hrun.orderly.concat hrun.running (hrun.live hfind)
  running := by simp [hrun.running]
  live_iff other := by
    rw [Sessions.contains, Sessions.find?_erase]
    by_cases heq : other = id
    · rw [live_concat_of_some (by rw [Change.lifecycle?, if_pos heq.symm]), if_pos heq]
      rfl
    · rw [live_concat_of_none (by rw [Change.lifecycle?, if_neg (Ne.symm heq)]), if_neg heq]
      exact hrun.live_iff other
  sorted := hrun.sorted.erase id

def Calm (changes : List Change) : Prop :=
  ∀ report, .channelError report ∈ changes → report.level ≠ .critical

theorem Calm.append {front rear : List Change} (hfront : Calm front) (hrear : Calm rear) :
    Calm (front ++ rear) := fun report hmem =>
  (List.mem_append.mp hmem).elim (hfront report) (hrear report)

theorem Calm.wellFormed (hcalm : Calm changes) (horderly : Orderly changes) :
    WellFormed changes where
  toOrderly := horderly
  finality := by
    rintro before report after rfl hfatal
    exact absurd hfatal (hcalm report (List.mem_append_right _ List.mem_cons_self))

theorem calm_ending (ids : List UInt32) : Calm (ids.map .sessionClose ++ [.channelClose]) := by
  intro report hmem
  simp at hmem

/-- A fatal error is the only one of its trace, so what follows it is known. -/
theorem wellFormed_of_fatal {ids : List UInt32} {report : ErrorReport}
    (horderly : Orderly (changes ++ .channelError report ::
      (ids.map .sessionClose ++ [.channelClose])))
    (hcalm : Calm changes) (hids : ids.Pairwise (· < ·))
    (hlive : ∀ id, id ∈ ids ↔ Live changes id) :
    WellFormed (changes ++ .channelError report :: (ids.map .sessionClose ++ [.channelClose])) where
  toOrderly := horderly
  finality := by
    intro before other after heq hfatal
    rcases List.append_eq_append_iff.mp heq with
      ⟨middle, hbefore, hrest⟩ | ⟨middle, hchanges, hrest⟩
    · cases middle with
      | nil =>
          simp only [List.nil_append, List.cons.injEq] at hrest
          rw [List.append_nil] at hbefore
          subst hbefore
          exact ⟨ids, hids, hlive, hrest.2.symm⟩
      | cons first middle =>
          rw [List.cons_append, List.cons.injEq] at hrest
          have hmem : .channelError other ∈ ids.map Change.sessionClose ++ [.channelClose] := by
            rw [hrest.2]
            exact List.mem_append_right _ List.mem_cons_self
          exact absurd hfatal (calm_ending ids other hmem)
    · cases middle with
      | nil =>
          simp only [List.nil_append, List.cons.injEq] at hrest
          rw [List.append_nil] at hchanges
          subst hchanges
          exact ⟨ids, hids, hlive, hrest.2⟩
      | cons first middle =>
          rw [List.cons_append, List.cons.injEq] at hrest
          have hmem : .channelError other ∈ changes := by
            rw [hchanges, hrest.1]
            exact List.mem_append_right _ List.mem_cons_self
          exact absurd hfatal (hcalm other hmem)

end Trace

end SessionMux
