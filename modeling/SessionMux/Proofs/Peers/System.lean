import Mathlib.Logic.Function.Basic
import SessionMux.Proofs.Host.Trace
import SessionMux.Proofs.Peers.Phase
import SessionMux.Proofs.Peers.View

/-!
# Two ends of one connection

A client and a server, each a host of its own, and between them a connection that delivers the
frames of each outbound queue in order and without loss. Every session that is opened is taken, with
an endpoint that may turn payloads down. Which end does what, and when a frame arrives, is left
open.

`Peers.Sound` is the invariant: both ends are sound on their own, and every session stands in one of
the phases of `Lane.Phase`, whose owner is the end that opens sessions with ids of its parity.
-/

namespace SessionMux

def Role.other : Role → Role
  | client => server
  | server => client

theorem Role.other_ne (role : Role) : role.other ≠ role := by
  cases role <;> nofun

theorem Role.eq_or_eq_other (role anchor : Role) : role = anchor ∨ role = anchor.other := by
  cases role <;> cases anchor <;> simp [other]

@[simp]
theorem Role.other_other (role : Role) : role.other.other = role := by
  cases role <;> rfl

/-- The end that may choose the id for a session that it opens. -/
def Role.owner (key : UInt32) : Role := if key.toNat % 2 = 1 then client else server

structure Peers where
  host : Role → Host
  /-- The payloads whose sending ended well at each end, with their sessions. -/
  sent : Role → List (UInt32 × Bytes)

namespace Peers

inductive Move
  | act (role : Role) (action : Host.Action)
  /-- The next frame that an end has queued arrives at the other one, where `kind` is the kind of
  endpoint for the session that it opens, if it opens one. -/
  | pass (role : Role) (kind : EndpointKind)

def create (config : Role → ChannelConfig) (depth : Role → Nat) (reception : Role → Reception) :
    Peers where
  host role := .create { config role with role } (depth role) (reception role)
  sent _ := []

def move (peers : Peers) : Move → Peers
  | .act role action =>
    { host := Function.update peers.host role ((peers.host role).act action)
      sent := Function.update peers.sent role
        (peers.sent role ++ ((peers.host role).sentBy action).toList) }
  | .pass role kind =>
    match (peers.host role).channel.takeFrame? with
    | none => peers
    | some (frame, channel) =>
      { peers with
        host := Function.update
          (Function.update peers.host role ((peers.host role).settleChannel channel)) role.other
          ((peers.host role.other).hear frame (.ok kind)) }

/-- The next frame that an end has queued arrives at the other one, which takes or refuses the
session that it opens, if it opens one. -/
def deliver (peers : Peers) (role : Role) (admission : Admission) : Peers :=
  match (peers.host role).channel.takeFrame? with
  | none => peers
  | some (frame, channel) =>
    { peers with
      host := Function.update
        (Function.update peers.host role ((peers.host role).settleChannel channel)) role.other
        ((peers.host role.other).hear frame admission) }

def lane (peers : Peers) (role : Role) (key : UInt32) : Lane :=
  (peers.host role).ledger.lane (peers.sent role) key

def queue (peers : Peers) (role : Role) (key : UInt32) : List Frame :=
  framesOf key (peers.host role).ledger.frames

end Peers

/-! ### Openings that conflict -/

/-- The peer has opened a session anew on another port. -/
def Change.IsConflict : Change → Prop
  | .channelError report => report.code = .isConnected ∧ report.level = .warning
  | _ => False

namespace Ledger

def Peaceful (ledger : Ledger) : Prop := ∀ change ∈ ledger.changes, ¬ change.IsConflict

variable {ledger next : Ledger} {frame : Frame}

theorem Peaceful.publish (h : ledger.Peaceful) {change : Change} (hchange : ¬ change.IsConflict) :
    (ledger.publish change).Peaceful :=
  List.forall_mem_append.mpr ⟨h, by simpa using hchange⟩

theorem Peaceful.report (h : ledger.Peaceful) {code : ErrorCode} {level : Level} (message : String)
    (hreport : code ≠ .isConnected ∨ level ≠ .warning) :
    (ledger.publish (.channelError { code, level, message })).Peaceful :=
  h.publish fun ⟨hcode, hlevel⟩ => hreport.elim (absurd hcode) (absurd hlevel)

theorem Peaceful.remove (h : ledger.Peaceful) (id : UInt32) : (ledger.remove id).Peaceful := by
  unfold Ledger.remove
  split
  · exact h
  · exact Peaceful.publish (by exact h) fun hconflict => hconflict

theorem Peaceful.replies (h : ledger.Peaceful) (hreply : ledger.Replies frame next) :
    next.Peaceful := by
  rcases hreply with rfl | ⟨-, rfl⟩ <;> exact h

theorem Peaceful.close (h : ledger.Peaceful) : ledger.close.Peaceful :=
  close_preserves h (fun _ id hbefore => hbefore.remove id)
    fun _ hbefore => hbefore.publish fun hconflict => hconflict

theorem Works.peaceful {sent : Option (UInt32 × Bytes)} (hworks : ledger.Works sent next)
    (h : ledger.Peaceful) : next.Peaceful := by
  cases hworks with
  | rests | exhausts | answers => exact h
  | sends | opens | complains => exact Peaceful.publish (by exact h) fun hconflict => hconflict
  | closes => exact h.remove _
  | shuts => exact h.close
  | fails code message =>
      have hfailed :
          Peaceful (ledger.publish (.channelError { code, level := .critical, message })) :=
        h.report message (Or.inr nofun)
      exact hfailed.close

theorem Receives.peaceful {admission : Admission} (hreceives : ledger.Receives frame admission next)
    (hunknown : frame.body = .control .sessionOpen → ledger.sessions.find? frame.session = none)
    (h : ledger.Peaceful) : next.Peaceful := by
  cases hreceives with
  | drops | repeats | acknowledges => exact h
  | strays | misreads => exact h.report _ (Or.inl nofun)
  | notes => exact h.report _ (Or.inr nofun)
  | takes | admits | warns => exact Peaceful.publish (by exact h) fun hconflict => hconflict
  | conflicts hopen hbody hfind =>
      rw [hunknown hbody] at hfind
      cases hfind
  | rejects error hopen hbody hfind hreply =>
      refine Peaceful.replies (Peaceful.remove (Peaceful.publish ?_ ?_) _) hreply
      · exact Peaceful.publish (by exact h) fun hconflict => hconflict
      · exact fun hconflict => hconflict
  | refuses hopen hbody hfind hadmission hreply =>
      exact (h.replies hreply).report _ (Or.inl nofun)
  | ends hopen hbody hreply => exact (h.remove _).replies hreply

end Ledger

/-! ### The invariant -/

structure Host.Fit (host : Host) (role : Role) : Prop where
  plain : host.Plain
  sound : host.ledger.Sound
  peaceful : host.ledger.Peaceful
  parity : host.ledger.nextSession % 2 = role.firstSession % 2

namespace Peers

structure Sound (peers : Peers) : Prop where
  ends : ∀ role, (peers.host role).Fit role
  phase : ∀ key, Lane.Phase (peers.lane (.owner key) key) (peers.lane (Role.owner key).other key)
    (peers.queue (.owner key) key) (peers.queue (Role.owner key).other key)

variable {peers next : Peers} {role : Role} {key : UInt32} {out : List Frame}

/-- An end cannot choose the id of a session that belongs to the other one. -/
theorem not_free_of_parity (hparity : (peers.host (Role.owner key).other).ledger.nextSession % 2 =
      (Role.owner key).other.firstSession % 2) :
    (peers.lane (Role.owner key).other key).free = false := by
  refine decide_eq_false fun ⟨_, hfree⟩ => ?_
  rw [hparity] at hfree
  unfold Role.owner at hfree
  split_ifs at hfree <;> simp [Role.other, Role.firstSession] at hfree <;> omega

theorem Sound.not_free (h : peers.Sound) (key : UInt32) :
    (peers.lane (Role.owner key).other key).free = false :=
  not_free_of_parity (h.ends (Role.owner key).other).parity

/-! ### What a move changes -/

theorem host_act (peers : Peers) (role : Role) (action : Host.Action) :
    (peers.move (.act role action)).host role = (peers.host role).act action :=
  Function.update_self ..

theorem host_act_other (peers : Peers) (role : Role) (action : Host.Action) :
    (peers.move (.act role action)).host role.other = peers.host role.other :=
  Function.update_of_ne role.other_ne ..

/-- What one end does on its own is no concern of the other one. -/
theorem lane_act_other (peers : Peers) (role : Role) (action : Host.Action) (key : UInt32) :
    (peers.move (.act role action)).lane role.other key = peers.lane role.other key := by
  have hsent : (peers.move (.act role action)).sent role.other = peers.sent role.other :=
    Function.update_of_ne role.other_ne ..
  rw [lane, lane, host_act_other, hsent]

theorem queue_act_other (peers : Peers) (role : Role) (action : Host.Action) (key : UInt32) :
    (peers.move (.act role action)).queue role.other key = peers.queue role.other key := by
  rw [queue, queue, host_act_other]

/-- What one end does is seen on every lane as a section of work. -/
theorem works_act (hplain : (peers.host role).Plain) (hsound : (peers.host role).ledger.Sound)
    (action : Host.Action) (key : UInt32) :
    ∃ out, (peers.move (.act role action)).queue role key = peers.queue role key ++ out ∧
      (peers.lane role key).Works out ((peers.move (.act role action)).lane role key) := by
  obtain ⟨hworks, -⟩ := Host.works_act hplain action
  obtain ⟨out, hout, hlane⟩ := hworks.lane hsound (peers.sent role) key
  have hsent : (peers.move (.act role action)).sent role =
      peers.sent role ++ ((peers.host role).sentBy action).toList :=
    Function.update_self ..
  rw [← host_act] at hout hlane
  rw [← hsent] at hlane
  exact ⟨out, hout, hlane⟩

theorem sound_create (config : Role → ChannelConfig) (depth : Role → Nat)
    (reception : Role → Reception) : (create config depth reception).Sound where
  ends role :=
    { plain := (Host.truthful_create _ _ _).plain
      sound :=
        { truthful := (Host.truthful_create _ _ _).truthful
          homed := Ledger.homed_of_empty rfl
          draining := rfl }
      peaceful := by
        intro change hmem
        obtain rfl := List.mem_singleton.mp hmem
        exact fun hconflict => hconflict
      parity := rfl }
  phase key := .blank ⟨rfl, rfl, rfl, rfl⟩ ⟨rfl, rfl, rfl, rfl⟩

/-- What one end does to a session is seen at that end, and in its queue. -/
theorem Sound.phase_of_works (h : peers.Sound)
    (hlane : next.lane role.other key = peers.lane role.other key)
    (hqueue : next.queue role.other key = peers.queue role.other key)
    (hout : next.queue role key = peers.queue role key ++ out)
    (hworks : (peers.lane role key).Works out (next.lane role key)) :
    Lane.Phase (next.lane (.owner key) key) (next.lane (Role.owner key).other key)
      (next.queue (.owner key) key) (next.queue (Role.owner key).other key) := by
  rcases role.eq_or_eq_other (.owner key) with rfl | rfl
  · rw [hlane, hqueue, hout]
    exact (h.phase key).works_owner hworks
  · rw [Role.other_other] at hlane hqueue
    rw [hlane, hqueue, hout]
    exact (h.phase key).works_other (h.not_free key) hworks

/-- A frame of a session is heard at the other end, which may have something to reply. -/
theorem Sound.phase_of_receives (h : peers.Sound) {frame : Frame}
    (hlane : next.lane role key = peers.lane role key)
    (hqueue : peers.queue role key = frame :: next.queue role key)
    (hout : next.queue role.other key = peers.queue role.other key ++ out)
    (hreceives : (peers.lane role.other key).Receives frame out (next.lane role.other key)) :
    Lane.Phase (next.lane (.owner key) key) (next.lane (Role.owner key).other key)
      (next.queue (.owner key) key) (next.queue (Role.owner key).other key) := by
  have hphase := h.phase key
  rcases role.eq_or_eq_other (.owner key) with rfl | rfl
  · rw [hqueue] at hphase
    rw [hlane, hout]
    exact hphase.receives_other (h.not_free key) hreceives
  · rw [Role.other_other] at hout hreceives
    rw [hqueue] at hphase
    rw [hlane, hout]
    exact hphase.receives_owner hreceives

theorem Sound.act (h : peers.Sound) (role : Role) (action : Host.Action) :
    (peers.move (.act role action)).Sound := by
  have hfit := h.ends role
  obtain ⟨hworks, hplain⟩ := Host.works_act hfit.plain action
  refine ⟨fun any => ?_, fun key => ?_⟩
  · rcases any.eq_or_eq_other role with rfl | rfl
    · rw [host_act]
      exact ⟨hplain, hworks.sound hfit.sound, hworks.peaceful hfit.peaceful,
        hworks.parity.trans hfit.parity⟩
    · rw [host_act_other]
      exact h.ends role.other
  · obtain ⟨out, hout, hlane⟩ := works_act hfit.plain hfit.sound action key
    exact h.phase_of_works (lane_act_other peers role action key)
      (queue_act_other peers role action key) hout hlane

/-- The opening of a session arrives where there is none. -/
theorem Sound.unknown (h : peers.Sound) {frame : Frame} {rest : List Frame}
    (hqueue : peers.queue role frame.session = frame :: rest)
    (hbody : frame.body = .control .sessionOpen) :
    (peers.host role.other).ledger.sessions.find? frame.session = none := by
  have hphase := h.phase frame.session
  rcases role.eq_or_eq_other (.owner frame.session) with heq | heq
  · rw [← heq, hqueue] at hphase
    exact hphase.unknown hbody
  · rw [← heq, hqueue] at hphase
    exact absurd hbody hphase.not_open

structure Passed (peers next : Peers) (role : Role) (frame : Frame) (admission : Admission) :
    Prop where
  host : next.host role = (peers.host role).move .take
  host_other : next.host role.other = (peers.host role.other).hear frame admission
  takes : (peers.host role).ledger =
    { (next.host role).ledger with frames := frame :: (next.host role).ledger.frames }
  hears : (peers.host role.other).ledger.Receives frame admission (next.host role.other).ledger
  plain : (peers.host role).Plain → (next.host role).Plain
  plain_other : (peers.host role.other).Plain → (next.host role.other).Plain
  sent : next.sent = peers.sent

theorem deliver_cases (peers : Peers) (role : Role) (admission : Admission) :
    (peers.host role).channel.takeFrame? = none ∧ peers.deliver role admission = peers ∨
      ∃ frame channel, (peers.host role).channel.takeFrame? = some (frame, channel) ∧
        Passed peers (peers.deliver role admission) role frame admission := by
  cases htake : (peers.host role).channel.takeFrame? with
  | none =>
      left
      rw [deliver, htake]
      exact ⟨rfl, rfl⟩
  | some taken =>
      right
      obtain ⟨frame, channel⟩ := taken
      obtain ⟨hframes, hledger⟩ := Host.ledger_takeFrame htake
      have hdeliver : peers.deliver role admission =
          { peers with
            host := Function.update
              (Function.update peers.host role ((peers.host role).settleChannel channel)) role.other
              ((peers.host role.other).hear frame admission) } := by
        rw [deliver, htake]
      have hrole : (peers.deliver role admission).host role =
          (peers.host role).settleChannel channel := by
        rw [hdeliver]
        exact (Function.update_of_ne role.other_ne.symm ..).trans (Function.update_self ..)
      have hother : (peers.deliver role admission).host role.other =
          (peers.host role.other).hear frame admission := by
        rw [hdeliver]
        exact Function.update_self ..
      refine ⟨frame, channel, rfl, ?_, hother, ?_, ?_, ?_, ?_, by rw [hdeliver]⟩
      · rw [hrole, Host.move, Host.takeFrames, htake]
        rfl
      · rw [hrole, hledger, ← hframes]
      · rw [hother]
        exact Host.receives_hear _ frame _
      · rw [hrole]
        exact fun hplain => hplain.settleChannel channel
      · rw [hother]
        exact fun hplain => hplain.settleChannel _

/-- The frame was the next one of its session, and its sender has done nothing else. -/
theorem Passed.lane {frame : Frame} {admission : Admission}
    (hpassed : Passed peers next role frame admission) (key : UInt32) :
    next.lane role key = peers.lane role key := by
  rw [Peers.lane, Peers.lane, hpassed.takes, hpassed.sent]
  rfl

theorem Passed.queue {frame : Frame} {admission : Admission}
    (hpassed : Passed peers next role frame admission) :
    peers.queue role frame.session = frame :: next.queue role frame.session := by
  rw [Peers.queue, hpassed.takes]
  exact framesOf_cons_self frame _

theorem Passed.queue_of_ne {frame : Frame} {admission : Admission}
    (hpassed : Passed peers next role frame admission) (hne : frame.session ≠ key) :
    peers.queue role key = next.queue role key := by
  rw [Peers.queue, Peers.queue, hpassed.takes]
  exact framesOf_cons_of_ne hne _

/-- Other sessions see nothing of the frame at the end that hears it. -/
theorem Passed.other_of_ne {frame : Frame} {admission : Admission}
    (hpassed : Passed peers next role frame admission)
    (hsound : (peers.host role.other).ledger.Sound) (hne : frame.session ≠ key) :
    next.queue role.other key = peers.queue role.other key ∧
      next.lane role.other key = peers.lane role.other key := by
  have hunseen := hpassed.hears.lane_of_ne hsound hne (peers.sent role.other)
  rw [Peers.lane, Peers.lane, hpassed.sent]
  exact hunseen

theorem Sound.passed (h : peers.Sound) {frame : Frame} {kind : EndpointKind}
    (hpassed : Passed peers next role frame (.ok kind)) : next.Sound := by
  have hfit := h.ends role
  have hfit' := h.ends role.other
  have hhears := hpassed.hears
  have hunknown : frame.body = .control .sessionOpen →
      (peers.host role.other).ledger.sessions.find? frame.session = none :=
    h.unknown hpassed.queue
  refine ⟨fun any => ?_, fun key => ?_⟩
  · rcases any.eq_or_eq_other role with rfl | rfl
    · have hsound := hfit.sound
      have hpeaceful := hfit.peaceful
      have hparity := hfit.parity
      rw [hpassed.takes] at hsound hpeaceful hparity
      exact ⟨hpassed.plain hfit.plain,
        ⟨hsound.truthful.congr rfl rfl rfl, hsound.homed.of_same rfl rfl, hsound.draining⟩,
        hpeaceful, hparity⟩
    · exact ⟨hpassed.plain_other hfit'.plain, hhears.sound hfit'.sound,
        hhears.peaceful hunknown hfit'.peaceful,
        (congrArg (· % 2) hhears.nextSession).trans hfit'.parity⟩
  · -- The session of the frame sees an arrival. All others see two ends that do nothing.
    by_cases hkey : frame.session = key
    · subst hkey
      obtain ⟨out, hout, hheard⟩ := hhears.lane hfit'.sound (peers.sent role.other)
      refine h.phase_of_receives (hpassed.lane _) hpassed.queue hout ?_
      rw [lane, lane, hpassed.sent]
      exact hheard
    · obtain ⟨hqueue, hlane⟩ := hpassed.other_of_ne hfit'.sound hkey
      have hrest : next.queue role key = peers.queue role key ++ [] := by
        rw [List.append_nil, hpassed.queue_of_ne hkey]
      refine h.phase_of_works hlane hqueue hrest ?_
      rw [hpassed.lane]
      exact Ledger.works_refl _

/-- **Every run is sound.** -/
theorem Sound.run (h : peers.Sound) (moves : List Move) : (moves.foldl move peers).Sound := by
  induction moves generalizing peers with
  | nil => exact h
  | cons first moves ih =>
      refine ih ?_
      cases first with
      | act role action => exact h.act role action
      | pass role kind =>
          have hmove : peers.move (.pass role kind) = peers.deliver role (.ok kind) := rfl
          rw [hmove]
          rcases peers.deliver_cases role (.ok kind) with ⟨-, hsame⟩ | ⟨frame, -, -, hpassed⟩
          · rw [hsame]
            exact h
          · exact h.passed hpassed

end Peers

end SessionMux
