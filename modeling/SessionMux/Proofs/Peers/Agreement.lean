import SessionMux.Proofs.Peers.System

/-!
# What two ends agree on

Whatever a client and a server do, and however the arrival of their frames is delayed, an opening
never meets another session with its id. Where nothing is on its way, both ends list the same
sessions with the same ports (`Peers.tables_agree`), and what was sent on a live session is what its
other end was told (`Peers.streams_exact`).
-/

namespace SessionMux

def Sessions.ports (sessions : Sessions) : List (UInt32 × UInt16) := sessions.views Session.port

/-- Nothing is on its way from a host: its queue is empty, and no reply waits for a place there. -/
def Host.Idle (host : Host) : Prop := host.channel.outbox.frames = [] ∧ host.ledger.replies = []

instance (host : Host) : Decidable host.Idle :=
  inferInstanceAs (Decidable (host.channel.outbox.frames = [] ∧ host.ledger.replies = []))

namespace Peers

def run (config : Role → ChannelConfig) (depth : Role → Nat) (reception : Role → Reception)
    (moves : List Move) : Peers :=
  moves.foldl move (create config depth reception)

variable {peers : Peers} {role : Role} {key : UInt32}

theorem sound_run (config : Role → ChannelConfig) (depth : Role → Nat)
    (reception : Role → Reception) (moves : List Move) :
    (run config depth reception moves).Sound :=
  (sound_create config depth reception).run moves

theorem queue_of_idle (hidle : (peers.host role).Idle) (key : UInt32) :
    peers.queue role key = [] := by
  have hframes : (peers.host role).ledger.frames = [] := hidle.1
  rw [queue, hframes]
  rfl

theorem replies_of_idle (hidle : (peers.host role).Idle) (key : UInt32) :
    (peers.lane role key).replies = [] := by
  have hreplies : (peers.host role).ledger.replies = [] := hidle.2
  rw [lane, Ledger.lane, hreplies]
  rfl

theorem Sound.port_eq (h : peers.Sound)
    (hidle : ∀ role, (peers.host role).channel.closed = false ∧ (peers.host role).Idle)
    (key : UInt32) :
    ((peers.host .client).channel.sessions.find? key).map Session.port =
      ((peers.host .server).channel.sessions.find? key).map Session.port := by
  have hphase := h.phase key
  rw [queue_of_idle (hidle _).2, queue_of_idle (hidle _).2] at hphase
  have hagree := hphase.agree (hidle _).1 (hidle _).1 (replies_of_idle (hidle _).2 key)
    (replies_of_idle (hidle _).2 key)
  cases howner : Role.owner key with
  | client =>
      rw [howner] at hagree
      exact hagree
  | server =>
      rw [howner] at hagree
      exact hagree.symm

/-- **Session tables agree.** No opening is ever in conflict with a live session, and two open ends
with nothing on its way between them have the same sessions on the same ports. -/
theorem tables_agree (config : Role → ChannelConfig) (depth : Role → Nat)
    (reception : Role → Reception) (moves : List Move) :
    (∀ role, ∀ change ∈ ((run config depth reception moves).host role).channel.changes,
      ¬ change.IsConflict) ∧
    ((∀ role, ((run config depth reception moves).host role).channel.closed = false ∧
        ((run config depth reception moves).host role).Idle) →
      ((run config depth reception moves).host .client).channel.sessions.ports =
        ((run config depth reception moves).host .server).channel.sessions.ports) := by
  have hsound := sound_run config depth reception moves
  refine ⟨fun role => (hsound.ends role).peaceful, fun hidle => ?_⟩
  have hsorted : ∀ role,
      ((run config depth reception moves).host role).channel.sessions.Sorted := fun role =>
    ((hsound.ends role).sound.truthful.running (hidle role).1).1.sorted
  exact Sessions.views_eq Session.port (hsorted .client) (hsorted .server) (hsound.port_eq hidle)

def greeting : Peers :=
  run (fun _ => { (default : ChannelConfig) with maxPayload := 2 }) (fun _ => 2)
    (fun _ => { rules := [], accepting := true })
    [.act .client (.call (.openSession 80 .queue) false), .act .client (.turn 0),
      .act .client (.call (.send 1 [7, 9]) false), .act .client (.turn 1),
      .pass .client .queue, .pass .client .queue]

theorem tables_agree_after_greeting :
    (∀ role, (greeting.host role).channel.closed = false ∧ (greeting.host role).Idle) ∧
      (greeting.host .client).channel.sessions.ports = [(1, 80)] ∧
      (greeting.host .client).channel.sessions.ports =
        (greeting.host .server).channel.sessions.ports := by
  have hidle : ∀ role, (greeting.host role).channel.closed = false ∧ (greeting.host role).Idle := by
    intro role
    cases role <;> decide
  exact ⟨hidle, by decide, (tables_agree _ _ _ _).2 hidle⟩

/-- A session that both ends have is followed in both directions. -/
theorem Sound.follows (h : peers.Sound) (hrole : (peers.lane role key).session.isSome)
    (hother : (peers.lane role.other key).session.isSome) :
    Lane.Follows (peers.lane role key) (peers.lane role.other key) (peers.queue role key) := by
  have hphase := h.phase key
  rcases role.eq_or_eq_other (.owner key) with rfl | rfl
  · exact (hphase.joint_of_live hother).there
  · rw [Role.other_other] at hother ⊢
    exact (hphase.joint_of_live hrole).back

theorem Sound.heard_prefix (h : peers.Sound) (role : Role) (key : UInt32) :
    (peers.lane role.other key).heard <+: (peers.lane role key).sent := by
  obtain ⟨hthere, hback⟩ := (h.phase key).streams
  rcases role.eq_or_eq_other (.owner key) with rfl | rfl
  · exact hthere
  · rw [Role.other_other]
    exact hback

/-- **Session streams are exact.** What the endpoint of a session was told is the beginning of what
the other end has sent on it. It is all of it, and counted alike at both ends, where both have the
session and the queue of the sender is empty. -/
theorem streams_exact (config : Role → ChannelConfig) (depth : Role → Nat)
    (reception : Role → Reception) (moves : List Move) (role : Role) (key : UInt32) :
    ((run config depth reception moves).host role.other).channel.heard key <+:
        sentOn key ((run config depth reception moves).sent role) ∧
    ∀ mine yours,
      ((run config depth reception moves).host role).channel.sessions.find? key = some mine →
      ((run config depth reception moves).host role.other).channel.sessions.find? key = some yours →
      ((run config depth reception moves).host role).channel.outbox.frames = [] →
      ((run config depth reception moves).host role.other).channel.heard key =
          sentOn key ((run config depth reception moves).sent role) ∧
        mine.bytesOut = yours.bytesIn := by
  have hsound := sound_run config depth reception moves
  have hheard : ((run config depth reception moves).lane role.other key).heard =
      ((run config depth reception moves).host role.other).channel.heard key :=
    Ledger.heard_ledger _ _ key
  rw [← hheard]
  refine ⟨hsound.heard_prefix role key, fun mine yours hmine hyours hqueue => ?_⟩
  have hlive : ((run config depth reception moves).lane role key).session = some mine := hmine
  have hlive' : ((run config depth reception moves).lane role.other key).session = some yours :=
    hyours
  have hfollows := hsound.follows (by rw [hlive]; rfl) (by rw [hlive']; rfl)
  have hempty : (run config depth reception moves).queue role key = [] := by
    have hframes : ((run config depth reception moves).host role).ledger.frames = [] := hqueue
    rw [queue, hframes]
    rfl
  have hexact := hfollows.exact (by rw [hlive']; rfl)
  rw [hempty, payloads_nil, List.append_nil] at hexact
  refine ⟨hexact.symm, ?_⟩
  calc mine.bytesOut
      = volume ((run config depth reception moves).lane role key).sent :=
        hfollows.bytesOut mine hlive
    _ = volume ((run config depth reception moves).lane role.other key).heard := by rw [hexact]
    _ = yours.bytesIn := (hfollows.bytesIn yours hlive').symm

theorem streams_exact_after_greeting :
    (greeting.host .client).channel.outbox.frames = [] ∧
      (greeting.host .server).channel.heard 1 = [[7, 9]] ∧
      (greeting.host .server).channel.heard 1 = sentOn 1 (greeting.sent .client) := by
  have hqueue : (greeting.host .client).channel.outbox.frames = [] := by decide
  have hstream := (streams_exact _ _ _ _ .client 1).2
    { port := 80, endpoint := 0, bytesIn := 0, bytesOut := 2 }
    { port := 80, endpoint := 0, bytesIn := 2, bytesOut := 0 } (by decide) (by decide) hqueue
  exact ⟨hqueue, by decide, hstream.1⟩

end Peers

end SessionMux
