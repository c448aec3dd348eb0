import SessionMux.Proofs.Channel.Truthful
import SessionMux.Proofs.Host.Run

/-!
# The trace of every run

A run of a host interleaves the actions of the application with what comes from outside: frames of
the peer, and a writer that takes frames out of the queue or gives up. Each of these moves keeps the
trace of the channel truthful, and so does a run of any length.
-/

namespace SessionMux.Host

inductive Move
  | act (action : Action)
  /-- The peer sends a frame; `admission` is what the application says if it opens a session. -/
  | hear (frame : Frame) (admission : Admission)
  | take
  | abandon

def hear (host : Host) (frame : Frame) (admission : Admission) : Host :=
  host.settleChannel (host.channel.receive frame admission)

def move (host : Host) : Move → Host
  | .act action => host.act action
  | .hear frame admission => host.hear frame admission
  | .take => (host.takeFrames 1).2
  | .abandon => host.abandonOutbox

variable {host : Host}

theorem receives_hear (host : Host) (frame : Frame) (admission : Admission) :
    host.ledger.Receives frame admission (host.hear frame admission).ledger := by
  rw [hear, ledger_settleChannel]
  exact Channel.receives_receive frame admission

theorem ledger_takeFrame {frame : Frame} {channel : Channel}
    (htake : host.channel.takeFrame? = some (frame, channel)) :
    host.ledger.frames = frame :: (host.settleChannel channel).ledger.frames ∧
      (host.settleChannel channel).ledger =
        { host.ledger with frames := (host.settleChannel channel).ledger.frames } := by
  obtain ⟨hframes, hrest⟩ : _ ∧ channel.ledger host.replies = _ :=
    Channel.ledger_takeFrame? htake
  rw [ledger_settleChannel]
  exact ⟨hframes, hrest⟩

structure Truthful (host : Host) : Prop where
  plain : host.Plain
  truthful : host.ledger.Truthful

theorem truthful_create (config : ChannelConfig) (depth : Nat) (reception : Reception) :
    (create config depth reception).Truthful where
  plain := fun task hmem => absurd hmem List.not_mem_nil
  truthful := by
    refine Ledger.truthful_of_running rfl ?_ (Ledger.calm_singleton nofun)
    exact
      { orderly := Trace.orderly_singleton _ _
        running := by simp [ledger, Channel.ledger, create, Channel.create, Channel.publish]
        live_iff := fun id => by
          simp [Trace.Live, Trace.lifecycle, Change.lifecycle?, ledger, Channel.ledger, create,
            Channel.create, Channel.publish, Sessions.contains]
        sorted := Sessions.sorted_empty }

theorem Truthful.move (h : host.Truthful) (move : Move) : (host.move move).Truthful := by
  cases move with
  | act action =>
      obtain ⟨hworks, hplain⟩ := works_act h.plain action
      exact ⟨hplain, hworks.truthful h.truthful⟩
  | hear frame admission =>
      exact ⟨h.plain.settleChannel _, (receives_hear host frame admission).truthful h.truthful⟩
  | take =>
      rw [Host.move, takeFrames]
      cases htake : host.channel.takeFrame? with
      | none => exact h
      | some taken =>
          obtain ⟨frame, channel⟩ := taken
          have hafter : (host.settleChannel channel).ledger.Truthful := by
            rw [(ledger_takeFrame htake).2]
            exact h.truthful.congr rfl rfl rfl
          exact ⟨h.plain.settleChannel channel, hafter⟩
  | abandon =>
      refine ⟨h.plain.settleChannel _, ?_⟩
      rw [Host.move, abandonOutbox, ledger_settleChannel, Channel.ledger_abandonOutbox]
      exact h.truthful.congr rfl rfl rfl

theorem Truthful.run (h : host.Truthful) (moves : List Move) :
    (moves.foldl Host.move host).Truthful := by
  induction moves generalizing host with
  | nil => exact h
  | cons move moves ih => exact ih (h.move move)

/-- **The trace of a channel.** However long a host has been running, and whatever order its tasks,
its application, its writer and its peer have taken their turns in, the trace of its channel is well
formed, and exactly those sessions are live that the trace last reported as beginning. -/
theorem wellFormed_run (config : ChannelConfig) (depth : Nat) (reception : Reception)
    (moves : List Move) :
    Trace.WellFormed (moves.foldl move (create config depth reception)).channel.changes ∧
      ∀ id, (moves.foldl move (create config depth reception)).channel.sessions.contains id = true ↔
        Trace.Live (moves.foldl move (create config depth reception)).channel.changes id := by
  have htruthful := ((truthful_create config depth reception).run moves).truthful
  exact ⟨htruthful.wellFormed, fun id => (htruthful.live_iff id).symm⟩

end SessionMux.Host
