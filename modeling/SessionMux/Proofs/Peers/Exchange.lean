import SessionMux.Proofs.Host.Failure
import SessionMux.Proofs.Peers.Closing
import SessionMux.Proofs.Peers.System

/-!
# Two ends that may refuse each other's sessions

The client and the server of `Peers`, where each frame that opens a session may be answered in its
own way: an end takes the session with any kind of endpoint, or refuses it with any error. What an
end has dealt with is kept in mind, since it is gone from the queue of its sender and need not have
changed anything.

`Exchange.Sound` is the invariant: both ends are sound on their own, and every session is somewhere
on its `Lane.Course`.
-/

namespace SessionMux

/-! ### One end -/

namespace Host

variable {host : Host}

theorem Reachable.move (h : host.Reachable) (move : Move) : (host.move move).Reachable := by
  obtain ⟨config, depth, reception, moves, rfl⟩ := h
  exact ⟨config, depth, reception, moves ++ [move], List.foldl_concat ..⟩

/-- A closed channel does not deal with frames. -/
theorem hear_of_closed (hquiet : host.channel.signals = []) (hclosed : host.channel.closed = true)
    (frame : Frame) (admission : Admission) : host.hear frame admission = host := by
  have hsame : { host.channel with signals := [] } = host.channel := by rw [← hquiet]
  rw [hear, Channel.receive, if_pos hclosed, settleChannel, hquiet, hsame]
  rfl

structure Apt (host : Host) (role : Role) : Prop where
  reachable : host.Reachable
  sound : host.ledger.Sound
  parity : host.ledger.nextSession % 2 = role.firstSession % 2

theorem Apt.plain {role : Role} (h : host.Apt role) : host.Plain := h.reachable.waits.truthful.plain

theorem apt_create (config : ChannelConfig) (role : Role) (depth : Nat) (reception : Reception) :
    (create { config with role } depth reception).Apt role where
  reachable := ⟨_, _, _, [], rfl⟩
  sound :=
    { truthful := (truthful_create _ _ _).truthful
      homed := Ledger.homed_of_empty rfl
      draining := rfl }
  parity := rfl

theorem Apt.act {role : Role} (h : host.Apt role) (action : Action) :
    (host.act action).Apt role := by
  obtain ⟨hworks, -⟩ := works_act h.plain action
  exact ⟨h.reachable.move (.act action), hworks.sound h.sound, hworks.parity.trans h.parity⟩

theorem Apt.hear {role : Role} (h : host.Apt role) (frame : Frame) (admission : Admission) :
    (host.hear frame admission).Apt role := by
  have hhears := host.receives_hear frame admission
  exact ⟨h.reachable.move (.hear frame admission), hhears.sound h.sound,
    (congrArg (· % 2) hhears.nextSession).trans h.parity⟩

/-- To take a frame out of the queue changes nothing else. -/
theorem Apt.take {role : Role} (h : host.Apt role) {frames : List Frame}
    (htakes : host.ledger = { (host.move .take).ledger with frames }) :
    (host.move .take).Apt role := by
  have hsound := h.sound
  have hparity := h.parity
  rw [htakes] at hsound hparity
  exact ⟨h.reachable.move .take,
    ⟨hsound.truthful.congr rfl rfl rfl, hsound.homed.of_same rfl rfl, hsound.draining⟩, hparity⟩

end Host

/-! ### One frame -/

/-- **A frame on the lane of its session**, which may be refused. -/
theorem Ledger.Receives.hears {ledger next : Ledger} {frame : Frame} {admission : Admission}
    (hreceives : ledger.Receives frame admission next) (h : ledger.Sound)
    (log : List (UInt32 × Bytes)) :
    ∃ out, framesOf frame.session next.frames = framesOf frame.session ledger.frames ++ out ∧
      (ledger.lane log frame.session).Hears frame out (next.lane log frame.session) := by
  have htaken (kind : EndpointKind) (htakes : ledger.Receives frame (.ok kind) next) :
      ∃ out, framesOf frame.session next.frames = framesOf frame.session ledger.frames ++ out ∧
        (ledger.lane log frame.session).Hears frame out (next.lane log frame.session) := by
    obtain ⟨out, hframes, hlane⟩ := htakes.lane h log
    exact ⟨out, hframes, .receives hlane⟩
  cases hreceives with
  | drops hclosed => exact htaken .queue (.drops hclosed)
  | strays hopen hbody hfind => exact htaken .queue (.strays hopen hbody hfind)
  | takes hopen hbody hfind => exact htaken .queue (.takes hopen hbody hfind)
  | rejects error hopen hbody hfind hreply =>
      exact htaken .queue (.rejects error hopen hbody hfind hreply)
  | repeats hopen hbody hfind hport =>
      exact htaken .queue (.repeats hopen hbody hfind hport)
  | conflicts hopen hbody hfind hport =>
      exact htaken .queue (.conflicts hopen hbody hfind hport)
  | @admits kind hopen hbody hfind => exact htaken kind (.admits hopen hbody hfind rfl)
  | ends hopen hbody hreply => exact htaken .queue (.ends hopen hbody hreply)
  | acknowledges hopen hbody => exact htaken .queue (.acknowledges hopen hbody)
  | misreads hopen hbody => exact htaken .queue (.misreads hopen hbody)
  | warns hopen hbody hfind => exact htaken .queue (.warns hopen hbody hfind)
  | notes hopen hbody hfind => exact htaken .queue (.notes hopen hbody hfind)
  | @refuses error next hopen hbody hfind hadmission hreply =>
      obtain ⟨out, later, hframes, hlane, hlater⟩ := hreply.lane h.draining log
      refine ⟨out, hframes, ?_⟩
      rw [lane_publish, hlane]
      exact .refuses hbody hfind rfl hlater

/-! ### The system -/

structure Exchange where
  peers : Peers
  /-- What each end has dealt with: the frames that have arrived there while its channel was open,
  oldest first. -/
  handled : Role → List Frame

namespace Exchange

inductive Move
  | act (role : Role) (action : Host.Action)
  /-- The next frame that an end has queued arrives at the other one, where `admission` answers the
  session that it opens, if it opens one. -/
  | pass (role : Role) (admission : Admission)

def create (config : Role → ChannelConfig) (depth : Role → Nat) (reception : Role → Reception) :
    Exchange where
  peers := .create config depth reception
  handled _ := []

/-- The frame that goes from one end to the other, where the channel is open to deal with it. -/
def dealing? (exchange : Exchange) (role : Role) : Option Frame :=
  if (exchange.peers.host role.other).channel.closed then none
  else (exchange.peers.host role).channel.takeFrame?.map (·.1)

def move (exchange : Exchange) : Move → Exchange
  | .act role action => { exchange with peers := exchange.peers.move (.act role action) }
  | .pass role admission =>
    { peers := exchange.peers.deliver role admission
      handled := Function.update exchange.handled role.other
        (exchange.handled role.other ++ (exchange.dealing? role).toList) }

def run (config : Role → ChannelConfig) (depth : Role → Nat) (reception : Role → Reception)
    (moves : List Move) : Exchange :=
  moves.foldl move (create config depth reception)

def underway (exchange : Exchange) (role : Role) : List Frame :=
  (exchange.peers.host role).ledger.frames ++ (exchange.peers.host role).ledger.replies

def met (exchange : Exchange) (role : Role) (key : UInt32) : List Frame :=
  framesOf key (exchange.handled role)

def Stands (exchange : Exchange) (key : UInt32) : Prop :=
  let owner := Role.owner key
  Lane.Course (exchange.peers.lane owner key) (exchange.peers.lane owner.other key)
    (exchange.peers.queue owner key) (exchange.peers.queue owner.other key)
    (exchange.met owner key) (exchange.met owner.other key)

structure Sound (exchange : Exchange) : Prop where
  ends : ∀ role, (exchange.peers.host role).Apt role
  stands : ∀ key, exchange.Stands key

variable {exchange next : Exchange} {role : Role} {key : UInt32} {frame : Frame} {out : List Frame}
  {admission : Admission}

theorem sound_create (config : Role → ChannelConfig) (depth : Role → Nat)
    (reception : Role → Reception) : (create config depth reception).Sound where
  ends role := Host.apt_create (config role) role (depth role) (reception role)
  stands _ := .blank ⟨rfl, rfl, rfl, rfl⟩ ⟨rfl, rfl, rfl, rfl⟩

theorem Sound.not_free (h : exchange.Sound) (key : UInt32) :
    (exchange.peers.lane (Role.owner key).other key).free = false :=
  Peers.not_free_of_parity (h.ends (Role.owner key).other).parity

/-! ### What a move is to one session -/

theorem Sound.stands_of_works (h : exchange.Sound)
    (hlane : next.peers.lane role.other key = exchange.peers.lane role.other key)
    (hqueue : next.peers.queue role.other key = exchange.peers.queue role.other key)
    (hout : next.peers.queue role key = exchange.peers.queue role key ++ out)
    (hworks : (exchange.peers.lane role key).Works out (next.peers.lane role key))
    (hmet : ∀ any, next.met any key = exchange.met any key) : next.Stands key := by
  have hstands := h.stands key
  rw [Stands, hmet, hmet]
  rcases role.eq_or_eq_other (.owner key) with rfl | rfl
  · rw [hlane, hqueue, hout]
    exact hstands.works_owner hworks
  · rw [Role.other_other] at hlane hqueue
    rw [hlane, hqueue, hout]
    exact hstands.works_other (h.not_free key) hworks

theorem Sound.stands_of_hears (h : exchange.Sound)
    (hlane : next.peers.lane role key = exchange.peers.lane role key)
    (hqueue : exchange.peers.queue role key = frame :: next.peers.queue role key)
    (hout : next.peers.queue role.other key = exchange.peers.queue role.other key ++ out)
    (hhears : (exchange.peers.lane role.other key).Hears frame out
      (next.peers.lane role.other key))
    (hmet : next.met role key = exchange.met role key)
    (hmeets : next.met role.other key = exchange.met role.other key ++ [frame]) :
    next.Stands key := by
  have hstands := h.stands key
  rw [Stands] at hstands ⊢
  rcases role.eq_or_eq_other (.owner key) with rfl | rfl
  · rw [hqueue] at hstands
    rw [hlane, hout, hmet, hmeets]
    exact hstands.hears_other hhears
  · rw [Role.other_other] at hout hhears hmeets
    rw [hqueue] at hstands
    rw [hlane, hout, hmet, hmeets]
    exact hstands.hears_owner hhears

/-- A frame has come to an end that is closed. -/
theorem Sound.stands_of_drops (h : exchange.Sound)
    (hlane : ∀ any, next.peers.lane any key = exchange.peers.lane any key)
    (hqueue : exchange.peers.queue role key = frame :: next.peers.queue role key)
    (hother : next.peers.queue role.other key = exchange.peers.queue role.other key)
    (hmet : ∀ any, next.met any key = exchange.met any key) : next.Stands key := by
  have hstands := h.stands key
  rw [Stands] at hstands ⊢
  rw [hlane, hlane, hmet, hmet]
  rcases role.eq_or_eq_other (.owner key) with rfl | rfl
  · rw [hqueue] at hstands
    rw [hother]
    exact hstands.drops_other
  · rw [Role.other_other] at hother
    rw [hqueue] at hstands
    rw [hother]
    exact hstands.drops_owner

/-! ### Every run is sound -/

theorem Sound.act (h : exchange.Sound) (role : Role) (action : Host.Action) :
    (exchange.move (.act role action)).Sound := by
  have hapt := h.ends role
  refine ⟨fun any => ?_, fun key => ?_⟩
  · rcases any.eq_or_eq_other role with rfl | rfl
    · rw [move, Peers.host_act]
      exact hapt.act action
    · rw [move, Peers.host_act_other]
      exact h.ends role.other
  · obtain ⟨out, hout, hworks⟩ := Peers.works_act hapt.plain hapt.sound action key
    exact h.stands_of_works (Peers.lane_act_other _ role action key)
      (Peers.queue_act_other _ role action key) hout hworks fun _ => rfl

structure Passed (exchange next : Exchange) (role : Role) (frame : Frame)
    (admission : Admission) : Prop where
  peers : Peers.Passed exchange.peers next.peers role frame admission
  handled : next.handled role = exchange.handled role
  handled_other : next.handled role.other = exchange.handled role.other ++
    if (exchange.peers.host role.other).channel.closed then [] else [frame]

theorem pass_cases (exchange : Exchange) (role : Role) (admission : Admission) :
    exchange.move (.pass role admission) = exchange ∨
      ∃ frame, Passed exchange (exchange.move (.pass role admission)) role frame admission := by
  obtain ⟨htake, hsame⟩ | ⟨frame, channel, htake, hpassed⟩ :=
    exchange.peers.deliver_cases role admission
  · left
    rw [move, hsame, dealing?, htake]
    simp
  · right
    refine ⟨frame, hpassed, Function.update_of_ne role.other_ne.symm .., ?_⟩
    refine (Function.update_self ..).trans ?_
    rw [dealing?, htake]
    split_ifs <;> rfl

theorem Passed.met (hpassed : Passed exchange next role frame admission) (key : UInt32) :
    next.met role key = exchange.met role key := by
  rw [Exchange.met, Exchange.met, hpassed.handled]

theorem Passed.met_of_closed (hpassed : Passed exchange next role frame admission)
    (hclosed : (exchange.peers.host role.other).channel.closed = true) (any : Role)
    (key : UInt32) : next.met any key = exchange.met any key := by
  rcases any.eq_or_eq_other role with rfl | rfl
  · exact hpassed.met key
  · rw [Exchange.met, Exchange.met, hpassed.handled_other, if_pos hclosed, List.append_nil]

/-- Each end has dealt with what it had dealt with, and with this frame if it is open. -/
theorem Passed.met_of_open (hpassed : Passed exchange next role frame admission)
    (hopen : (exchange.peers.host role.other).channel.closed = false) (key : UInt32) :
    next.met role.other key =
      exchange.met role.other key ++ if frame.session = key then [frame] else [] := by
  rw [Exchange.met, Exchange.met, hpassed.handled_other, if_neg (by simp [hopen])]
  by_cases heq : frame.session = key <;> simp [framesOf, heq]

/-- A frame that an end is too late for. -/
theorem Sound.stands_of_closed (h : exchange.Sound)
    (hpassed : Passed exchange next role frame admission)
    (hclosed : (exchange.peers.host role.other).channel.closed = true) (key : UInt32) :
    next.Stands key := by
  have hquiet := (h.ends role.other).reachable.signals
  have hhost : next.peers.host role.other = exchange.peers.host role.other :=
    hpassed.peers.host_other.trans (Host.hear_of_closed hquiet hclosed frame admission)
  have hlane (any : Role) : next.peers.lane any key = exchange.peers.lane any key := by
    rcases any.eq_or_eq_other role with rfl | rfl
    · exact hpassed.peers.lane key
    · rw [Peers.lane, Peers.lane, hhost, hpassed.peers.sent]
  have hqueue : next.peers.queue role.other key = exchange.peers.queue role.other key := by
    rw [Peers.queue, Peers.queue, hhost]
  by_cases heq : frame.session = key
  · subst heq
    exact h.stands_of_drops hlane hpassed.peers.queue hqueue
      fun any => hpassed.met_of_closed hclosed any _
  · have hrest : next.peers.queue role key = exchange.peers.queue role key ++ [] := by
      rw [List.append_nil, hpassed.peers.queue_of_ne heq]
    refine h.stands_of_works (hlane _) hqueue hrest ?_ fun any => ?_
    · rw [hlane]
      exact Ledger.works_refl _
    · exact hpassed.met_of_closed hclosed any _

theorem Sound.stands_of_open (h : exchange.Sound)
    (hpassed : Passed exchange next role frame admission)
    (hopen : (exchange.peers.host role.other).channel.closed = false) (key : UInt32) :
    next.Stands key := by
  have hsound := (h.ends role.other).sound
  have hmeets := hpassed.met_of_open hopen key
  by_cases heq : frame.session = key
  · subst heq
    rw [if_pos rfl] at hmeets
    obtain ⟨out, hout, hhears⟩ := hpassed.peers.hears.hears hsound (exchange.peers.sent role.other)
    refine h.stands_of_hears (hpassed.peers.lane _) hpassed.peers.queue hout ?_ (hpassed.met _)
      hmeets
    rw [Peers.lane, Peers.lane, hpassed.peers.sent]
    exact hhears
  · rw [if_neg heq, List.append_nil] at hmeets
    obtain ⟨hqueue, hlane⟩ := hpassed.peers.other_of_ne hsound heq
    have hrest : next.peers.queue role key = exchange.peers.queue role key ++ [] := by
      rw [List.append_nil, hpassed.peers.queue_of_ne heq]
    refine h.stands_of_works hlane hqueue hrest ?_ fun any => ?_
    · rw [hpassed.peers.lane]
      exact Ledger.works_refl _
    · rcases any.eq_or_eq_other role with rfl | rfl
      · exact hpassed.met key
      · exact hmeets

theorem Sound.passed (h : exchange.Sound) (hpassed : Passed exchange next role frame admission) :
    next.Sound := by
  refine ⟨fun any => ?_, fun key => ?_⟩
  · rcases any.eq_or_eq_other role with rfl | rfl
    · have htakes := hpassed.peers.takes
      rw [hpassed.peers.host] at htakes ⊢
      exact (h.ends any).take htakes
    · rw [hpassed.peers.host_other]
      exact (h.ends role.other).hear frame admission
  · cases hclosed : (exchange.peers.host role.other).channel.closed with
    | true => exact h.stands_of_closed hpassed hclosed key
    | false => exact h.stands_of_open hpassed hclosed key

theorem Sound.move (h : exchange.Sound) (move : Move) : (exchange.move move).Sound := by
  cases move with
  | act role action => exact h.act role action
  | pass role admission =>
      obtain hsame | ⟨frame, hpassed⟩ := exchange.pass_cases role admission
      · rw [hsame]
        exact h
      · exact h.passed hpassed

/-- **Every run is sound.** -/
theorem Sound.run (h : exchange.Sound) (moves : List Move) :
    (moves.foldl Exchange.move exchange).Sound := by
  induction moves generalizing exchange with
  | nil => exact h
  | cons first moves ih => exact ih (h.move first)

/-! ### What a move is to one end -/

inductive Advances (host : Host) (handled : List Frame) : Host → List Frame → Prop
  | rests : Advances host handled host handled
  | acts (action : Host.Action) : Advances host handled (host.move (.act action)) handled
  | takes : Advances host handled (host.move .take) handled
  | hears (frame : Frame) (admission : Admission) (hopen : host.channel.closed = false) :
      Advances host handled (host.move (.hear frame admission)) (handled ++ [frame])

theorem Sound.advances (h : exchange.Sound) (move : Move) (role : Role) :
    Advances (exchange.peers.host role) (exchange.handled role)
      ((exchange.move move).peers.host role) ((exchange.move move).handled role) := by
  cases move with
  | act actor action =>
      have hhandled : (exchange.move (.act actor action)).handled = exchange.handled := rfl
      rw [hhandled, Exchange.move]
      rcases role.eq_or_eq_other actor with rfl | rfl
      · rw [Peers.host_act]
        exact .acts action
      · rw [Peers.host_act_other]
        exact .rests
  | pass sender admission =>
      obtain hsame | ⟨frame, hpassed⟩ := exchange.pass_cases sender admission
      · rw [hsame]
        exact .rests
      · rcases role.eq_or_eq_other sender with rfl | rfl
        · rw [hpassed.peers.host, hpassed.handled]
          exact .takes
        · rw [hpassed.peers.host_other, hpassed.handled_other]
          cases hclosed : (exchange.peers.host sender.other).channel.closed with
          | true =>
              have hquiet := (h.ends sender.other).reachable.signals
              rw [Host.hear_of_closed hquiet hclosed, if_pos rfl, List.append_nil]
              exact .rests
          | false => exact .hears frame admission hclosed

end Exchange

end SessionMux
