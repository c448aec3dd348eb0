import SessionMux.Proofs.Connect.Breakdown

/-!
# Where a connection is

An attempt that succeeds puts its connection into the hands of the work, and there is one at most.
From there the connection goes with the result to whoever waits, or it is disposed of. What is
proved is an account of all places it can be in after any moves. A connection leaves the account
only with a result that was sent and whose owner went before taking it.
-/

namespace SessionMux.Engine

variable {Memory Conn : Type} {engine before after : Engine Memory Conn}

def inHand? (engine : Engine Memory Conn) : Option Conn :=
  match engine.stage with
  | .concluding _ (.ok connection) => some connection
  | _ => none

def onOffer? (engine : Engine Memory Conn) : Option Conn :=
  engine.offered.bind Except.toOption

def established? (engine : Engine Memory Conn) : Move Memory Conn → Option Conn
  | .work _ answer =>
    match engine.stage, answer with
    | .checking .., .connection connection => some connection
    | _, _ => none
  | _ => none

def returned? (engine : Engine Memory Conn) (move : Move Memory Conn) : Option Conn :=
  (engine.seen? move).bind Except.toOption

def forfeited? (engine : Engine Memory Conn) : Move Memory Conn → Option Conn
  | .dropHandle => if engine.owner = .handle then engine.onOffer? else none
  | .abandonWait => if engine.owner = .waiter then engine.onOffer? else none
  | _ => none

/-- How a connection changes place in a move; the options tell which one arrives, is returned, and
is forfeited. -/
inductive Transfer (before after : Engine Memory Conn) :
    Option Conn → Option Conn → Option Conn → Prop
  | stays (hhand : after.inHand? = before.inHand?) (hoffer : after.onOffer? = before.onOffer?)
      (hdiscarded : after.discarded = before.discarded) : Transfer before after none none none
  | arrives {connection : Conn} (hbefore : before.inHand? = none)
      (hafter : after.inHand? = some connection) (hoffer : after.onOffer? = before.onOffer?)
      (hdiscarded : after.discarded = before.discarded) :
      Transfer before after (some connection) none none
  | sent {connection : Conn} (hbefore : before.inHand? = some connection)
      (hafter : after.inHand? = none) (hempty : before.onOffer? = none)
      (hoffer : after.onOffer? = some connection)
      (hdiscarded : after.discarded = before.discarded) : Transfer before after none none none
  | discarded {connection : Conn} (hbefore : before.inHand? = some connection)
      (hafter : after.inHand? = none) (hoffer : after.onOffer? = before.onOffer?)
      (hdiscarded : after.discarded = before.discarded ++ [connection]) :
      Transfer before after none none none
  | returned {connection : Conn} (hhand : after.inHand? = before.inHand?)
      (hbefore : before.onOffer? = some connection) (hafter : after.onOffer? = none)
      (hdiscarded : after.discarded = before.discarded) :
      Transfer before after none (some connection) none
  | forfeited {connection : Conn} (hhand : after.inHand? = before.inHand?)
      (hbefore : before.onOffer? = some connection) (hafter : after.onOffer? = none)
      (hdiscarded : after.discarded = before.discarded) :
      Transfer before after none none (some connection)

theorem onOffer?_eq_none (hoffered : engine.offered = none) : engine.onOffer? = none := by
  rw [onOffer?, hoffered, Option.bind_none]

theorem Sound.onOffer?_eq_none (h : engine.Sound) (hopen : engine.state.isTerminal = false) :
    engine.onOffer? = none :=
  Engine.onOffer?_eq_none (h.offered_eq_none hopen)

theorem Transfer.refl (engine : Engine Memory Conn) : Transfer engine engine none none none :=
  .stays rfl rfl rfl

/-! ### How each move transfers -/

/-- A refusal, sent or not, offers no connection. -/
theorem toOption_refusal (owner : ResultOwner) (error : ConnectError) :
    (if owner = .nobody then none else some (.error error : Except ConnectError Conn)).bind
      Except.toOption = none := by
  split <;> rfl

theorem Sound.transfer_cancel (h : engine.Sound) :
    Transfer engine engine.cancel.2 none none none := by
  cases hterminal : engine.state.isTerminal with
  | true =>
      rw [cancel_of_terminal hterminal]
      exact .refl engine
  | false =>
      rw [cancel_of_open hterminal (h.owed_of_open hterminal)]
      apply Transfer.stays
      · rfl
      · rw [h.onOffer?_eq_none hterminal]
        exact toOption_refusal engine.owner .cancelled
      · rfl

theorem transfer_forget (engine : Engine Memory Conn) :
    Transfer engine engine.forget none none engine.onOffer? := by
  cases hoffer : engine.onOffer? with
  | none => exact .stays rfl hoffer.symm rfl
  | some connection => exact .forfeited rfl hoffer rfl rfl

theorem Sound.transfer_dropHandle (h : engine.Sound) :
    Transfer engine engine.dropHandle none none engine.onOffer? := by
  rw [dropHandle]
  cases hterminal : engine.state.isTerminal with
  | true =>
      rw [cancel_of_terminal hterminal]
      exact transfer_forget engine
  | false =>
      have hempty : engine.onOffer? = none := h.onOffer?_eq_none hterminal
      rw [cancel_of_open hterminal (h.owed_of_open hterminal), hempty]
      exact .stays rfl hempty.symm rfl

theorem Sound.transfer_abandonWait (h : engine.Sound) :
    Transfer engine engine.abandonWait none none engine.onOffer? := by
  rw [abandonWait]
  cases hterminal : engine.state.isTerminal with
  | true =>
      have hforget : engine.forget.state.isTerminal = true := hterminal
      rw [cancel_of_terminal hforget]
      exact transfer_forget engine
  | false =>
      have hforget : engine.forget.state.isTerminal = false := hterminal
      have hempty : engine.onOffer? = none := h.onOffer?_eq_none hterminal
      rw [cancel_of_open hforget (h.owed_of_open hterminal), hempty]
      exact .stays rfl hempty.symm rfl

theorem Sound.transfer_take (h : engine.Sound) :
    Transfer engine (engine.move .take) none (engine.returned? .take) none := by
  rw [Engine.move, returned?, seen?, take?]
  by_cases howner : engine.owner = .waiter
  · rw [if_pos howner, if_pos howner]
    cases hoffered : engine.offered with
    | none => exact .refl engine
    | some result =>
        have hterminal : engine.state.isTerminal = true := (h.tells result hoffered).isTerminal
        have hoffer : engine.onOffer? = result.toOption := by
          rw [onOffer?, hoffered, Option.bind_some]
        simp only [Option.map_some, Option.getD_some, Option.bind_some, cancel_of_terminal,
          hterminal]
        cases result with
        | ok connection => exact .returned rfl hoffer rfl rfl
        | error error => exact .stays rfl hoffer.symm rfl
  · rw [if_neg howner, if_neg howner]
    exact .refl engine

theorem Sound.transfer_complete (h : engine.Sound) {attempt : Nat} {connection : Conn}
    (hstage : engine.stage = .concluding attempt (.ok connection)) :
    Transfer engine (engine.complete connection) none none none := by
  have hhand : engine.inHand? = some connection := by rw [inHand?, hstage]
  rw [complete]
  cases hterminal : engine.state.isTerminal with
  | true =>
      rw [if_pos rfl]
      exact .discarded hhand rfl rfl rfl
  | false =>
      rw [if_neg Bool.false_ne_true]
      dsimp only
      split
      · exact .sent hhand rfl (h.onOffer?_eq_none hterminal) rfl rfl
      · exact .discarded hhand rfl rfl rfl

theorem Sound.transfer_fail (h : engine.Sound) (clock : Nat) {attempt : Nat} {fault : Fault}
    (hstage : engine.stage = .concluding attempt (.error fault)) :
    Transfer engine (engine.fail clock attempt fault) none none none := by
  have hhand : engine.inHand? = none := by rw [inHand?, hstage]
  rw [fail]
  cases hterminal : engine.state.isTerminal with
  | true =>
      rw [if_pos rfl]
      exact .stays hhand.symm rfl rfl
  | false =>
      rw [if_neg Bool.false_ne_true]
      cases engine.strategy.schedule engine.memory with
      | mk retry memory =>
          cases retry with
          | after delay => exact .stays hhand.symm rfl rfl
          | overflow => exact .stays hhand.symm rfl rfl
          | giveUp =>
              simp only [report, refuse, h.owed_of_open hterminal, if_true]
              apply Transfer.stays
              · exact hhand.symm
              · rw [h.onOffer?_eq_none hterminal]
                exact toOption_refusal engine.owner _
              · rfl

theorem Sound.transfer_step (h : engine.Sound) (clock : Nat) (answer : Answer Conn) :
    Transfer engine (engine.step clock answer).1
      (engine.established? (.work clock answer)) none none := by
  -- Where the work has no connection in hand, it may go anywhere that gives it none.
  have hmoved (hbefore : engine.inHand? = none) {stage : EngineStage Conn}
      (hafter : { engine with stage }.inHand? = none) :
      Transfer engine { engine with stage } none none none :=
    .stays (by rw [hafter, hbefore]) rfl rfl
  rw [step]
  cases hstage : engine.stage with
  | unstarted | «over» | crashed =>
      simp only [established?, hstage]
      exact .refl engine
  | starting attempt =>
      have hhand : engine.inHand? = none := by rw [inHand?, hstage]
      simp only [established?, hstage, proceed]
      split
      · exact hmoved hhand rfl
      · exact .stays hhand.symm rfl rfl
  | calling attempt =>
      have hhand : engine.inHand? = none := by rw [inHand?, hstage]
      simp only [established?, hstage]
      split
      · exact hmoved hhand rfl
      · exact .stays hhand.symm rfl rfl
  | connecting attempt deadline =>
      have hhand : engine.inHand? = none := by rw [inHand?, hstage]
      simp only [established?, hstage]
      split
      · exact hmoved hhand rfl
      · exact hmoved hhand rfl
  | checking attempt deadline =>
      have hhand : engine.inHand? = none := by rw [inHand?, hstage]
      cases answer with
      | connection connection =>
          simp only [established?, hstage]
          exact .arrives hhand rfl rfl rfl
      | fault | crash =>
          simp only [established?, hstage]
          exact hmoved hhand rfl
      | pending =>
          simp only [established?, hstage]
          split
          · exact hmoved hhand rfl
          · exact hmoved hhand rfl
  | concluding attempt result =>
      simp only [established?, hstage]
      cases result with
      | ok connection => exact h.transfer_complete hstage
      | error fault => exact h.transfer_fail clock hstage
  | resting attempt deadline =>
      have hhand : engine.inHand? = none := by rw [inHand?, hstage]
      simp only [established?, hstage]
      split
      · exact hmoved hhand rfl
      · split
        · exact hmoved hhand rfl
        · exact .refl engine

theorem Sound.transfer_move (h : engine.Sound) (hheld : engine.Held) (move : Move Memory Conn) :
    Transfer engine (engine.move move) (engine.established? move) (engine.returned? move)
      (engine.forfeited? move) := by
  cases move with
  | start =>
      rw [Engine.move, start]
      by_cases howner : engine.owner = .engine
      · have hhand : engine.inHand? = none := by rw [inHand?, hheld.unstarted howner]
        rw [if_pos howner]
        exact .stays hhand.symm rfl rfl
      · rw [if_neg howner]
        exact .refl engine
  | work clock answer => exact h.transfer_step clock answer
  | cancel => exact h.transfer_cancel
  | dropHandle =>
      rw [Engine.move, forfeited?]
      by_cases howner : engine.owner = .handle
      · rw [if_pos howner, if_pos howner]
        exact h.transfer_dropHandle
      · rw [if_neg howner, if_neg howner]
        exact .refl engine
  | await =>
      rw [Engine.move]
      split
      · exact .stays rfl rfl rfl
      · exact .refl engine
  | abandonWait =>
      rw [Engine.move, forfeited?]
      by_cases howner : engine.owner = .waiter
      · rw [if_pos howner, if_pos howner]
        exact h.transfer_abandonWait
      · rw [if_neg howner, if_neg howner]
        exact .refl engine
  | take => exact h.transfer_take
  | sway memory => exact .stays rfl rfl rfl

/-! ### One connection at most -/

def hasYielded (engine : Engine Memory Conn) : Bool :=
  match engine.stage with
  | .over | .concluding _ (.ok _) => true
  | _ => false

theorem hasYielded_of_established? {move : Move Memory Conn} {connection : Conn}
    (harrives : connection ∈ engine.established? move) :
    engine.hasYielded = false ∧ (engine.move move).hasYielded = true := by
  cases move with
  | work clock answer =>
      cases hstage : engine.stage with
      | checking attempt deadline =>
          cases answer with
          | connection => simp [hasYielded, Engine.move, step, hstage]
          | _ => simp [established?, hstage] at harrives
      | _ => simp [established?, hstage] at harrives
  | _ => simp [established?] at harrives

theorem Held.hasYielded_move (h : engine.Held) (move : Move Memory Conn)
    (hyielded : engine.hasYielded = true) : (engine.move move).hasYielded = true := by
  obtain ⟨clock, answer, rfl⟩ | hsame | ⟨-, hbefore, -⟩ := h.stage_move move
  · rw [Engine.move, Engine.step]
    cases hstage : engine.stage with
    | «over» => exact hyielded
    | concluding attempt result =>
        cases result with
        | ok connection => rw [hasYielded, stage_complete]
        | error fault => simp [hasYielded, hstage] at hyielded
    | _ => simp [hasYielded, hstage] at hyielded
  · rw [hasYielded, hsame]
    exact hyielded
  · simp [hasYielded, hbefore] at hyielded

/-! ### The account -/

/-- A course with the connections that came into it and those that went from it unseen. -/
structure Account (Memory Conn : Type) where
  course : Course Memory Conn
  established : List Conn
  forfeited : List Conn

namespace Account

variable {account : Account Memory Conn}

def create (strategy : Strategy Memory) (memory : Memory) : Account Memory Conn where
  course := .create strategy memory
  established := []
  forfeited := []

def follow (account : Account Memory Conn) (move : Move Memory Conn) : Account Memory Conn where
  course := account.course.follow move
  established := account.established ++ (account.course.engine.established? move).toList
  forfeited := account.forfeited ++ (account.course.engine.forfeited? move).toList

def returned (account : Account Memory Conn) : List Conn :=
  account.course.results.filterMap Except.toOption

def places (account : Account Memory Conn) : List Conn :=
  account.course.engine.inHand?.toList ++ account.course.engine.onOffer?.toList ++
    account.returned ++ account.course.engine.discarded ++ account.forfeited

theorem returned_follow (account : Account Memory Conn) (move : Move Memory Conn) :
    (account.follow move).returned =
      account.returned ++ (account.course.engine.returned? move).toList := by
  rw [returned, follow, Course.follow, List.filterMap_append, returned, returned?]
  cases account.course.engine.seen? move with
  | none => rfl
  | some result => cases result <;> rfl

/-- Every connection is in one place, and it is the only one. -/
structure Sound (account : Account Memory Conn) : Prop where
  course : account.course.Sound
  held : account.course.engine.Held
  balanced : account.established.Perm account.places
  unyielded : account.course.engine.hasYielded = false → account.established = []
  once : account.established.length ≤ 1

theorem sound_create (strategy : Strategy Memory) (memory : Memory) :
    (create strategy memory : Account Memory Conn).Sound where
  course := Course.sound_create strategy memory
  held := held_create strategy memory
  balanced := .refl []
  unyielded := fun _ => rfl
  once := Nat.zero_le 1

theorem Sound.balanced_follow (h : account.Sound) (move : Move Memory Conn) :
    (account.follow move).established.Perm (account.follow move).places := by
  classical
  have htransfer := h.course.engine.transfer_move h.held move
  have hbalanced := h.balanced
  rw [places, returned_follow]
  simp only [places, follow, Course.follow, List.perm_iff_count, List.count_append]
    at hbalanced ⊢
  intro connection
  have hcount := hbalanced connection
  generalize account.course.engine.established? move = arrived at htransfer ⊢
  generalize account.course.engine.returned? move = returned at htransfer ⊢
  generalize account.course.engine.forfeited? move = forfeited at htransfer ⊢
  cases htransfer with
  | stays hhand hoffer hdiscarded =>
      simp only [hhand, hoffer, hdiscarded, Option.toList_none, List.count_nil]
      omega
  | arrives hbefore hafter hoffer hdiscarded =>
      simp only [hbefore, hafter, hoffer, hdiscarded, Option.toList_none, Option.toList_some,
        List.count_nil] at hcount ⊢
      omega
  | sent hbefore hafter hempty hoffer hdiscarded =>
      simp only [hbefore, hafter, hempty, hoffer, hdiscarded, Option.toList_none,
        Option.toList_some, List.count_nil] at hcount ⊢
      omega
  | discarded hbefore hafter hoffer hdiscarded =>
      simp only [hbefore, hafter, hoffer, hdiscarded, Option.toList_none, Option.toList_some,
        List.count_nil, List.count_append] at hcount ⊢
      omega
  | returned hhand hbefore hafter hdiscarded =>
      simp only [hhand, hbefore, hafter, hdiscarded, Option.toList_none, Option.toList_some,
        List.count_nil] at hcount ⊢
      omega
  | forfeited hhand hbefore hafter hdiscarded =>
      simp only [hhand, hbefore, hafter, hdiscarded, Option.toList_none, Option.toList_some,
        List.count_nil] at hcount ⊢
      omega

theorem Sound.follow (h : account.Sound) (move : Move Memory Conn) :
    (account.follow move).Sound where
  course := h.course.follow move
  held := h.held.move h.course.engine move
  balanced := h.balanced_follow move
  unyielded := by
    intro hafter
    cases harrives : account.course.engine.established? move with
    | some connection =>
        have hyielded := (hasYielded_of_established? harrives).2
        rw [Account.follow, Course.follow, hyielded] at hafter
        cases hafter
    | none =>
        have hbefore : account.course.engine.hasYielded = false := by
          rw [← Bool.not_eq_true]
          intro hyielded
          have hyielded := h.held.hasYielded_move move hyielded
          rw [Account.follow, Course.follow, hyielded] at hafter
          cases hafter
        simp [Account.follow, harrives, h.unyielded hbefore]
  once := by
    cases harrives : account.course.engine.established? move with
    | some connection =>
        have hbefore := (hasYielded_of_established? harrives).1
        simp [Account.follow, harrives, h.unyielded hbefore]
    | none => simpa [Account.follow, harrives] using h.once

theorem Sound.run (h : account.Sound) (moves : List (Move Memory Conn)) :
    (moves.foldl Account.follow account).Sound := by
  induction moves generalizing account with
  | nil => exact h
  | cons move moves ih => exact ih (h.follow move)

theorem Sound.established_eq (h : account.Sound) : account.established = account.places := by
  have hbalanced := h.balanced
  have honce := h.once
  rcases hestablished : account.established with _ | ⟨connection, _ | ⟨other, rest⟩⟩
  · rw [hestablished, List.nil_perm] at hbalanced
    exact hbalanced.symm
  · rw [hestablished, List.singleton_perm] at hbalanced
    exact hbalanced
  · simp [hestablished] at honce

theorem Sound.returned_eq_nil (h : account.Sound) (hcancels : account.course.cancels ≠ 0) :
    account.returned = [] := by
  have hcancelled : account.course.engine.state = .cancelled := by
    apply Decidable.byContradiction
    intro hother
    apply hcancels
    rw [h.course.cancels, decide_eq_false hother, Bool.toNat_false]
  rw [returned, List.filterMap_eq_nil_iff]
  intro result hmem
  have htells := h.course.tells result hmem
  rw [hcancelled] at htells
  cases result with
  | ok connection => exact absurd htells id
  | error error => rfl

end Account

/-! ### At rest -/

def idlesAt (engine : Engine Memory Conn) (clock : Nat) : Bool :=
  match engine.stage with
  | .unstarted | .over | .crashed => true
  | .connecting _ deadline | .resting _ deadline =>
    engine.state ≠ .cancelled && clock < deadline
  | _ => false

/-- No task can take a step: the work idles, and no wait has its result at hand. -/
structure AtRest (engine : Engine Memory Conn) (clock : Nat) : Prop where
  work : engine.idlesAt clock = true
  wait : engine.seen? .take = none

theorem AtRest.inHand? {clock : Nat} (h : engine.AtRest clock) : engine.inHand? = none := by
  have hidles := h.work
  rw [idlesAt] at hidles
  rw [Engine.inHand?]
  cases hstage : engine.stage with
  | concluding => simp [hstage] at hidles
  | _ => rfl

theorem Account.Sound.owner_of_onOffer? {account : Account Memory Conn} {clock : Nat}
    (h : account.Sound) (hrest : account.course.engine.AtRest clock)
    {connection : Conn} (hoffer : account.course.engine.onOffer? = some connection) :
    account.course.engine.owner = .handle := by
  have hoffered : account.course.engine.offered.isSome = true := by
    cases hoffered : account.course.engine.offered with
    | none => simp [onOffer?, hoffered] at hoffer
    | some result => rfl
  cases howner : account.course.engine.owner with
  | handle => rfl
  | engine =>
      -- Nothing was yielded yet, so there is nothing to be on offer.
      have hstage := h.held.unstarted howner
      have hnone : account.established = [] := h.unyielded (by rw [hasYielded, hstage])
      have hplaces := h.established_eq
      simp [hnone, Account.places, hoffer] at hplaces
  | waiter =>
      have hwait := hrest.wait
      rw [seen?, if_pos howner, take?, Option.map_map, Option.map_eq_none_iff] at hwait
      simp [hwait] at hoffered
  | nobody => exact absurd howner (h.held.offered.mp hoffered).2

/-- **No connection is lost.** Whatever the strategy decides, whatever becomes of the attempts, and
whatever order the moves come in: at most one connection is established, and it is never both
returned and disposed of. Unless the handle or the wait went while the connection was on offer to
it, the connection is in the hands of the work, on offer, returned, or disposed of. When no task can
take a step, it is not in the hands of the work, and it is on offer only to a handle that nobody
waits on. If the engine was cancelled, no wait has returned a connection. -/
theorem Account.no_connection_lost (strategy : Strategy Memory) (memory : Memory)
    (moves : List (Move Memory Conn)) :
    let account := moves.foldl follow (create strategy memory)
    let engine := account.course.engine
    (account.established.length ≤ 1 ∧
      (account.returned ++ engine.discarded).Sublist account.established) ∧
      (account.forfeited = [] →
        account.established = engine.inHand?.toList ++ engine.onOffer?.toList ++
          account.returned ++ engine.discarded) ∧
      (∀ clock, engine.AtRest clock →
        engine.inHand? = none ∧ (engine.onOffer?.isSome = true → engine.owner = .handle)) ∧
      (account.course.cancels ≠ 0 → account.returned = []) := by
  intro account engine
  have h : account.Sound := (sound_create strategy memory).run moves
  refine ⟨⟨h.once, ?_⟩, ?_, ?_, h.returned_eq_nil⟩
  · rw [h.established_eq]
    have hreturned := List.sublist_append_right
      (engine.inHand?.toList ++ engine.onOffer?.toList) account.returned
    exact (hreturned.append (.refl engine.discarded)).trans (List.sublist_append_left _ _)
  · intro hforfeited
    rw [h.established_eq, places, hforfeited, List.append_nil]
  · intro clock hrest
    refine ⟨hrest.inHand?, ?_⟩
    intro hoffer
    obtain ⟨connection, hconnection⟩ := Option.isSome_iff_exists.mp hoffer
    exact h.owner_of_onOffer? hrest hconnection

/-- A connection stays where it is on offer to a handle that nobody waits on, and it is gone without
being disposed of when that handle goes. -/
theorem Account.on_offer_at_rest :
    let moves : List (Move Span Unit) := [.start, .work 0 .pending, .work 0 .pending,
      .work 0 (.connection ()), .work 0 .pending]
    let account := moves.foldl follow (create .single (.ofSeconds 10))
    let dropped := account.follow .dropHandle
    (account.course.engine.AtRest 0 ∧ account.established = [()] ∧ account.returned = [] ∧
        account.course.engine.discarded = []) ∧
      (dropped.course.engine.AtRest 0 ∧ dropped.established = [()] ∧ dropped.returned = [] ∧
        dropped.course.engine.discarded = []) := by
  exact ⟨⟨⟨rfl, rfl⟩, rfl, rfl, rfl⟩, ⟨rfl, rfl⟩, rfl, rfl, rfl⟩

end SessionMux.Engine
