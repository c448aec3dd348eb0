import SessionMux.Proofs.Peers.View
import SessionMux.Proofs.Wire.Limits

/-!
# What a channel lets out

Frames are on their way out while they are in the outbound queue, and so are replies that wait for a
place there. Whatever a channel does, all of them keep within its limit, if what is sent does and
what tasks put into the queue does (`Channel.Fitting`). A channel never changes its limit.
-/

namespace SessionMux

/-! ### Frames on their way out -/

namespace Ledger

def Lets (kind : Frame → Prop) (ledger : Ledger) : Prop :=
  ∀ frame ∈ ledger.frames ++ ledger.replies, kind frame

def Fits (limit : Nat) (ledger : Ledger) : Prop :=
  ∀ frame ∈ ledger.frames ++ ledger.replies, frame.Fits limit

variable {limit : Nat} {kind : Frame → Prop} {ledger next : Ledger} {frame : Frame}

namespace Lets

theorem of_same (h : ledger.Lets kind) (hframes : next.frames = ledger.frames)
    (hreplies : next.replies = ledger.replies) : next.Lets kind := by
  intro frame hmem
  rw [hframes, hreplies] at hmem
  exact h frame hmem

theorem push (h : ledger.Lets kind) (hframe : kind frame) : (ledger.push frame).Lets kind := by
  intro other hmem
  obtain hqueued | hwaits := List.mem_append.mp hmem
  · rw [Ledger.push] at hqueued
    split at hqueued
    · obtain hbefore | hnew := List.mem_append.mp hqueued
      · exact h other (List.mem_append_left _ hbefore)
      · rw [List.mem_singleton.mp hnew]
        exact hframe
    · exact h other (List.mem_append_left _ hqueued)
  · exact h other (List.mem_append_right _ hwaits)

theorem defer (h : ledger.Lets kind) (hframe : kind frame) : (ledger.defer frame).Lets kind := by
  intro other hmem
  rw [Ledger.defer, ← List.append_assoc] at hmem
  obtain hbefore | hnew := List.mem_append.mp hmem
  · exact h other hbefore
  · rw [List.mem_singleton.mp hnew]
    exact hframe

theorem remove (h : ledger.Lets kind) (id : UInt32) : (ledger.remove id).Lets kind := by
  obtain ⟨sessions, endpoints, changes, hremove⟩ := ledger.remove_eq id
  rw [hremove]
  exact h

theorem close (h : ledger.Lets kind) : ledger.close.Lets kind := by
  obtain ⟨sessions, endpoints, changes, hended, -⟩ :=
    foldl_remove_eq ledger.sessions.ids { ledger with closed := true }
  rw [Ledger.close, hended]
  exact h

end Lets

theorem Replies.lets (hreply : ledger.Replies frame next) (h : ledger.Lets kind)
    (hframe : kind frame) : next.Lets kind := by
  obtain rfl | ⟨-, rfl⟩ := hreply
  · exact h.push hframe
  · exact h.defer hframe

section Kinds

variable
  (hcontrol : ∀ (frame : Frame) (code : ControlCode),
    frame.body = .control code → code.isNamed = true → kind frame)
  (herror : ∀ (frame : Frame) (code : ErrorCode), frame.body = .error code → kind frame)
include hcontrol herror

/-- Local work lets out control codes that have a name, codes of errors, and what it sends. -/
theorem Works.lets {sent : Option (UInt32 × Bytes)} (hworks : ledger.Works sent next)
    (h : ledger.Lets kind)
    (hsent : ∀ (frame : Frame) (id : UInt32) (payload : Bytes), sent = some (id, payload) →
      frame.body = .data payload → kind frame) :
    next.Lets kind := by
  cases hworks with
  | rests => exact h
  | exhausts => exact h
  | sends payload => exact Lets.push h (hsent _ _ payload rfl rfl)
  | opens port => exact Lets.push h (hcontrol _ _ rfl rfl)
  | closes => exact (h.remove _).push (hcontrol _ _ rfl rfl)
  | complains code => exact h.push (herror _ _ rfl)
  | @answers front rear frame hreplies =>
      have hmem : frame ∈ ledger.replies := by
        rw [hreplies]
        exact List.mem_append_right _ List.mem_cons_self
      refine Lets.push ?_ (h frame (List.mem_append_right _ hmem))
      intro other hother
      refine h other ?_
      rw [hreplies]
      simp only [List.mem_append, List.mem_cons] at hother ⊢
      tauto
  | shuts => exact h.close
  | fails code message => exact Lets.close h

/-- Replies carry codes. -/
theorem Receives.lets {admission : Admission} (hreceives : ledger.Receives frame admission next)
    (h : ledger.Lets kind) : next.Lets kind := by
  cases hreceives with
  | drops | strays | takes | repeats | conflicts | admits | acknowledges | misreads | warns
  | notes => exact h
  | rejects error _ _ _ hreply =>
      refine hreply.lets (Lets.remove ?_ _) (hcontrol _ _ rfl rfl)
      exact h
  | refuses _ _ _ _ hreply => exact hreply.lets h (herror _ _ rfl)
  | ends _ _ hreply => exact hreply.lets (h.remove _) (hcontrol _ _ rfl rfl)

end Kinds

/-! ### Payloads within the limit -/

theorem Fits.of_same (h : ledger.Fits limit) (hframes : next.frames = ledger.frames)
    (hreplies : next.replies = ledger.replies) : next.Fits limit :=
  Lets.of_same h hframes hreplies

theorem Fits.push (h : ledger.Fits limit) (hframe : frame.Fits limit) :
    (ledger.push frame).Fits limit :=
  Lets.push h hframe

/-- Local work lets out what fits, if what it sends fits. -/
theorem Works.fits {sent : Option (UInt32 × Bytes)} (hworks : ledger.Works sent next)
    (h : ledger.Fits limit)
    (hsent : ∀ id payload, sent = some (id, payload) → payload.length ≤ limit) :
    next.Fits limit := by
  refine hworks.lets (fun _ _ hbody _ => Frame.fits_of_control hbody)
    (fun _ _ hbody => Frame.fits_of_error hbody) h ?_
  intro frame id payload hsends hbody other hother
  obtain rfl : payload = other := FrameBody.data.inj (hbody.symm.trans hother)
  exact hsent id payload hsends

/-- Replies carry codes, so a frame of the peer lets out nothing that does not fit. -/
theorem Receives.fits {admission : Admission} (hreceives : ledger.Receives frame admission next)
    (h : ledger.Fits limit) : next.Fits limit :=
  hreceives.lets (fun _ _ hbody _ => Frame.fits_of_control hbody)
    (fun _ _ hbody => Frame.fits_of_error hbody) h

end Ledger

namespace Channel

variable {channel : Channel}

/-! ### What is fixed about a channel -/

section Config

@[simp]
theorem config_enqueue (frame : Frame) : (channel.enqueue frame).config = channel.config := by
  unfold enqueue
  split_ifs <;> rfl

@[simp]
theorem config_removeSession (id : UInt32) :
    (channel.removeSession id).config = channel.config := by
  unfold removeSession
  split <;> rfl

theorem config_foldl_removeSession (ids : List UInt32) (channel : Channel) :
    (ids.foldl removeSession channel).config = channel.config := by
  induction ids generalizing channel with
  | nil => rfl
  | cons id ids ih => rw [List.foldl_cons, ih, config_removeSession]

@[simp]
theorem config_close : channel.close.config = channel.config := by
  unfold close
  split
  · rfl
  · exact config_foldl_removeSession _ _

@[simp]
theorem config_fail (code : ErrorCode) (message : String) :
    (channel.fail code message).config = channel.config := by
  unfold fail
  split
  · rfl
  · exact config_close

theorem config_send (caller : Caller) (id : UInt32) (payload : Bytes) :
    (channel.send caller id payload).2.config = channel.config := by
  unfold send
  split
  · rfl
  · split <;> rfl

theorem config_openSession (caller : Caller) (port : UInt16) (kind : EndpointKind) :
    (channel.openSession caller port kind).2.config = channel.config := by
  unfold openSession
  split
  · rfl
  · simp only
    split <;> rfl

theorem config_closeSession (caller : Caller) (id : UInt32) (waits : Bool) :
    (channel.closeSession caller id waits).2.config = channel.config := by
  unfold closeSession
  split
  · rfl
  · split
    · rfl
    · cases waits <;> exact config_removeSession id

theorem config_sendError (caller : Caller) (id : UInt32) (code : ErrorCode) :
    (channel.sendError caller id code).2.config = channel.config := by
  unfold sendError
  split
  · rfl
  · split <;> rfl

theorem config_receiveData (port : UInt16) (id : UInt32) (payload : Bytes) :
    (channel.receiveData port id payload).config = channel.config := by
  unfold receiveData
  split
  · rfl
  · simp only
    split
    · rfl
    · rw [config_enqueue, config_removeSession]
      rfl

theorem config_receiveOpen (port : UInt16) (id : UInt32) (admission : Admission) :
    (channel.receiveOpen port id admission).config = channel.config := by
  unfold receiveOpen
  split
  · split <;> rfl
  · split
    · rfl
    · exact config_enqueue _

theorem config_receiveControl (port : UInt16) (id : UInt32) (code : ControlCode)
    (admission : Admission) :
    (channel.receiveControl port id code admission).config = channel.config := by
  cases code with
  | sessionOpen => exact config_receiveOpen port id admission
  | sessionClose => exact (config_enqueue _).trans (config_removeSession id)
  | sessionCloseAck =>
      rw [receiveControl, receiveCloseAck]
      split <;> rfl
  | other number => rfl

theorem config_receive (frame : Frame) (admission : Admission) :
    (channel.receive frame admission).config = channel.config := by
  unfold receive
  split
  · rfl
  · cases frame.body with
    | data payload => exact config_receiveData _ _ _
    | control code => exact config_receiveControl _ _ _ _
    | error code =>
        simp only [receiveError]
        split <;> rfl

theorem config_takeFrame? {frame : Frame} {next : Channel}
    (htake : channel.takeFrame? = some (frame, next)) : next.config = channel.config := by
  obtain ⟨⟨taken, outbox⟩, -, heq⟩ := Option.map_eq_some_iff.mp htake
  cases heq
  rfl

end Config

/-! ### Every operation lets out what fits -/

structure Fitting (limit : Nat) (channel : Channel) : Prop where
  limit_eq : channel.config.maxPayload = limit
  fits : (channel.ledger []).Fits limit

namespace Fitting

variable {limit : Nat} {next : Channel} {caller : Caller}

theorem of_same (h : channel.Fitting limit) (hconfig : next.config = channel.config)
    (hledger : next.ledger [] = channel.ledger []) : next.Fitting limit := by
  constructor
  · rw [hconfig]
    exact h.limit_eq
  · rw [hledger]
    exact h.fits

/-- Local work that sends nothing. -/
theorem works (h : channel.Fitting limit) (hconfig : next.config = channel.config)
    (hworks : (channel.ledger []).Works none (next.ledger [])) : next.Fitting limit := by
  constructor
  · rw [hconfig]
    exact h.limit_eq
  · refine hworks.fits h.fits ?_
    intro id payload hsent
    cases hsent

theorem reserve (h : channel.Fitting limit) {reservation : Outbox.Reservation}
    (hreserve : channel.reserve caller = (reservation, next)) : next.Fitting limit := by
  obtain ⟨-, rfl⟩ := Prod.mk.inj hreserve
  exact h.of_same rfl (ledger_reserve caller)

theorem giveBack (h : channel.Fitting limit) : (channel.giveBack caller).Fitting limit :=
  h.of_same rfl (ledger_giveBack caller)

theorem fill (h : channel.Fitting limit) {frame : Frame} (hframe : frame.Fits limit) :
    (channel.fill caller frame).Fitting limit := by
  constructor
  · exact h.limit_eq
  · rw [ledger_fill]
    exact h.fits.push hframe

theorem length_le (h : channel.Fitting limit) {payload : Bytes}
    (hnone : channel.oversize? payload = none) : payload.length ≤ limit := by
  rw [← h.limit_eq]
  rw [oversize?] at hnone
  split at hnone
  · cases hnone
  · exact Nat.not_lt.mp ‹_›

theorem send (h : channel.Fitting limit) (id : UInt32) {payload : Bytes}
    (hpayload : payload.length ≤ limit) :
    (channel.send caller id payload).2.Fitting limit := by
  constructor
  · rw [config_send]
    exact h.limit_eq
  · refine (works_send caller id payload).fits h.fits ?_
    intro other sent hsent
    obtain ⟨-, -, heq⟩ := Option.map_eq_some_iff.mp hsent
    cases heq
    exact hpayload

theorem openSession (h : channel.Fitting limit) (port : UInt16) (kind : EndpointKind) :
    (channel.openSession caller port kind).2.Fitting limit :=
  h.works (config_openSession caller port kind) (works_openSession caller port kind)

theorem closeSession (h : channel.Fitting limit) (id : UInt32) (waits : Bool) :
    (channel.closeSession caller id waits).2.Fitting limit :=
  h.works (config_closeSession caller id waits) (works_closeSession caller id waits)

theorem sendError (h : channel.Fitting limit) (id : UInt32) (code : ErrorCode) :
    (channel.sendError caller id code).2.Fitting limit :=
  h.works (config_sendError caller id code) (works_sendError caller id code)

theorem stopWaiting (h : channel.Fitting limit) (id : UInt32) :
    (channel.stopWaiting caller id).Fitting limit :=
  h.of_same rfl (ledger_stopWaiting caller id)

theorem close (h : channel.Fitting limit) : channel.close.Fitting limit :=
  h.works config_close works_close

theorem fail (h : channel.Fitting limit) (code : ErrorCode) (message : String) :
    (channel.fail code message).Fitting limit :=
  h.works (config_fail code message) (works_fail code message)

theorem receive (h : channel.Fitting limit) (frame : Frame) (admission : Admission) :
    (channel.receive frame admission).Fitting limit := by
  constructor
  · rw [config_receive]
    exact h.limit_eq
  · exact (receives_receive frame admission).fits h.fits

/-- The frame that is taken out fits, and so does what is left. -/
theorem takeFrame? (h : channel.Fitting limit) {frame : Frame}
    (htake : channel.takeFrame? = some (frame, next)) :
    frame.Fits limit ∧ next.Fitting limit := by
  obtain ⟨hframes, hledger⟩ : _ ∧ next.ledger [] = _ := ledger_takeFrame? htake
  have hfits : ∀ other ∈ (frame :: next.outbox.frames) ++ (channel.ledger []).replies,
      other.Fits limit := by
    rw [← hframes]
    exact h.fits
  refine ⟨hfits frame List.mem_cons_self, ?_, ?_⟩
  · rw [config_takeFrame? htake]
    exact h.limit_eq
  · rw [hledger]
    intro other hmem
    exact hfits other (List.mem_cons_of_mem frame hmem)

theorem abandonOutbox (h : channel.Fitting limit) : channel.abandonOutbox.Fitting limit := by
  constructor
  · exact h.limit_eq
  · rw [ledger_abandonOutbox]
    intro other hmem
    exact h.fits other (List.mem_append_right _ hmem)

end Fitting

end Channel

end SessionMux
