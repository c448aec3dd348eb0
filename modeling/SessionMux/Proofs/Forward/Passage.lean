import SessionMux.Proofs.Channel.Spared
import SessionMux.Proofs.Forward.Moves
import SessionMux.Proofs.Peers.Heard

/-!
# What goes through a forward

A `Passage` keeps the books of a forward: what was read from the local side, and what was put into
the queue for its session. While the session is there, these are the same but for the payload that
is about to be sent (`Forward.Feeds`). In the other direction, a forward writes the payloads that
its endpoint was told, one after the other (`Forward.Delivers`).
-/

namespace SessionMux

structure Passage where
  /-- The session of the forward, once it is open. -/
  session : Option UInt32
  read : Bytes
  /-- The payloads that were put into the queue for the session since it was opened. -/
  carried : List Bytes
  /-- What the session had counted as sent when it was there for the last time. -/
  bytesOut : Nat

def Bytes.IsChunk (limit : Nat) (payload : Bytes) : Prop :=
  payload ≠ [] ∧ payload.length ≤ min 16384 limit

namespace Passage

def begun : Passage := { session := none, read := [], carried := [], bytesOut := 0 }

/-- The books after something has happened to the channel, where `opened` is the session that the
forward has then, and `taken` is what was read meanwhile. -/
def advance (passage : Passage) (opened : Option UInt32) (taken : Bytes) (channel next : Channel) :
    Passage where
  session := passage.session.or opened
  read := passage.read ++ taken
  carried := passage.carried ++ passage.session.elim [] fun id =>
    payloads (framesOf id (next.outbox.frames.drop channel.outbox.frames.length))
  bytesOut := ((passage.session.or opened).bind next.sessions.find?).elim passage.bytesOut
    (·.bytesOut)

structure Right (passage : Passage) (limit : Nat) (id : UInt32) (channel : Channel) : Prop where
  session : passage.session = some id
  entry : ∀ session, channel.sessions.find? id = some session →
    session.bytesOut = volume passage.carried
  bytesOut : passage.bytesOut = volume passage.carried
  chunks : ∀ payload ∈ passage.carried, payload.IsChunk limit
  intact : passage.carried.flatten <+: passage.read

variable {passage : Passage} {limit : Nat} {id : UInt32} {channel next : Channel}
  {replies later : List Frame}

theorem carried_advance (hsession : passage.session = some id)
    (hspares : Ledger.Spares id (channel.ledger replies) (next.ledger later))
    (opened : Option UInt32) (taken : Bytes) :
    (passage.advance opened taken channel next).carried = passage.carried := by
  have hnone : payloads (framesOf id (next.outbox.frames.drop channel.outbox.frames.length)) = [] :=
    hspares.payloads_drop
  simp only [advance, hsession, Option.elim_some, hnone, List.append_nil]

theorem Right.spared (h : passage.Right limit id channel)
    (hspares : Ledger.Spares id (channel.ledger replies) (next.ledger later))
    (opened : Option UInt32) (taken : Bytes) :
    (passage.advance opened taken channel next).Right limit id next := by
  have hcarried := carried_advance h.session hspares opened taken
  have hsession : (passage.advance opened taken channel next).session = some id := by
    simp only [advance, h.session, Option.some_or]
  have hentry (session : Session) (hfind : next.sessions.find? id = some session) :
      session.bytesOut = volume passage.carried := by
    obtain ⟨before, hbefore, hsame⟩ := hspares.entry session hfind
    exact hsame.trans (h.entry before hbefore)
  refine ⟨hsession, ?_, ?_, ?_, ?_⟩
  · rw [hcarried]
    exact hentry
  · rw [hcarried]
    simp only [advance, h.session, Option.some_or, Option.bind_some]
    cases hfind : next.sessions.find? id with
    | none => exact h.bytesOut
    | some session => exact hentry session hfind
  · rw [hcarried]
    exact h.chunks
  · rw [hcarried]
    exact h.intact.trans (List.prefix_append _ _)

end Passage

theorem Ledger.Works.sent {ledger next : Ledger} {id : UInt32} {payload : Bytes}
    (hworks : ledger.Works (some (id, payload)) next) :
    ∃ session, ledger.sessions.find? id = some session ∧ next = ledger.send id session payload := by
  cases hworks with
  | sends payload hopen hfind => exact ⟨_, hfind, rfl⟩

/-! ### Messages to an endpoint -/

def Channel.toldAt (channel : Channel) (place : Nat) : List Message :=
  channel.endpoints[place]?.elim [] (·.told)

namespace Channel

variable {channel next : Channel} {replies held : List Frame} {place : Nat}

theorem toldAt_eq (channel : Channel) (replies : List Frame) (place : Nat) :
    channel.toldAt place = (channel.ledger replies).endpoints[place]?.elim [] (·.2) := by
  simp only [toldAt, ledger, List.getElem?_map]
  cases channel.endpoints[place]? <;> rfl

theorem toldAt_of_extends (h : (channel.ledger replies).Extends (next.ledger held)) (place : Nat) :
    ∃ more, next.toldAt place = channel.toldAt place ++ more := by
  rw [channel.toldAt_eq replies, next.toldAt_eq held]
  cases hplace : (channel.ledger replies).endpoints[place]? with
  | none => exact ⟨_, rfl⟩
  | some entry =>
      obtain ⟨more, hmore⟩ := h place entry.1 entry.2 hplace
      rw [hmore]
      exact ⟨more, rfl⟩

/-- The only endpoint of a session has heard all that the session has heard. -/
theorem heard_of_single {id : UInt32} {told : List Message}
    (hplace : (channel.ledger replies).endpoints[place]? = some (id, told))
    (hsingle : (channel.ledger replies).owners.count id ≤ 1) :
    channel.heard id = (channel.toldAt place).filterMap Message.payload? := by
  rw [channel.toldAt_eq replies, hplace, Option.elim_some, ← Ledger.heard_ledger channel replies]
  obtain ⟨hbound, hentry⟩ := List.getElem?_eq_some_iff.mp hplace
  have hsplit := List.take_append_drop place (channel.ledger replies).endpoints
  rw [List.drop_eq_getElem_cons hbound, hentry] at hsplit
  rw [Ledger.owners, ← hsplit, List.map_append, List.map_cons, List.count_append,
    List.count_cons_self] at hsingle
  have hnone {entries : List (UInt32 × List Message)} (hcount : (entries.map (·.1)).count id = 0) :
      entries.filter (·.1 = id) = [] := by
    rw [List.filter_eq_nil_iff]
    intro entry hmem
    rw [decide_eq_true_iff]
    rintro rfl
    exact List.count_eq_zero.mp hcount (List.mem_map_of_mem hmem)
  rw [Ledger.heard, ← hsplit, List.filter_append, hnone (by omega), List.nil_append,
    List.filter_cons_of_pos (by simp), hnone (by omega), List.flatMap_singleton]

end Channel

/-! ### From the local side to the peer -/

namespace Forward

variable {forward later : Forward} {channel next : Channel} {client : Connection} {after : After}
  {passage : Passage} {limit : Nat}

def pending (forward : Forward) : Bytes :=
  match forward.stage with
  | .sending payload => payload
  | _ => []

theorem pending_eq_nil (hstage : ∀ payload, forward.stage ≠ .sending payload) :
    forward.pending = [] := by
  unfold pending
  split
  · rename_i payload hsending
    exact absurd hsending (hstage payload)
  · rfl

/-- A forward has sent what it has read, as long as there is the session to send it on. -/
structure Feeds (forward : Forward) (limit : Nat) (channel : Channel) (passage : Passage) :
    Prop where
  bytesOut : forward.stats.bytesOut = volume passage.carried
  read : channel.sessions.find? forward.stats.session ≠ none →
    passage.carried.flatten ++ forward.pending = passage.read
  chunk : ∀ payload, forward.stage = .sending payload → payload.IsChunk limit

/-- The session is left alone, and the forward reads some bytes, or it goes on with those that it
has. -/
theorem Feeds.rests (h : forward.Feeds limit channel passage)
    (hsession : passage.session = some forward.stats.session) {replies held : List Frame}
    (hspares : Ledger.Spares forward.stats.session (channel.ledger replies) (next.ledger held))
    (hstats : later.stats.session = forward.stats.session ∧
      later.stats.bytesOut = forward.stats.bytesOut)
    {taken : Bytes} (hread : channel.sessions.find? forward.stats.session ≠ none →
      later.pending = forward.pending ++ taken)
    (hchunk : ∀ payload, later.stage = .sending payload → payload.IsChunk limit)
    (opened : Option UInt32) :
    later.Feeds limit next (passage.advance opened taken channel next) where
  bytesOut := by
    rw [Passage.carried_advance hsession hspares, hstats.2]
    exact h.bytesOut
  read := fun hfind => by
    obtain ⟨session, hsome⟩ := Option.ne_none_iff_exists'.mp hfind
    rw [hstats.1] at hsome
    obtain ⟨before, hbefore, -⟩ := hspares.entry session hsome
    have hlive : channel.sessions.find? forward.stats.session ≠ none :=
      Option.ne_none_iff_exists'.mpr ⟨before, hbefore⟩
    rw [Passage.carried_advance hsession hspares, hread hlive, ← List.append_assoc, h.read hlive]
    rfl
  chunk := hchunk

theorem Feeds.spared (h : forward.Feeds limit channel passage)
    (hsession : passage.session = some forward.stats.session) {replies held : List Frame}
    (hspares : Ledger.Spares forward.stats.session (channel.ledger replies) (next.ledger held))
    (opened : Option UInt32) : forward.Feeds limit next (passage.advance opened [] channel next) :=
  h.rests hsession hspares ⟨rfl, rfl⟩ (fun _ => (List.append_nil _).symm) h.chunk opened

/-- A forward that has nothing to send goes on with nothing to send. -/
theorem Feeds.idles (h : forward.Feeds limit channel passage)
    (hsession : passage.session = some forward.stats.session) {replies held : List Frame}
    (hspares : Ledger.Spares forward.stats.session (channel.ledger replies) (next.ledger held))
    (hstats : later.stats.session = forward.stats.session ∧
      later.stats.bytesOut = forward.stats.bytesOut)
    (hbefore : channel.sessions.find? forward.stats.session ≠ none → forward.pending = [])
    (hafter : ∀ payload, later.stage ≠ .sending payload) (opened : Option UInt32) :
    later.Feeds limit next (passage.advance opened [] channel next) := by
  refine h.rests hsession hspares hstats (fun hlive => ?_) (fun payload hsending => ?_) opened
  · rw [pending_eq_nil hafter, hbefore hlive, List.nil_append]
  · exact absurd hsending (hafter payload)

theorem Moves.feeds_of_sends {payload : Bytes} (hstage : forward.stage = .sending payload)
    (hworks : channel.Works (some (forward.stats.session, payload)) next)
    (hdraining : channel.outbox.draining = true)
    (hright : passage.Right limit forward.stats.session channel)
    (h : forward.Feeds limit channel passage) (opened : Option UInt32) :
    let books := passage.advance opened [] channel next
    books.Right limit forward.stats.session next ∧
      Feeds
        { forward with
          stats := { forward.stats with bytesOut := forward.stats.bytesOut + payload.length }
          stage := .listening } limit next books := by
  intro books
  obtain ⟨session, hfind, hsent⟩ := (hworks.ledger []).sent
  have hframes : next.outbox.frames = channel.outbox.frames ++
      [{ port := session.port, session := forward.stats.session, body := .data payload }] := by
    have hqueue := congrArg Ledger.frames hsent
    simpa only [Ledger.send, Ledger.push, Ledger.publish, Channel.ledger, hdraining, if_true]
      using hqueue
  have hentry : next.sessions.find? forward.stats.session =
      some { session with bytesOut := session.bytesOut + payload.length } := by
    have htable : next.sessions = channel.sessions.insert forward.stats.session
        { session with bytesOut := session.bytesOut + payload.length } :=
      congrArg Ledger.sessions hsent
    rw [htable, Sessions.find?_insert, if_pos rfl]
  have hcarried : books.carried = passage.carried ++ [payload] := by
    simp only [books, Passage.advance, hright.session, Option.elim_some, hframes, List.drop_left]
    simp [framesOf, Frame.payload?]
  have hread : passage.carried.flatten ++ payload = passage.read := by
    have hpending : forward.pending = payload := by
      rw [pending, hstage]
    rw [← hpending]
    exact h.read (Option.ne_none_iff_exists'.mpr ⟨session, hfind⟩)
  have hvolume : volume books.carried = volume passage.carried + payload.length := by
    rw [hcarried, volume_concat]
  refine ⟨⟨?_, ?_, ?_, ?_, ?_⟩, ?_, ?_, by simp⟩
  · simp only [books, Passage.advance, hright.session, Option.some_or]
  · intro found hfound
    cases hentry.symm.trans hfound
    rw [hvolume, ← hright.entry session hfind]
  · have hcounted : books.bytesOut = session.bytesOut + payload.length := by
      simp only [books, Passage.advance, hright.session, Option.some_or, Option.bind_some, hentry,
        Option.elim_some]
    rw [hcounted, hvolume, hright.entry session hfind]
  · rw [hcarried, List.forall_mem_append]
    exact ⟨hright.chunks, List.forall_mem_singleton.mpr (h.chunk payload hstage)⟩
  · rw [hcarried, List.flatten_concat, hread]
    exact List.prefix_append _ _
  · rw [hvolume, ← h.bytesOut]
  · intro hlive
    rw [hcarried, List.flatten_concat, hread]
    simp [books, Passage.advance, pending]

/-- **What a section of the work adds to the books.** -/
theorem Moves.feeds (hmoves : forward.Moves channel client after)
    (hstage : forward.stage ≠ .opening) (hlimit : channel.config.maxPayload = limit)
    (hpositive : 1 ≤ limit)
    (hid : forward.stats.session.toNat < channel.nextSession)
    (hdata : (channel.ledger []).Dataless)
    (hright : passage.Right limit forward.stats.session channel)
    (h : forward.Feeds limit channel passage) (opened : Option UInt32) :
    let books := passage.advance opened (client.consumed after.2.2) channel after.2.1
    books.Right limit forward.stats.session after.2.1 ∧
      (∀ later, after.1.next? = some later → later.Feeds limit after.2.1 books) ∧
      ∀ stats, after.1 = .ends (.ok stats) →
        stats = forward.stats ∧ stats.bytesOut = volume books.carried := by
  have hspares {next : Channel} (hworks : channel.Works none next) :
      Ledger.Spares forward.stats.session (channel.ledger []) (next.ledger []) :=
    (hworks.ledger []).spares hid nofun hdata
  have hends {next : Channel} {taken : Bytes} (hworks : channel.Works none next) :
      volume (passage.advance opened taken channel next).carried = forward.stats.bytesOut := by
    rw [Passage.carried_advance hright.session (hspares hworks)]
    exact h.bytesOut.symm
  have hgoes {later : Forward} {next : Channel} {taken : Bytes} (hworks : channel.Works none next)
      (hclient : taken = [])
      (hstats : later.stats.session = forward.stats.session ∧
        later.stats.bytesOut = forward.stats.bytesOut)
      (hbefore : channel.sessions.find? forward.stats.session ≠ none → forward.pending = [])
      (hafter : ∀ payload, later.stage ≠ .sending payload) :
      let books := passage.advance opened taken channel next
      books.Right limit forward.stats.session next ∧
        (∀ other, some later = some other → other.Feeds limit next books) ∧
        ∀ stats, Turn.goes later = .ends (Except.ok (ε := ChannelError) stats) →
          stats = forward.stats ∧ stats.bytesOut = volume books.carried := by
    subst hclient
    refine ⟨hright.spared (hspares hworks) opened [], fun other hother => ?_, by simp⟩
    cases hother
    exact h.idles hright.session (hspares hworks) hstats hbefore hafter opened
  have hleaving {stage : ForwardStage} (hleaves : stage.IsLeaving) (payload : Bytes) :
      stage ≠ .sending payload := by
    rintro rfl
    exact hleaves
  cases hmoves with
  | waits hworks =>
      rw [(Connection.SameBytes.refl client).consumed]
      refine ⟨hright.spared (hspares hworks) opened [], fun later hnext => ?_, by simp⟩
      cases hnext
      exact h.spared hright.session (hspares hworks) opened
  | opens hopening => exact absurd hopening hstage
  | fails hworks =>
      exact ⟨hright.spared (hspares hworks) opened _, by simp [Turn.next?], by simp⟩
  | @reads payload next hlistening hread =>
      have hworks := Channel.Works.refl channel
      have hinput := client.input_of_read (chunkLimit channel)
      rw [hread] at hinput
      obtain ⟨hne, hlength⟩ := Connection.bounds_of_read (Nat.le_max_right _ _) hread
      refine ⟨hright.spared (hspares hworks) opened _, fun later hnext => ?_, by simp⟩
      cases hnext
      refine h.rests hright.session (hspares hworks) (by exact ⟨rfl, rfl⟩) (fun _ => ?_) ?_ opened
      · have hnone : forward.pending = [] := pending_eq_nil (by simp [hlistening])
        rw [Connection.consumed_of_input hinput, hnone]
        rfl
      · rintro other hsending
        cases hsending
        refine ⟨hne, ?_⟩
        rw [hlimit, Nat.max_eq_left (Nat.le_min.mpr ⟨by omega, hpositive⟩)] at hlength
        exact hlength
  | hears hlistening | warned hlistening =>
      exact hgoes (.refl _) (Connection.SameBytes.refl client).consumed ⟨rfl, rfl⟩
        (fun _ => pending_eq_nil (by simp [hlistening])) (by simp)
  | writes hwriting hwrite =>
      exact hgoes (.refl _) (Connection.consumed_of_write hwrite) ⟨rfl, rfl⟩
        (fun _ => pending_eq_nil (by simp [hwriting])) (by simp)
  | delivers hwriting =>
      exact hgoes (.refl _) (Connection.SameBytes.refl client).consumed ⟨rfl, rfl⟩
        (fun _ => pending_eq_nil (by simp [hwriting])) (by simp)
  | breaks hwriting hrest hclient =>
      exact hgoes (.refl _) hclient.consumed ⟨rfl, rfl⟩
        (fun _ => pending_eq_nil (by simp [hwriting])) (by simp)
  | sends hsending hworks hdraining =>
      obtain ⟨hsent, hfeeds⟩ := feeds_of_sends hsending hworks hdraining hright h opened
      rw [(Connection.SameBytes.refl client).consumed]
      refine ⟨hsent, fun later hnext => ?_, by simp⟩
      cases hnext
      exact hfeeds
  | drops hsending hgone hworks =>
      exact hgoes hworks (Connection.SameBytes.refl client).consumed ⟨rfl, rfl⟩
        (fun hlive => absurd hgone hlive) (by simp)
  | leaves hbefore hleaves hworks hclient =>
      refine hgoes hworks hclient.consumed ⟨rfl, rfl⟩ (fun _ => pending_eq_nil ?_)
        (hleaving hleaves)
      obtain hlistening | hbefore := hbefore
      · simp [hlistening]
      · exact hleaving hbefore
  | ends hbefore hworks hclient =>
      refine ⟨hright.spared (hspares hworks) opened _, by simp [Turn.next?], fun stats heq => ?_⟩
      cases heq
      exact ⟨rfl, (hends hworks).symm⟩

/-! ### From the peer to the local side -/

/-- Of the payloads that an endpoint was told, the first ones were written whole, and of the next
one at most a part. Only those that were written whole are counted. -/
def Delivered (heard : List Bytes) (written : Bytes) (count : Nat) : Prop :=
  ∃ front part, written = front.flatten ++ part ∧ count = volume front ∧
    (part = [] ∧ front <+: heard ∨ ∃ rest, rest ≠ [] ∧ front ++ [part ++ rest] <+: heard)

variable {heard more : List Bytes} {messages : List Message} {written : Bytes} {count : Nat}

theorem Delivered.prefix_flatten (h : Delivered heard written count) :
    written <+: heard.flatten := by
  obtain ⟨front, part, rfl, -, ⟨rfl, rest, rfl⟩ | ⟨rest, -, behind, rfl⟩⟩ := h
  · rw [List.append_nil, List.flatten_append]
    exact List.prefix_append _ _
  · exact ⟨rest ++ behind.flatten, by simp⟩

theorem Delivered.append (h : Delivered heard written count) (more : List Bytes) :
    Delivered (heard ++ more) written count := by
  obtain ⟨front, part, hwritten, hcount, hheard⟩ := h
  refine ⟨front, part, hwritten, hcount, hheard.imp (And.imp_right ?_) ?_⟩
  · exact fun hprefix => hprefix.trans (List.prefix_append _ _)
  · rintro ⟨rest, hrest, hprefix⟩
    exact ⟨rest, hrest, hprefix.trans (List.prefix_append _ _)⟩

/-- What a forward has made of the messages to its endpoint: those that it took were written, but
for the rest of a payload that it is writing. -/
def Delivers (forward : Forward) (messages : List Message) (written : Bytes) : Prop :=
  forward.heard ≤ messages.length ∧
    let taken := (messages.take forward.heard).filterMap Message.payload?
    match forward.stage with
    | .opening | .listening | .sending _ =>
      written = taken.flatten ∧ forward.stats.bytesIn = volume taken
    | .writing rest size => ∃ front part, taken = front ++ [part ++ rest] ∧
      size = (part ++ rest).length ∧ written = front.flatten ++ part ∧
        forward.stats.bytesIn = volume front
    | .reporting _ | .closing _ =>
      Delivered (messages.filterMap Message.payload?) written forward.stats.bytesIn

theorem Delivers.append (h : forward.Delivers messages written) (more : List Message) :
    forward.Delivers (messages ++ more) written := by
  obtain ⟨hheard, hstage⟩ := h
  refine ⟨?_, ?_⟩
  · rw [List.length_append]
    exact Nat.le_add_right_of_le hheard
  · rw [List.take_append_of_le_length hheard, List.filterMap_append]
    revert hstage
    dsimp only
    split
    · exact id
    · exact id
    · exact id
    · exact id
    · exact fun hdelivered => hdelivered.append _
    · exact fun hdelivered => hdelivered.append _

theorem prefix_taken (messages : List Message) (heard : Nat) :
    (messages.take heard).filterMap Message.payload? <+: messages.filterMap Message.payload? := by
  conv_rhs => rw [← List.take_append_drop heard messages, List.filterMap_append]
  exact List.prefix_append _ _

theorem Delivers.delivered (h : forward.Delivers messages written)
    (hstage : ∀ rest size, forward.stage ≠ .writing rest size) :
    Delivered (messages.filterMap Message.payload?) written forward.stats.bytesIn := by
  obtain ⟨hheard, hstate⟩ := h
  let taken := (messages.take forward.heard).filterMap Message.payload?
  have hwhole (hwritten : written = taken.flatten ∧ forward.stats.bytesIn = volume taken) :
      Delivered (messages.filterMap Message.payload?) written forward.stats.bytesIn :=
    ⟨_, [], by rw [hwritten.1, List.append_nil], hwritten.2, .inl ⟨rfl, prefix_taken messages _⟩⟩
  revert hstate
  dsimp only
  split <;> rename_i heq
  · exact hwhole
  · exact hwhole
  · exact hwhole
  · exact absurd heq (hstage _ _)
  · exact id
  · exact id

theorem Delivers.prefix_flatten (h : forward.Delivers messages written) :
    written <+: (messages.filterMap Message.payload?).flatten := by
  by_cases hstage : ∃ rest size, forward.stage = .writing rest size
  · obtain ⟨rest, size, hstage⟩ := hstage
    obtain ⟨-, hstate⟩ := h
    simp only [hstage] at hstate
    obtain ⟨front, part, htaken, -, rfl, -⟩ := hstate
    have hprefix := (prefix_taken messages forward.heard).flatten
    rw [htaken, List.flatten_concat, ← List.append_assoc] at hprefix
    exact (List.prefix_append _ _).trans hprefix
  · push Not at hstage
    exact (h.delivered hstage).prefix_flatten

/-! A payload goes through the stages of a forward: it is taken, it is written bit by bit, and it is
counted, or the local side cannot take the rest of it. -/

theorem Delivers.takes {payload : Bytes} (h : forward.Delivers messages written)
    (hstage : forward.stage = .listening)
    (hmessage : messages[forward.heard]? = some (.data payload)) :
    Delivers { forward with heard := forward.heard + 1, stage := .writing payload payload.length }
      messages written := by
  obtain ⟨-, hstate⟩ := h
  simp only [hstage] at hstate
  obtain ⟨hbound, -⟩ := List.getElem?_eq_some_iff.mp hmessage
  refine ⟨hbound, _, [], ?_, rfl, ?_, hstate.2⟩
  · rw [List.take_add_one, hmessage, List.filterMap_append]
    rfl
  · rw [List.append_nil]
    exact hstate.1

theorem Delivers.writes {rest : Bytes} {size : Nat} (h : forward.Delivers messages written)
    (hstage : forward.stage = .writing rest size) (count : Nat) :
    Delivers { forward with stage := .writing (rest.drop count) size } messages
      (written ++ rest.take count) := by
  obtain ⟨hheard, hstate⟩ := h
  simp only [hstage] at hstate
  obtain ⟨front, part, htaken, hsize, rfl, hcount⟩ := hstate
  have hsplit : part ++ rest.take count ++ rest.drop count = part ++ rest := by
    rw [List.append_assoc, List.take_append_drop]
  refine ⟨hheard, front, part ++ rest.take count, ?_, ?_, List.append_assoc .., hcount⟩
  · rw [hsplit]
    exact htaken
  · rw [hsplit]
    exact hsize

theorem Delivers.counts {size : Nat} (h : forward.Delivers messages written)
    (hstage : forward.stage = .writing [] size) :
    Delivers { forward with
      stats := { forward.stats with bytesIn := forward.stats.bytesIn + size }
      stage := .listening } messages written := by
  obtain ⟨hheard, hstate⟩ := h
  simp only [hstage, List.append_nil] at hstate
  obtain ⟨front, part, htaken, hsize, hwritten, hcount⟩ := hstate
  have hwhole := List.flatten_concat (L := front) (l := part)
  have hvolume := volume_concat front part
  rw [← htaken] at hwhole hvolume
  refine ⟨hheard, hwritten.trans hwhole.symm, ?_⟩
  simp only [hcount, hsize]
  exact hvolume.symm

theorem Delivers.breaks {rest : Bytes} {size : Nat} (h : forward.Delivers messages written)
    (hstage : forward.stage = .writing rest size) (hrest : rest ≠ []) :
    Delivered (messages.filterMap Message.payload?) written forward.stats.bytesIn := by
  obtain ⟨-, hstate⟩ := h
  simp only [hstage] at hstate
  obtain ⟨front, part, htaken, -, hwritten, hcount⟩ := hstate
  refine ⟨front, part, hwritten, hcount, .inr ⟨rest, hrest, ?_⟩⟩
  rw [← htaken]
  exact prefix_taken messages _

/-- A forward that is about to end takes nothing more. -/
theorem Delivered.leaves {heard : Nat} {stage : ForwardStage}
    (h : Delivered (messages.filterMap Message.payload?) written forward.stats.bytesIn)
    (hheard : heard ≤ messages.length) (hleaves : stage.IsLeaving) :
    Delivers { forward with heard, stage } messages written := by
  refine ⟨hheard, ?_⟩
  cases stage with
  | reporting | closing => exact h
  | opening | listening | sending | writing => exact hleaves.elim

/-! ### Messages -/

def told (forward : Forward) (channel : Channel) : List Message :=
  forward.endpoint.elim [] channel.toldAt

theorem told_of_endpoint {place : Nat} (hendpoint : forward.endpoint = some place)
    (channel : Channel) : forward.told channel = channel.toldAt place := by
  rw [told, hendpoint]
  rfl

theorem message?_eq (forward : Forward) (channel : Channel) :
    forward.message? channel = (forward.told channel)[forward.heard]? := by
  rw [message?, told]
  cases forward.endpoint with
  | none => rfl
  | some place =>
      simp only [Option.bind_eq_bind, Option.bind_some, Option.elim_some, Channel.toldAt]
      cases channel.endpoints[place]? <;> rfl

theorem told_of_extends {replies held : List Frame}
    (h : (channel.ledger replies).Extends (next.ledger held)) (forward : Forward) :
    ∃ more, forward.told next = forward.told channel ++ more := by
  rw [told, told]
  cases forward.endpoint with
  | none => exact ⟨[], rfl⟩
  | some place => exact Channel.toldAt_of_extends h place

/-- **What a section of the work writes to the local side.** -/
theorem Moves.delivered (hmoves : forward.Moves channel client after)
    (hfresh : forward.stage = .opening → forward.heard = 0)
    (h : forward.Delivers (forward.told channel) client.written.flatten) :
    (∀ later, after.1.next? = some later →
        later.Delivers (later.told after.2.1) after.2.2.written.flatten) ∧
      ∀ result, after.1 = .ends result →
        after.2.2.written.flatten <+:
            ((forward.told after.2.1).filterMap Message.payload?).flatten ∧
          ∀ stats, result = .ok stats →
            Delivered ((forward.told after.2.1).filterMap Message.payload?)
              after.2.2.written.flatten stats.bytesIn := by
  have hstill {next : Channel} {sent : Option (UInt32 × Bytes)} (hworks : channel.Works sent next) :
      forward.Delivers (forward.told next) client.written.flatten := by
    obtain ⟨more, hmore⟩ := told_of_extends (hworks.ledger []).extends forward
    rw [hmore]
    exact h.append more
  have hidle {stage : ForwardStage} (hleaves : stage.IsLeaving) (rest : Bytes) (size : Nat) :
      stage ≠ .writing rest size := by
    rintro rfl
    exact hleaves
  have hbefore (hstage : forward.stage = .listening ∨ forward.stage.IsLeaving) (rest : Bytes)
      (size : Nat) : forward.stage ≠ .writing rest size := by
    obtain hlistening | hleaving := hstage
    · simp [hlistening]
    · exact hidle hleaving rest size
  have hstate := h.2
  cases hmoves with
  | waits hworks =>
      refine ⟨fun later hnext => ?_, by simp⟩
      cases hnext
      exact hstill hworks
  | opens hopening =>
      refine ⟨fun later hnext => ?_, by simp⟩
      cases hnext
      simp only [hopening, hfresh hopening, List.take_zero] at hstate
      exact ⟨(hfresh hopening).le.trans (Nat.zero_le _), by simpa [hfresh hopening] using hstate⟩
  | fails hworks =>
      refine ⟨by simp [Turn.next?], fun result hends => ?_⟩
      cases hends
      exact ⟨(hstill hworks).prefix_flatten, by simp⟩
  | @reads payload after hlistening hread =>
      refine ⟨fun later hnext => ?_, by simp⟩
      cases hnext
      have hwritten := client.written_read (chunkLimit channel)
      rw [hread] at hwritten
      rw [show after.written = client.written from hwritten]
      simp only [hlistening] at hstate
      exact ⟨h.1, hstate⟩
  | hears hlistening hmessage =>
      refine ⟨fun later hnext => ?_, by simp⟩
      cases hnext
      rw [message?_eq] at hmessage
      exact h.takes hlistening hmessage
  | warned hlistening hmessage =>
      refine ⟨fun later hnext => ?_, by simp⟩
      cases hnext
      rw [message?_eq] at hmessage
      obtain ⟨hbound, -⟩ := List.getElem?_eq_some_iff.mp hmessage
      exact (h.delivered (by simp [hlistening])).leaves hbound trivial
  | writes hwriting hwrite =>
      refine ⟨fun later hnext => ?_, by simp⟩
      cases hnext
      rw [Connection.written_of_write hwrite]
      exact h.writes hwriting _
  | delivers hwriting =>
      refine ⟨fun later hnext => ?_, by simp⟩
      cases hnext
      exact h.counts hwriting
  | breaks hwriting hrest hclient =>
      refine ⟨fun later hnext => ?_, by simp⟩
      cases hnext
      rw [← hclient.written]
      exact (h.breaks hwriting hrest).leaves h.1 trivial
  | sends hsending hworks | drops hsending _ hworks =>
      refine ⟨fun later hnext => ?_, by simp⟩
      cases hnext
      obtain ⟨hheard, hlater⟩ := hstill hworks
      simp only [hsending] at hlater
      exact ⟨hheard, hlater⟩
  | leaves hstage hleaves hworks hclient =>
      refine ⟨fun later hnext => ?_, by simp⟩
      cases hnext
      rw [← hclient.written]
      exact ((hstill hworks).delivered (hbefore hstage)).leaves (hstill hworks).1 hleaves
  | ends hstage hworks hclient =>
      refine ⟨by simp [Turn.next?], fun result hends => ?_⟩
      cases hends
      have hdelivered := (hstill hworks).delivered (hbefore hstage)
      rw [hclient.written] at hdelivered
      refine ⟨hdelivered.prefix_flatten, fun stats heq => ?_⟩
      cases heq
      exact hdelivered

end Forward

end SessionMux
