import SessionMux.Proofs.Forward.Passage

/-!
# What a forward does with the payloads it was told

As long as its local side is open and the peer reports no error, a forward has written what it has
taken of the messages to its endpoint (`Forward.Drains`). It succeeds only when it comes to the
message that the session was closed, behind all payloads. It fails only while it sends
(`Forward.CutsOff`), whatever is still to be taken then.
-/

namespace SessionMux

namespace Connection

structure IsOpen (connection : Connection) : Prop where
  arrivals : ∀ arrival ∈ connection.arrivals, ∃ bytes, bytes ≠ [] ∧ arrival = .piece bytes
  writeFault : connection.writeFault = none
  writeLimit : connection.writeLimit ≠ some 0

variable {connection : Connection}

theorem isOpen_fresh : fresh.IsOpen where
  arrivals := List.forall_mem_nil _
  writeFault := rfl
  writeLimit := nofun

theorem IsOpen.arrive (h : connection.IsOpen) {bytes : Bytes} (hbytes : bytes ≠ []) :
    (connection.arrive (.piece bytes)).IsOpen where
  arrivals := List.forall_mem_append.mpr
    ⟨h.arrivals, List.forall_mem_singleton.mpr ⟨bytes, hbytes, rfl⟩⟩
  writeFault := h.writeFault
  writeLimit := h.writeLimit

theorem IsOpen.read (h : connection.IsOpen) (limit : Nat) :
    ¬ ReadResult.IsLast (connection.read limit).1 ∧ (connection.read limit).2.IsOpen := by
  obtain ⟨harrivals, hfault, hlimit⟩ := h
  unfold Connection.read
  split <;> rename_i hnext
  · exact ⟨id, harrivals, hfault, hlimit⟩
  all_goals rw [hnext, List.forall_mem_cons] at harrivals
  · obtain ⟨bytes, -, heq⟩ := harrivals.1
    cases heq
  · obtain ⟨bytes, -, heq⟩ := harrivals.1
    cases heq
  · obtain ⟨bytes, hne, heq⟩ := harrivals.1
    cases heq
    exact absurd rfl hne
  · refine ⟨id, ?_, hfault, hlimit⟩
    dsimp only
    split
    · exact harrivals.2
    · rename_i hrest
      rw [List.forall_mem_cons]
      exact ⟨⟨_, by simpa using hrest, rfl⟩, harrivals.2⟩

theorem IsOpen.write (h : connection.IsOpen) (bytes : Bytes) :
    (connection.write bytes).2.IsOpen := by
  obtain ⟨harrivals, hfault, hlimit⟩ := h
  unfold Connection.write
  split
  · exact ⟨harrivals, hfault, hlimit⟩
  · split <;> exact ⟨harrivals, by assumption, hlimit⟩

theorem IsOpen.not_isBroken (h : connection.IsOpen) {bytes : Bytes} (hbytes : bytes ≠ []) :
    ¬ WriteResult.IsBroken (connection.write bytes).1 := by
  have hlength := List.length_pos_iff.mpr hbytes
  have hcount : min bytes.length (connection.writeLimit.getD bytes.length) ≠ 0 := by
    cases hsome : connection.writeLimit with
    | none =>
        rw [Option.getD_none]
        omega
    | some limit =>
        have hpositive : limit ≠ 0 := by
          rintro rfl
          exact h.writeLimit hsome
        rw [Option.getD_some]
        omega
  obtain ⟨count, hsucc⟩ := Nat.exists_eq_add_one_of_ne_zero hcount
  unfold Connection.write
  simp only [h.writeFault]
  split
  · exact id
  · rw [hsucc]
    exact id

end Connection

namespace Forward

/-- What a forward that is not about to end has made of the messages to its endpoint, all of which
it took were payloads. -/
structure Drains (forward : Forward) (limit : Nat) (messages : List Message)
    (connection : Connection) : Prop where
  opened : forward.stage ≠ .opening
  stays : ¬ forward.stage.IsLeaving
  chunk : ∀ payload, forward.stage = .sending payload →
    payload ≠ [] ∧ payload.length ≤ max (min 16384 limit) 1
  delivers : forward.Delivers messages connection.written.flatten
  taken : ∃ payloads : List Bytes, messages.take forward.heard = payloads.map .data
  isOpen : connection.IsOpen

/-- Where a forward fails that has not been told of an error: it has bytes of the local side to
send, and the channel takes nothing any more, or not even a single byte. -/
structure CutsOff (forward : Forward) (channel : Channel) (error : ChannelError) : Prop where
  sending : ∃ payload, payload ≠ [] ∧ forward.stage = .sending payload
  cause : error = .closed ∧ (channel.closed = true ∨ channel.outbox.draining = false) ∨
    error = .payloadTooLarge 1 0 ∧ channel.config.maxPayload = 0

variable {forward later : Forward} {channel : Channel} {client : Connection} {after : After}
  {limit : Nat} {messages : List Message}

theorem Drains.append (h : forward.Drains limit messages client) (more : List Message)
    {after : Connection} (hwritten : after.written = client.written) (hopen : after.IsOpen) :
    forward.Drains limit (messages ++ more) after where
  opened := h.opened
  stays := h.stays
  chunk := h.chunk
  delivers := hwritten ▸ h.delivers.append more
  taken := by
    rw [List.take_append_of_le_length h.delivers.1]
    exact h.taken
  isOpen := hopen

/-- A forward that does not write just now has written the payloads that it took; the others are
still to come. -/
theorem Drains.written (h : forward.Drains limit messages client)
    (hstage : ∀ rest size, forward.stage ≠ .writing rest size) :
    ∃ (payloads : List Bytes) (others : List Message), messages = payloads.map .data ++ others ∧
      others.head? = messages[forward.heard]? ∧ client.written.flatten = payloads.flatten ∧
      forward.stats.bytesIn = volume payloads := by
  obtain ⟨payloads, htaken⟩ := h.taken
  have hpayloads : (payloads.map Message.data).filterMap Message.payload? = payloads := by
    rw [List.filterMap_map]
    exact List.filterMap_some
  obtain ⟨-, hstate⟩ := h.delivers
  have hleaving := h.stays
  rw [htaken, hpayloads] at hstate
  refine ⟨payloads, messages.drop forward.heard, ?_, List.head?_drop, ?_⟩
  · rw [← htaken, List.take_append_drop]
  revert hstate hleaving
  dsimp only
  split <;> rename_i heq
  · exact fun hstate _ => hstate
  · exact fun hstate _ => hstate
  · exact fun hstate _ => hstate
  · exact absurd heq (hstage _ _)
  · exact fun _ hleaving => absurd (heq ▸ trivial) hleaving
  · exact fun _ hleaving => absurd (heq ▸ trivial) hleaving

theorem Drains.cutsOff (h : forward.Drains limit messages client)
    (hlimit : channel.config.maxPayload = limit) {error : ChannelError} {next : Channel}
    (hcause : forward.Fails channel error next) : forward.CutsOff channel error := by
  cases hcause with
  | closed hstage hended =>
      obtain hopening | ⟨payload, hsending⟩ | hleaving := hstage
      · exact absurd hopening h.opened
      · exact ⟨⟨payload, (h.chunk payload hsending).1, hsending⟩, .inl ⟨rfl, hended⟩⟩
      · exact absurd hleaving h.stays
  | exhausted hopening => exact absurd hopening h.opened
  | @oversize payload _ hsending hsize =>
      obtain ⟨hne, hlength⟩ := h.chunk payload hsending
      have hzero : channel.config.maxPayload = 0 ∧ payload.length = 1 := by omega
      refine ⟨⟨payload, hne, hsending⟩, .inr ⟨?_, hzero.1⟩⟩
      rw [hzero.1, hzero.2]

/-- **What a section of the work makes of the messages.** -/
theorem Moves.drains (hmoves : forward.Moves channel client after)
    (hlimit : channel.config.maxPayload = limit)
    (h : forward.Drains limit (forward.told channel) client)
    (hquiet : ∀ code, .error code ∉ forward.told channel) :
    (∀ later, after.1.next? = some later →
        later.Drains limit (later.told after.2.1) after.2.2) ∧
      ∀ result, after.1 = .ends result →
        after.2.2.written.flatten = client.written.flatten ∧
          (∀ rest size, forward.stage ≠ .writing rest size) ∧
          (∀ stats, result = .ok stats → stats = forward.stats ∧
            (forward.told channel)[forward.heard]? = some .closed) ∧
          ∀ error, result = .error error → forward.CutsOff channel error := by
  obtain ⟨hdelivered, -⟩ := hmoves.delivered (fun hopening => absurd hopening h.opened) h.delivers
  obtain ⟨payloads, htaken⟩ := h.taken
  -- What was told meanwhile comes behind all that the forward has taken.
  have hstill {next : Channel} {sent : Option (UInt32 × Bytes)} (hworks : channel.Works sent next) :
      (forward.told next).take forward.heard = payloads.map .data := by
    obtain ⟨more, hmore⟩ := told_of_extends (hworks.ledger []).extends forward
    rw [hmore, List.take_append_of_le_length h.delivers.1, htaken]
  have hidle (hstage : forward.stage = .listening ∨ forward.stage.IsLeaving) :
      forward.stage = .listening := hstage.resolve_right h.stays
  cases hmoves with
  | waits hworks =>
      refine ⟨fun later hnext => ?_, by simp⟩
      cases hnext
      exact ⟨h.opened, h.stays, h.chunk, hdelivered _ rfl, ⟨payloads, hstill hworks⟩, h.isOpen⟩
  | opens hopening => exact absurd hopening h.opened
  | fails hworks hcause =>
      refine ⟨by simp [Turn.next?], fun result hends => ?_⟩
      cases hends
      have hcut := h.cutsOff hlimit hcause
      obtain ⟨payload, -, hsending⟩ := hcut.sending
      refine ⟨rfl, by simp [hsending], by simp, fun error heq => ?_⟩
      cases heq
      exact hcut
  | reads hlistening hread =>
      refine ⟨fun later hnext => ?_, by simp⟩
      cases hnext
      have hopen := (h.isOpen.read (chunkLimit channel)).2
      rw [hread] at hopen
      refine ⟨by simp, id, ?_, hdelivered _ rfl, ⟨payloads, htaken⟩, hopen⟩
      rintro other hsending
      cases hsending
      rw [← hlimit]
      exact Connection.bounds_of_read (Nat.le_max_right _ _) hread
  | @hears payload hlistening hmessage =>
      refine ⟨fun later hnext => ?_, by simp⟩
      cases hnext
      rw [message?_eq] at hmessage
      refine ⟨by simp, id, by simp, hdelivered _ rfl, ⟨payloads ++ [payload], ?_⟩, h.isOpen⟩
      change (forward.told channel).take (forward.heard + 1) = _
      rw [List.take_add_one, htaken, hmessage, List.map_append]
      rfl
  | warned hlistening hmessage =>
      rw [message?_eq] at hmessage
      exact absurd (List.mem_of_getElem? hmessage) (hquiet _)
  | @writes rest _ _ _ hwriting hwrite =>
      refine ⟨fun later hnext => ?_, by simp⟩
      cases hnext
      have hopen := h.isOpen.write rest
      rw [hwrite] at hopen
      exact ⟨by simp, id, by simp, hdelivered _ rfl, ⟨payloads, htaken⟩, hopen⟩
  | delivers hwriting =>
      refine ⟨fun later hnext => ?_, by simp⟩
      cases hnext
      exact ⟨by simp, id, by simp, hdelivered _ rfl, ⟨payloads, htaken⟩, h.isOpen⟩
  | breaks hwriting hrest hclient hbroken => exact absurd hbroken (h.isOpen.not_isBroken hrest)
  | sends hsending hworks | drops hsending _ hworks =>
      refine ⟨fun later hnext => ?_, by simp⟩
      cases hnext
      exact ⟨by simp, id, by simp, hdelivered _ rfl, ⟨payloads, hstill hworks⟩, h.isOpen⟩
  | leaves hstage hleaves hworks hclient hlast =>
      exact absurd (hlast (hidle hstage)) (h.isOpen.read _).1
  | ends hstage hworks hclient hmessage =>
      refine ⟨by simp [Turn.next?], fun result hends => ?_⟩
      cases hends
      have hlistening := hidle hstage
      refine ⟨hclient.written.symm, by simp [hlistening], fun stats heq => ?_, by simp⟩
      cases heq
      exact ⟨rfl, (message?_eq forward channel) ▸ hmessage hlistening⟩

end Forward

end SessionMux
