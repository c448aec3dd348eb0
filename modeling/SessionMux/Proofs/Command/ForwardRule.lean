import SessionMux.Command.ForwardRule
import SessionMux.Proofs.Net.Spelling

/-!
# The one way to read a rule

A rule is read off a text `LISTEN=DEVICE/PORT` by taking one separator from the left and the other
one from the right of what remains. So the address to listen on has no equals sign and the port no
slash, while the device may contain either (`ForwardRule.Splits`). A text can be put together in
that way at most once (`Splits.unique`), and it is a rule exactly if the parts at the ends can be
read (`ofText_eq_ok_iff`). The text of a rule is put together in that way, whatever its device
(`splits_text`), so rules are read by exactly one grammar (`read_by_one_grammar`).
-/

namespace SessionMux.ForwardRule

open Text

variable {separator : Char} {front back : List Char} {text listen device port : String}
  {rule : ForwardRule}

/-! ### Splitting at a character -/

theorem splitFirst?_append (hfront : separator ∉ front) (back : List Char) :
    splitFirst? separator (front ++ separator :: back) = some (front, back) := by
  induction front with
  | nil => exact if_pos rfl
  | cons c front ih =>
      obtain ⟨hne, hrest⟩ := List.ne_and_not_mem_of_not_mem_cons hfront
      rw [List.cons_append, splitFirst?, if_neg (Ne.symm hne), ih hrest]
      rfl

theorem of_splitFirst? {text : List Char}
    (hsplit : splitFirst? separator text = some (front, back)) :
    text = front ++ separator :: back ∧ separator ∉ front := by
  induction text generalizing front with
  | nil => cases hsplit
  | cons c text ih =>
      rw [splitFirst?] at hsplit
      split at hsplit
      · rename_i heq
        cases hsplit
        exact ⟨congrArg (· :: back) heq, List.not_mem_nil⟩
      · rename_i hne
        obtain ⟨⟨front', back'⟩, hrest, heq⟩ := Option.map_eq_some_iff.mp hsplit
        cases heq
        obtain ⟨htext, hclear⟩ := ih hrest
        exact ⟨congrArg (c :: ·) htext, List.not_mem_cons_of_ne_of_not_mem (Ne.symm hne) hclear⟩

theorem splitFirst?_eq_some_iff {text : List Char} :
    splitFirst? separator text = some (front, back) ↔
      text = front ++ separator :: back ∧ separator ∉ front := by
  refine ⟨of_splitFirst?, ?_⟩
  rintro ⟨rfl, hclear⟩
  exact splitFirst?_append hclear back

/-- The last of a character is the first one of the text read backwards. -/
theorem splitLast?_eq_some_iff {text : List Char} :
    splitLast? separator text = some (front, back) ↔
      text = front ++ separator :: back ∧ separator ∉ back := by
  have hsplit : splitLast? separator text = some (front, back) ↔
      splitFirst? separator text.reverse = some (back.reverse, front.reverse) := by
    simp only [splitLast?, Option.map_eq_some_iff, Prod.exists, Prod.mk.injEq]
    constructor
    · rintro ⟨_, _, hfirst, rfl, rfl⟩
      simpa using hfirst
    · intro hfirst
      exact ⟨_, _, hfirst, List.reverse_reverse front, List.reverse_reverse back⟩
  rw [hsplit, splitFirst?_eq_some_iff, List.mem_reverse, ← List.reverse_inj]
  simp

/-! ### The parts of a rule -/

/-- A text is put together from an address to listen on, a device and a port, and its first equals
sign is the one behind the address, its last slash the one before the port. -/
structure Splits (text listen device port : String) : Prop where
  eq_append : text = listen ++ "=" ++ device ++ "/" ++ port
  listen_clear : '=' ∉ listen.toList
  port_clear : '/' ∉ port.toList

theorem Splits.splitFirst? (h : Splits text listen device port) :
    ForwardRule.splitFirst? '=' text.toList =
      some (listen.toList, device.toList ++ '/' :: port.toList) := by
  rw [splitFirst?_eq_some_iff]
  exact ⟨by simp [h.eq_append], h.listen_clear⟩

theorem Splits.splitLast? (h : Splits text listen device port) :
    ForwardRule.splitLast? '/' (device.toList ++ '/' :: port.toList) =
      some (device.toList, port.toList) :=
  splitLast?_eq_some_iff.mpr ⟨rfl, h.port_clear⟩

/-- A text is put together in one way only. -/
theorem Splits.unique {listen' device' port' : String} (h : Splits text listen device port)
    (h' : Splits text listen' device' port') :
    listen = listen' ∧ device = device' ∧ port = port' := by
  -- Either way is what the two splits of the text come to.
  have hfirst := h.splitFirst?.symm.trans h'.splitFirst?
  obtain ⟨hlisten, htarget⟩ := Prod.mk.inj (Option.some.inj hfirst)
  have hlast := h.splitLast?.symm.trans ((congrArg _ htarget).trans h'.splitLast?)
  obtain ⟨hdevice, hport⟩ := Prod.mk.inj (Option.some.inj hlast)
  exact ⟨String.toList_inj.mp hlisten, String.toList_inj.mp hdevice, String.toList_inj.mp hport⟩

/-! ### Reading a rule -/

theorem Splits.ofText_eq {address : SocketAddress} {number : Nat}
    (h : Splits text listen device port) (hlisten : SocketAddress.ofText listen = .ok address)
    (hport : readUnsigned 65536 port = .ok number) :
    ofText text = .ok { listen := address, device := device, port := UInt16.ofNat number } := by
  simp only [ofText, h.splitFirst?, h.splitLast?, String.ofList_toList, hlisten, hport]

theorem splits_of_ofText (hread : ofText text = .ok rule) :
    ∃ listen port, Splits text listen rule.device port ∧
      SocketAddress.ofText listen = .ok rule.listen ∧
      readUnsigned 65536 port = .ok rule.port.toNat := by
  unfold ofText at hread
  split at hread
  · cases hread
  · rename_i front target hfirst
    obtain ⟨htext, hfront⟩ := splitFirst?_eq_some_iff.mp hfirst
    split at hread
    · cases hread
    · rename_i middle back hlast
      obtain ⟨rfl, hback⟩ := splitLast?_eq_some_iff.mp hlast
      extract_lets listen port at hread
      split at hread
      · cases hread
      · cases hread
      · rename_i address number hlisten hport
        cases hread
        have hsplits : Splits text (String.ofList front) (String.ofList middle)
            (String.ofList back) :=
          { eq_append := by simp [← String.toList_inj, htext]
            listen_clear := by simpa using hfront
            port_clear := by simpa using hback }
        have hsmall : number < 65536 := lt_of_readUnsigned (by decide) hport
        exact ⟨_, _, hsplits, hlisten, by rw [hport, UInt16.toNat_ofNat_of_lt' hsmall]⟩

theorem ofText_eq_ok_iff : ofText text = .ok rule ↔
    ∃ listen port, Splits text listen rule.device port ∧
      SocketAddress.ofText listen = .ok rule.listen ∧
      readUnsigned 65536 port = .ok rule.port.toNat := by
  refine ⟨splits_of_ofText, ?_⟩
  rintro ⟨listen, port, hsplits, hlisten, hport⟩
  rw [hsplits.ofText_eq hlisten hport, UInt16.ofNat_toNat]

/-! ### The text of a rule -/

theorem splits_text (rule : ForwardRule) :
    Splits rule.text rule.listen.text rule.device (toString rule.port.toNat) where
  eq_append := rfl
  listen_clear := fun hmem => by cases rule.listen.spells_text '=' hmem
  port_clear := fun hmem => by
    rw [Nat.toString_eq_repr, Nat.toList_repr] at hmem
    cases isDigit_of_mem_toDigits hmem

theorem ofText_text_of_listen {address : SocketAddress}
    (hlisten : SocketAddress.ofText rule.listen.text = .ok address) :
    ofText rule.text = .ok { rule with listen := address } := by
  rw [(splits_text rule).ofText_eq hlisten (readUnsigned_toString rule.port.toNat_lt),
    UInt16.ofNat_toNat]

/-- **Rules are read by exactly one grammar.** A text is a rule if and only if it is an address to
listen on without an equals sign, a device and a port without a slash, put together with these
separators, and the address and the port can be read; there is at most one way to take it apart
so. The text of a rule is read as the rule that it shows, which is all of it but the flow of the
address; so where the text of the address alone is read as that address, the rule comes back
whole, whatever the device contains. -/
theorem read_by_one_grammar :
    (∀ text rule, ofText text = .ok rule ↔
      ∃ listen port, Splits text listen rule.device port ∧
        SocketAddress.ofText listen = .ok rule.listen ∧
        readUnsigned 65536 port = .ok rule.port.toNat) ∧
    (∀ text listen device port listen' device' port', Splits text listen device port →
      Splits text listen' device' port' → listen = listen' ∧ device = device' ∧ port = port') ∧
    (∀ rule : ForwardRule,
      Splits rule.text rule.listen.text rule.device (toString rule.port.toNat) ∧
      ofText rule.text = .ok { rule with listen := rule.listen.withoutFlow }) ∧
    ∀ rule : ForwardRule, SocketAddress.ofText rule.listen.text = .ok rule.listen →
      ofText rule.text = .ok rule := by
  refine ⟨fun _ _ => ofText_eq_ok_iff, fun _ _ _ _ _ _ _ => Splits.unique, fun rule => ?_,
    fun _ hlisten => ofText_text_of_listen hlisten⟩
  exact ⟨splits_text rule, ofText_text_of_listen (SocketAddress.ofText_text rule.listen)⟩

def linkLocal : ForwardRule where
  listen := .v6 ⟨#v[0xfe80, 0, 0, 0, 0, 0, 0, 1]⟩ 8830 0 2
  device := "a=b/c"
  port := 22

theorem read_by_one_grammar_linkLocal :
    ofText "[fe80::1%2]:8830=a=b/c/22" = .ok linkLocal ∧
    ∀ listen device port, Splits "[fe80::1%2]:8830=a=b/c/22" listen device port →
      device = "a=b/c" := by
  obtain ⟨-, hunique, hshown, hwhole⟩ := read_by_one_grammar
  have htext : linkLocal.text = "[fe80::1%2]:8830=a=b/c/22" := by decide +kernel
  rw [← htext]
  exact ⟨hwhole linkLocal (SocketAddress.ofText_text linkLocal.listen), fun _ _ _ hsplits =>
    (hunique _ _ _ _ _ _ _ hsplits (hshown linkLocal).1).2.1⟩

end SessionMux.ForwardRule
