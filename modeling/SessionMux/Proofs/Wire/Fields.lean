import Mathlib.Tactic.SplitIfs
import SessionMux.Wire.Frame

/-!
# The fields of a frame

Numbers and their bytes, codes and their numbers, headers and their twelve bytes: each pair of
directions, writing and reading, undoes the other. A code may be written in two ways, under its name
or as a plain number, and is always read under its name.
-/

namespace SessionMux

/-! ### Numbers -/

namespace Bytes

theorem toNat_toUInt16 (high low : UInt8) :
    (toUInt16 high low).toNat = high.toNat * 256 + low.toNat := by
  have hhigh := high.toNat_lt
  have hlow := low.toNat_lt
  rw [toUInt16, UInt16.toNat_ofNat_of_lt']
  change _ < 65536
  omega

theorem toNat_toUInt32 (first second third fourth : UInt8) :
    (toUInt32 first second third fourth).toNat =
      first.toNat * 16777216 + second.toNat * 65536 + third.toNat * 256 + fourth.toNat := by
  have hfirst := first.toNat_lt
  have hsecond := second.toNat_lt
  have hthird := third.toNat_lt
  have hfourth := fourth.toNat_lt
  rw [toUInt32, UInt32.toNat_ofNat_of_lt']
  change _ < 4294967296
  omega

theorem ofNat_eq (byte : UInt8) {number : Nat} (h : number = byte.toNat) :
    UInt8.ofNat number = byte := by
  rw [h]
  exact UInt8.ofNat_toNat

theorem ofUInt16_toUInt16 (high low : UInt8) : ofUInt16 (toUInt16 high low) = [high, low] := by
  have hlow := low.toNat_lt
  rw [ofUInt16, toNat_toUInt16, ofNat_eq high (by omega), ofNat_eq low (by omega)]

theorem ofUInt32_toUInt32 (first second third fourth : UInt8) :
    ofUInt32 (toUInt32 first second third fourth) = [first, second, third, fourth] := by
  have hsecond := second.toNat_lt
  have hthird := third.toNat_lt
  have hfourth := fourth.toNat_lt
  rw [ofUInt32, toNat_toUInt32, ofNat_eq first (by omega), ofNat_eq second (by omega),
    ofNat_eq third (by omega), ofNat_eq fourth (by omega)]

/-- The two bytes of a number read back as the number. -/
theorem exists_ofUInt16 (value : UInt16) :
    ∃ high low, ofUInt16 value = [high, low] ∧ toUInt16 high low = value := by
  have hvalue := value.toNat_lt
  refine ⟨_, _, rfl, UInt16.toNat_inj.mp ?_⟩
  rw [toNat_toUInt16, UInt8.toNat_ofNat_of_lt' (by change _ < 256; omega),
    UInt8.toNat_ofNat_of_lt' (by change _ < 256; omega)]
  omega

/-- The four bytes of a number read back as the number. -/
theorem exists_ofUInt32 (value : UInt32) :
    ∃ first second third fourth, ofUInt32 value = [first, second, third, fourth] ∧
      toUInt32 first second third fourth = value := by
  have hvalue := value.toNat_lt
  refine ⟨_, _, _, _, rfl, UInt32.toNat_inj.mp ?_⟩
  rw [toNat_toUInt32, UInt8.toNat_ofNat_of_lt' (by change _ < 256; omega),
    UInt8.toNat_ofNat_of_lt' (by change _ < 256; omega),
    UInt8.toNat_ofNat_of_lt' (by change _ < 256; omega),
    UInt8.toNat_ofNat_of_lt' (by change _ < 256; omega)]
  omega

end Bytes

/-! ### Codes -/

theorem ControlCode.toNumber_ofNumber (number : UInt16) :
    (ControlCode.ofNumber number).toNumber = number := by
  unfold ControlCode.ofNumber
  split_ifs with hopen hclose hack
  · exact hopen.symm
  · exact hclose.symm
  · exact hack.symm
  · rfl

theorem ErrorCode.toNumber_ofNumber (number : UInt16) :
    (ErrorCode.ofNumber number).toNumber = number := by
  unfold ErrorCode.ofNumber
  cases hfound : ErrorCode.named.find? (·.toNumber = number) with
  | none => rfl
  | some code =>
      have hnumber := List.find?_some hfound
      exact of_decide_eq_true hnumber

/-! ### Headers -/

theorem OpType.ofNumber_eq_ok_iff {number : Nat} {op : OpType} :
    OpType.ofNumber number = .ok op ↔ number = op.toNumber := by
  constructor
  · intro hop
    unfold OpType.ofNumber at hop
    split at hop <;> cases hop <;> rfl
  · rintro rfl
    cases op <;> rfl

namespace Header

/-- Twelve bytes that are a header, whatever stands behind them. -/
theorem peek_of_fields {lead : UInt8} {op : OpType} (hversion : lead.toNat % 16 = 1)
    (hop : lead.toNat / 16 = op.toNumber) (p₀ p₁ s₀ s₁ s₂ s₃ l₀ l₁ l₂ l₃ : UInt8) (rest : Bytes) :
    peek (lead :: 0 :: p₀ :: p₁ :: s₀ :: s₁ :: s₂ :: s₃ :: l₀ :: l₁ :: l₂ :: l₃ :: rest) =
      .ok (some
        { version := currentVersion
          op
          port := Bytes.toUInt16 p₀ p₁
          session := Bytes.toUInt32 s₀ s₁ s₂ s₃
          payloadLength := Bytes.toUInt32 l₀ l₁ l₂ l₃ }) := by
  have hcurrent : ¬ lead.toNat % 16 ≠ currentVersion.toNat := not_not_intro hversion
  simp only [peek]
  rw [if_neg hcurrent, OpType.ofNumber_eq_ok_iff.mpr hop]
  rfl

theorem leadByte_fields {header : Header} (hversion : header.version = currentVersion) :
    header.leadByte.toNat % 16 = 1 ∧ header.leadByte.toNat / 16 = header.op.toNumber := by
  rw [leadByte, hversion]
  cases header.op <;> decide

theorem peek_encode {header : Header} (hversion : header.version = currentVersion)
    (rest : Bytes) : peek (header.encode ++ rest) = .ok (some header) := by
  obtain ⟨hlow, hhigh⟩ := leadByte_fields hversion
  obtain ⟨version, op, port, session, length⟩ := header
  obtain rfl : version = currentVersion := hversion
  obtain ⟨p₀, p₁, hport, rfl⟩ := Bytes.exists_ofUInt16 port
  obtain ⟨s₀, s₁, s₂, s₃, hsession, rfl⟩ := Bytes.exists_ofUInt32 session
  obtain ⟨l₀, l₁, l₂, l₃, hlength, rfl⟩ := Bytes.exists_ofUInt32 length
  simp only [encode, hport, hsession, hlength, List.cons_append, List.nil_append]
  exact peek_of_fields hlow hhigh ..

/-- A header is read off the front of exactly those bytes that it is written as. -/
theorem eq_encode_append_of_peek {bytes : Bytes} {header : Header}
    (hpeek : peek bytes = .ok (some header)) :
    header.version = currentVersion ∧ bytes = header.encode ++ bytes.drop byteCount := by
  unfold peek at hpeek
  split at hpeek
  · rename_i lead reserved p₀ p₁ s₀ s₁ s₂ s₃ l₀ l₁ l₂ l₃ rest
    split at hpeek
    · cases hpeek
    · rename_i hversion
      split at hpeek
      · cases hpeek
      · rename_i op hop
        split at hpeek
        · cases hpeek
        · rename_i hreserved
          cases hpeek
          obtain rfl := Decidable.not_not.mp hreserved
          refine ⟨rfl, ?_⟩
          have hlow : lead.toNat % 16 = 1 := Decidable.not_not.mp hversion
          have hhigh := OpType.ofNumber_eq_ok_iff.mp hop
          have hlead : UInt8.ofNat (op.toNumber * 16 + currentVersion.toNat % 16) = lead := by
            refine Bytes.ofNat_eq _ ?_
            change op.toNumber * 16 + 1 % 16 = lead.toNat
            omega
          simp only [encode, leadByte, hlead, Bytes.ofUInt16_toUInt16, Bytes.ofUInt32_toUInt32]
          rfl
  · cases hpeek

end Header

end SessionMux
