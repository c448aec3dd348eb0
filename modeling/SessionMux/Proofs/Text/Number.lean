import SessionMux.Text.Number

/-!
# Numbers read back

The digits that write a number, in base ten or sixteen, are digits to every reader, and what is read
off them is that number (`ofDigits_toDigits`, `ofHex?_toDigits`, `readUnsigned_toString`). A reader
that takes digits off the front of a text stops behind a number when no digit follows
(`takeWhile_append_of_clear`).
-/

namespace SessionMux.Text

variable {n bound : Nat} {p : Char → Bool} {digits rest : List Char}

/-! ### Digits -/

theorem isDigit_of_mem_toDigits {c : Char} (hmem : c ∈ Nat.toDigits 10 n) : isDigit c = true :=
  Nat.isDigit_of_mem_toDigits (by decide) (by decide) hmem

theorem digitValue_digitChar (hlt : n < 10) : digitValue n.digitChar = n := by
  rw [digitValue, Nat.toNat_digitChar_of_lt_ten hlt]
  exact Nat.add_sub_cancel_left 48 n

theorem hexValue?_digitChar : ∀ n < 16, hexValue? n.digitChar = some n := by decide

/-- What holds of every digit of a base holds of all that write a number. -/
theorem forall_mem_toDigits {b : Nat} (hbase : 1 < b) {P : Char → Prop}
    (hdigit : ∀ digit < b, P digit.digitChar) (n : Nat) : ∀ c ∈ Nat.toDigits b n, P c := by
  induction n using Nat.strongRecOn with
  | ind n ih =>
      rw [Nat.toDigits_eq_if hbase]
      split
      · rename_i hlt
        intro c hc
        rw [List.mem_singleton.mp hc]
        exact hdigit n hlt
      · rename_i hle
        have hpos : 0 < n := by omega
        intro c hc
        obtain hfront | hlast := List.mem_append.mp hc
        · exact ih (n / b) (Nat.div_lt_self hpos hbase) c hfront
        · rw [List.mem_singleton.mp hlast]
          exact hdigit (n % b) (Nat.mod_lt n (by omega))

theorem isSome_hexValue?_of_mem_toDigits :
    ∀ c ∈ Nat.toDigits 16 n, (hexValue? c).isSome = true :=
  forall_mem_toDigits (by decide)
    (fun digit hlt => by rw [hexValue?_digitChar digit hlt, Option.isSome_some]) n

/-- A zero in front of a number is all of it. -/
theorem eq_zero_of_head?_toDigits (hhead : (Nat.toDigits 10 n).head? = some '0') : n = 0 := by
  induction n using Nat.strongRecOn with
  | ind n ih =>
      rw [Nat.toDigits_eq_if (by decide)] at hhead
      split at hhead
      · rename_i hlt
        have hvalue := congrArg digitValue (Option.some.inj hhead)
        rw [digitValue_digitChar hlt] at hvalue
        exact hvalue
      · rename_i hle
        rw [List.head?_append, Option.or_of_isSome (by simp)] at hhead
        have hzero := ih (n / 10) (by omega) hhead
        omega

/-! ### What is read off digits -/

theorem ofDigits_toDigits (n : Nat) : ofDigits (Nat.toDigits 10 n) = n := by
  have heq (digits : List Char) (value : Nat) :
      digits.foldl (fun value digit => value * 10 + digitValue digit) value =
        Nat.ofDigitChars 10 digits value := by
    simp only [Nat.ofDigitChars, Nat.mul_comm 10, digitValue]
  rw [ofDigits, heq, Nat.ofDigitChars_toDigits (by decide) (by decide)]

theorem ofHex?_toDigits (n : Nat) : ofHex? (Nat.toDigits 16 n) = some n := by
  unfold ofHex?
  induction n using Nat.strongRecOn with
  | ind n ih =>
      rw [Nat.toDigits_eq_if (by decide)]
      split
      · rename_i hlt
        simp [hexValue?_digitChar n hlt]
      · rename_i hle
        rw [List.foldlM_append, ih (n / 16) (by omega)]
        simp [hexValue?_digitChar (n % 16) (by omega), Nat.div_add_mod']

theorem le_foldl_digits (digits : List Char) (value : Nat) :
    value ≤ digits.foldl (fun value digit => value * 10 + digitValue digit) value := by
  induction digits generalizing value with
  | nil => exact Nat.le_refl value
  | cons digit digits ih =>
      exact Nat.le_trans (by omega) (ih (value * 10 + digitValue digit))

theorem step_of_digits {value : Nat} (hdigits : ∀ c ∈ digits, isDigit c = true)
    (hlt : digits.foldl (fun value digit => value * 10 + digitValue digit) value < bound) :
    readUnsigned.step bound value digits =
      .ok (digits.foldl (fun value digit => value * 10 + digitValue digit) value) := by
  induction digits generalizing value with
  | nil => rfl
  | cons digit digits ih =>
      obtain ⟨hdigit, hrest⟩ := List.forall_mem_cons.mp hdigits
      have hnext : value * 10 + digitValue digit < bound :=
        Nat.lt_of_le_of_lt (le_foldl_digits digits _) hlt
      rw [readUnsigned.step, hdigit, if_neg (by decide), if_pos hnext]
      exact ih hrest hlt

theorem readUnsigned_toString (hlt : n < bound) : readUnsigned bound (toString n) = .ok n := by
  have hread : readUnsigned.step bound 0 (Nat.toDigits 10 n) = .ok n := by
    have hvalue := ofDigits_toDigits n
    rw [ofDigits] at hvalue
    rw [step_of_digits fun c => isDigit_of_mem_toDigits, hvalue]
    rw [hvalue]
    exact hlt
  have hplus : '+' ∉ Nat.toDigits 10 n := fun hmem => by
    cases isDigit_of_mem_toDigits hmem
  rw [readUnsigned, Nat.toString_eq_repr, Nat.toList_repr]
  split
  · rename_i hempty
    exact absurd hempty Nat.toDigits_ne_nil
  · rename_i hsign
    exact absurd (hsign ▸ List.mem_cons_self) hplus
  · rename_i hsign
    exact absurd (hsign ▸ List.mem_cons_self) hplus
  · exact hread

theorem lt_of_step {value : Nat} (hvalue : value < bound)
    (hread : readUnsigned.step bound value digits = .ok n) : n < bound := by
  induction digits generalizing value with
  | nil =>
      cases hread
      exact hvalue
  | cons digit digits ih =>
      rw [readUnsigned.step] at hread
      split at hread
      · cases hread
      · split at hread
        · rename_i hnext
          exact ih hnext hread
        · cases hread

theorem lt_of_readUnsigned {text : String} (hpos : 0 < bound)
    (hread : readUnsigned bound text = .ok n) : n < bound := by
  rw [readUnsigned] at hread
  split at hread
  · cases hread
  · cases hread
  · exact lt_of_step hpos hread
  · exact lt_of_step hpos hread

/-! ### Where a reader stops -/

def Clear (p : Char → Bool) (rest : List Char) : Prop := ∀ c ∈ rest.head?, p c = false

theorem takeWhile_of_clear (hclear : Clear p rest) : rest.takeWhile p = [] := by
  cases rest with
  | nil => rfl
  | cons c rest => rw [List.takeWhile_cons_of_neg (by simp [hclear c rfl])]

theorem dropWhile_of_clear (hclear : Clear p rest) : rest.dropWhile p = rest := by
  cases rest with
  | nil => rfl
  | cons c rest => rw [List.dropWhile_cons_of_neg (by simp [hclear c rfl])]

theorem takeWhile_append_of_clear (hdigits : ∀ c ∈ digits, p c = true) (hclear : Clear p rest) :
    (digits ++ rest).takeWhile p = digits := by
  rw [List.takeWhile_append_of_pos hdigits, takeWhile_of_clear hclear, List.append_nil]

theorem dropWhile_append_of_clear (hdigits : ∀ c ∈ digits, p c = true) (hclear : Clear p rest) :
    (digits ++ rest).dropWhile p = rest := by
  rw [List.dropWhile_append_of_pos hdigits, dropWhile_of_clear hclear]

end SessionMux.Text
