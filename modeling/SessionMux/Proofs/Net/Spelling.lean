import Mathlib.Data.List.Basic
import SessionMux.Net.Reader
import SessionMux.Proofs.Text.Number

/-!
# Addresses read back

The text of an internet address or of a socket address is read as that address. Each reader takes
exactly what was written off the front of a text, provided that what follows does not go on with it:
a number stops where no digit follows, and a row of groups where no colon and group follow
(`AddressReader.Stops`, `AddressReader.Ends`). The row of zeros that the text of a newer address
leaves out is the one that its reader fills in (`Ipv6.ofEnds_of_longestZeros`). A socket address
comes back up to its flow, which its text does not show (`SocketAddress.ofText_text`).
-/

namespace SessionMux

open Text

namespace AddressReader

variable {rest text : List Char} {bound n : Nat}

/-! ### Numbers -/

/-- No number goes on from here, neither with a digit nor, being part of an older address, with a
point. -/
def Stops (rest : List Char) : Prop := ∀ c ∈ rest.head?, (hexValue? c).isSome = false ∧ c ≠ '.'

theorem isDigit_le_hex {c : Char} (hdigit : isDigit c = true) : (hexValue? c).isSome = true := by
  rw [hexValue?, if_pos hdigit, Option.isSome_some]

theorem Stops.hex (h : Stops rest) : Clear (fun c => (hexValue? c).isSome) rest :=
  fun c hc => (h c hc).1

theorem Stops.digit (h : Stops rest) : Clear isDigit rest := by
  intro c hc
  cases hdigit : isDigit c with
  | false => rfl
  | true => exact (isDigit_le_hex hdigit).symm.trans (h c hc).1

theorem stops_nil : Stops [] := fun c hc => by cases hc

theorem stops_colon (rest : List Char) : Stops (':' :: rest) := by
  intro c hc
  cases hc
  exact ⟨rfl, by decide⟩

@[simp]
theorem char_cons (c : Char) (rest : List Char) : char c (c :: rest) = some ((), rest) :=
  if_pos rfl

theorem decimal_append (maxDigits : Option Nat) (zerosAllowed : Bool) (hlt : n < bound)
    (hdigits : ∀ most ∈ maxDigits, (Nat.toDigits 10 n).length ≤ most)
    (hclear : Clear isDigit rest) :
    decimal maxDigits zerosAllowed bound (Nat.toDigits 10 n ++ rest) = some (n, rest) := by
  have hread := takeWhile_append_of_clear (fun c => isDigit_of_mem_toDigits (n := n)) hclear
  have hleft := dropWhile_append_of_clear (fun c => isDigit_of_mem_toDigits (n := n)) hclear
  have hshort : maxDigits.any ((Nat.toDigits 10 n).length > ·) = false := by
    cases maxDigits with
    | none => rfl
    | some most => simpa using hdigits most rfl
  have hpadded : (!zerosAllowed && (Nat.toDigits 10 n).head? = some '0' &&
      (Nat.toDigits 10 n).length > 1) = false := by
    by_cases hhead : (Nat.toDigits 10 n).head? = some '0'
    · rw [eq_zero_of_head?_toDigits hhead]
      simp
    · simp [hhead]
  simp only [decimal, hread, hleft, ofDigits_toDigits, hshort, hpadded]
  simp [Nat.not_le.mpr hlt]

theorem octet_append (value : UInt8) (hclear : Clear isDigit rest) :
    octet (Nat.toDigits 10 value.toNat ++ rest) = some (value, rest) := by
  have hlength : (Nat.toDigits 10 value.toNat).length ≤ 3 :=
    (Nat.length_toDigits_le_iff (by decide) (by decide)).mpr
      (Nat.lt_trans value.toNat_lt (by decide))
  have hread := decimal_append (some 3) false value.toNat_lt
    (fun most hmost => by cases hmost; exact hlength) hclear
  simp [octet, hread]

theorem toList_ipv4 (address : Ipv4) : address.text.toList =
    Nat.toDigits 10 address.a.toNat ++ '.' :: (Nat.toDigits 10 address.b.toNat ++
      '.' :: (Nat.toDigits 10 address.c.toNat ++ '.' :: Nat.toDigits 10 address.d.toNat)) := by
  simp [Ipv4.text, toString]

theorem ipv4_append (address : Ipv4) (hclear : Clear isDigit rest) :
    ipv4 (address.text.toList ++ rest) = some (address, rest) := by
  have hpoint (rest : List Char) : Clear isDigit ('.' :: rest) := by
    intro c hc
    cases hc
    rfl
  simp only [toList_ipv4, List.append_assoc, List.cons_append, ipv4, Option.bind_eq_bind,
    octet_append _ (hpoint _), octet_append _ hclear, char_cons, Option.bind_some]
  rfl

/-! ### Groups -/

theorem octet_eq_some {value : UInt8} (hread : octet text = some (value, rest)) :
    rest = text.dropWhile isDigit := by
  simp only [octet, decimal, Option.bind_eq_bind] at hread
  split at hread
  · cases hread
  · cases hread
    rfl

/-- Where no point follows the digits in front, there is no older address. -/
theorem ipv4_eq_none (hpoint : (text.dropWhile isDigit).head? ≠ some '.') : ipv4 text = none := by
  unfold ipv4
  cases hread : octet text with
  | none => rfl
  | some read =>
      obtain ⟨value, rest⟩ := read
      have hrest := octet_eq_some hread
      have hchar : char '.' rest = none := by
        rw [← hrest] at hpoint
        cases rest with
        | nil => rfl
        | cons c rest => exact if_neg fun heq => hpoint (congrArg some heq)
      simp only [Option.bind_eq_bind, Option.bind_some, hchar, Option.bind_none]

theorem head?_dropWhile_append {p : Char → Bool} (front : List Char) {c : Char}
    (hhead : ((front ++ rest).dropWhile p).head? = some c) :
    c ∈ front ∨ (rest.dropWhile p).head? = some c := by
  induction front with
  | nil => exact .inr hhead
  | cons d front ih =>
      rw [List.cons_append, List.dropWhile_cons] at hhead
      split at hhead
      · exact (ih hhead).imp_left (List.mem_cons_of_mem d)
      · cases hhead
        exact .inl List.mem_cons_self

theorem group_append (value : UInt16) (hstops : Stops rest) :
    group (Nat.toDigits 16 value.toNat ++ rest) = some (value, rest) := by
  have hdigits := isSome_hexValue?_of_mem_toDigits (n := value.toNat)
  have hlength : (Nat.toDigits 16 value.toNat).length ≤ 4 :=
    (Nat.length_toDigits_le_iff (by decide) (by decide)).mpr value.toNat_lt
  simp only [group, takeWhile_append_of_clear hdigits hstops.hex,
    dropWhile_append_of_clear hdigits hstops.hex, ofHex?_toDigits]
  simp [Nat.not_lt.mpr hlength]

theorem group_eq_none (hstops : Stops rest) : group rest = none := by
  simp only [group, takeWhile_of_clear hstops.hex]
  rfl

/-- A group is no older address. -/
theorem ipv4_group (value : UInt16) (hstops : Stops rest) :
    ipv4 (Nat.toDigits 16 value.toNat ++ rest) = none := by
  refine ipv4_eq_none fun hhead => ?_
  obtain hdigit | hrest := head?_dropWhile_append _ hhead
  · cases isSome_hexValue?_of_mem_toDigits '.' hdigit
  · rw [dropWhile_of_clear hstops.digit] at hrest
    exact (hstops '.' hrest).2 rfl

theorem ipv4_of_stops (hstops : Stops rest) : ipv4 rest = none := by
  refine ipv4_eq_none fun hhead => ?_
  rw [dropWhile_of_clear hstops.digit] at hhead
  exact (hstops '.' hhead).2 rfl

def Ends (rest : List Char) : Prop := ∀ room, groups room false rest = ([], false, rest)

theorem ends_of_head? (hhead : rest.head? ≠ some ':') : Ends rest := by
  have hchar : char ':' rest = none := by
    cases rest with
    | nil => rfl
    | cons c rest => exact if_neg fun heq => hhead (congrArg some heq)
  intro room
  cases room with
  | zero => rfl
  | succ room => simp [groups, hchar]

theorem ends_doubleColon (rest : List Char) : Ends (':' :: ':' :: rest) := by
  intro room
  cases room with
  | zero => rfl
  | succ room =>
      simp [groups, ipv4_of_stops (stops_colon rest), group_eq_none (stops_colon rest)]

def following (values : List UInt16) : List Char :=
  values.flatMap fun value => ':' :: Nat.toDigits 16 value.toNat

theorem stops_following (values : List UInt16) (hstops : Stops rest) :
    Stops (following values ++ rest) := by
  cases values with
  | nil => exact hstops
  | cons value values => exact stops_colon _

/-- One group is read off the front, and then the others. -/
theorem groups_group (room : Nat) (value : UInt16) (hstops : Stops rest) :
    groups (room + 1) true (Nat.toDigits 16 value.toNat ++ rest) =
      (value :: (groups room false rest).1, (groups room false rest).2) := by
  simp only [groups, ipv4_group value hstops, group_append value hstops, ite_self, if_true]

/-- Behind another group a colon stands before the next one. -/
theorem groups_colon (room : Nat) (value : UInt16) (hstops : Stops rest) :
    groups (room + 1) false (':' :: (Nat.toDigits 16 value.toNat ++ rest)) =
      (value :: (groups room false rest).1, (groups room false rest).2) := by
  simp only [groups, ipv4_group value hstops, group_append value hstops, ite_self, char_cons,
    Option.map_some, Bool.false_eq_true, if_false]

theorem groups_following {values : List UInt16} {room : Nat} (hroom : values.length ≤ room)
    (hstops : Stops rest) (hends : Ends rest) :
    groups room false (following values ++ rest) = (values, false, rest) := by
  induction values generalizing room with
  | nil => exact hends room
  | cons value values ih =>
      obtain ⟨room, rfl⟩ : ∃ more, room = more + 1 := ⟨room - 1, by simp at hroom; omega⟩
      have htext : following (value :: values) ++ rest =
          ':' :: (Nat.toDigits 16 value.toNat ++ (following values ++ rest)) := by
        simp [following]
      rw [htext, groups_colon room value (stops_following values hstops),
        ih (Nat.le_of_succ_le_succ hroom)]

theorem toList_joined (value : UInt16) (values : List UInt16) :
    (Ipv6.joined ((value :: values).map UInt16.toNat)).toList =
      Nat.toDigits 16 value.toNat ++ following values := by
  induction values generalizing value with
  | nil => simp [Ipv6.joined, following, toHex]
  | cons next values ih =>
      have hnext := ih next
      simp only [Ipv6.joined, List.map_cons] at hnext ⊢
      rw [String.intercalate_cons_cons, String.toList_append, hnext]
      simp [following, toHex]

/-- A row of groups is read as it was written. -/
theorem groups_joined {values : List UInt16} {room : Nat} (hroom : values.length ≤ room)
    (hstops : Stops rest) (hends : Ends rest) :
    groups room true ((Ipv6.joined (values.map UInt16.toNat)).toList ++ rest) =
      (values, false, rest) := by
  cases values with
  | nil =>
      cases room with
      | zero => rfl
      | succ room =>
          simp [groups, Ipv6.joined, ipv4_of_stops hstops, group_eq_none hstops]
  | cons value values =>
      obtain ⟨room, rfl⟩ : ∃ more, room = more + 1 := ⟨room - 1, by simp at hroom; omega⟩
      rw [toList_joined, List.append_assoc,
        groups_group room value (stops_following values hstops),
        groups_following (Nat.le_of_succ_le_succ hroom) hstops hends]

/-- An older address is read behind a group. -/
theorem groups_mapped (value : UInt16) (older : Ipv4) (room : Nat) (hclear : Clear isDigit rest) :
    groups (room + 3) true
        (Nat.toDigits 16 value.toNat ++ ':' :: (older.text.toList ++ rest)) =
      (value :: groupsOf older, true, rest) := by
  rw [groups_group (room + 2) value (stops_colon _)]
  simp [groups, ipv4_append older hclear]

end AddressReader

/-! ### Rows of zeros -/

namespace Ipv6

theorem zeros_of_zeroRuns {parts : List Nat} {place length : Nat}
    (hrun : (zeroRuns parts)[place]? = some length) :
    (parts.drop place).take length = List.replicate length 0 := by
  induction parts generalizing place length with
  | nil => cases hrun
  | cons part parts ih =>
      cases place with
      | succ place => exact ih hrun
      | zero =>
          cases hrun
          split
          · rename_i hzero
            have hrest : parts.take ((zeroRuns parts).headD 0) =
                List.replicate ((zeroRuns parts).headD 0) 0 := by
              cases hruns : zeroRuns parts with
              | nil => rfl
              | cons run runs =>
                  have hfirst : (zeroRuns parts)[0]? = some run := by
                    rw [hruns]
                    rfl
                  exact ih hfirst
            rw [List.drop_zero, List.take_succ_cons, hrest, hzero]
            rfl
          · rfl

theorem foldl_max_mem (values : List Nat) (least : Nat) :
    values.foldl max least = least ∨ values.foldl max least ∈ values := by
  induction values generalizing least with
  | nil => exact .inl rfl
  | cons value values ih =>
      rw [List.foldl_cons]
      obtain hfirst | hrest := ih (max least value)
      · rw [hfirst]
        obtain hle | hle := Nat.le_total least value
        · rw [Nat.max_eq_right hle]
          exact .inr List.mem_cons_self
        · exact .inl (Nat.max_eq_left hle)
      · exact .inr (List.mem_cons_of_mem value hrest)

/-- The row of zeros that is left out is one: what stands before and behind it is all the rest. -/
theorem zeros_of_longestZeros {parts : List Nat} {start length : Nat}
    (hlongest : longestZeros parts = (start, length)) (hpos : 0 < length) :
    parts.take start ++ List.replicate length 0 ++ parts.drop (start + length) = parts := by
  obtain ⟨hstart, hlength⟩ := Prod.mk.inj hlongest
  rw [hlength] at hstart
  have hmem : length ∈ zeroRuns parts := by
    obtain hzero | hmem := foldl_max_mem (zeroRuns parts) 0
    · omega
    · exact hlength ▸ hmem
  have hrun : (zeroRuns parts)[start]? = some length := hstart ▸ List.getElem?_idxOf hmem
  rw [← zeros_of_zeroRuns hrun, List.append_assoc, ← List.drop_drop, List.take_append_drop,
    List.take_append_drop]

theorem ofEnds_eq {address : Ipv6} {head tail : List UInt16}
    (hgroups : head ++ List.replicate (8 - head.length - tail.length) 0 ++ tail =
      address.groups.toList) : ofEnds head tail = address := by
  obtain ⟨groups⟩ := address
  unfold ofEnds
  extract_lets filled
  have hfilled : filled = groups.toList := hgroups
  rw [hfilled, Ipv6.mk.injEq]
  apply Vector.ext
  intro place hplace
  rw [Vector.getElem_ofFn, List.getD_eq_getElem?_getD]
  simp [hplace]

theorem ofEnds_groups (address : Ipv6) : ofEnds address.groups.toList [] = address := by
  refine ofEnds_eq ?_
  simp

/-- What the text of an address leaves out is filled in again. -/
theorem ofEnds_of_longestZeros {address : Ipv6} {start length : Nat}
    (hlongest : longestZeros address.parts = (start, length)) (hpos : 0 < length) :
    (address.groups.toList.take start).length +
        (address.groups.toList.drop (start + length)).length < 8 ∧
      ofEnds (address.groups.toList.take start) (address.groups.toList.drop (start + length)) =
        address := by
  have hfilled : address.groups.toList.take start ++ List.replicate length 0 ++
      address.groups.toList.drop (start + length) = address.groups.toList := by
    have hzeros := congrArg (List.map UInt16.ofNat) (zeros_of_longestZeros hlongest hpos)
    simpa [parts, Function.comp_def] using hzeros
  have hlength : address.groups.toList.length = 8 := Vector.length_toList
  have hlengths := congrArg List.length hfilled
  simp only [List.length_append, List.length_take, List.length_replicate, List.length_drop,
    hlength] at hlengths
  have hfront : (address.groups.toList.take start).length = start := by
    rw [List.length_take, hlength]
    omega
  have hrear : (address.groups.toList.drop (start + length)).length = 8 - start - length := by
    rw [List.length_drop, hlength]
    omega
  refine ⟨by omega, ofEnds_eq ?_⟩
  -- The reader fills in as many zeros as are missing from eight groups, which is the whole row.
  have hzeros : 8 - start - (8 - start - length) = length := by omega
  rw [hfront, hrear, hzeros]
  exact hfilled

theorem groups_eq_map (address : Ipv6) :
    address.groups.toList = address.parts.map UInt16.ofNat := by
  simp [parts, Function.comp_def]

theorem lt_of_mem_parts (address : Ipv6) {part : Nat} (hmem : part ∈ address.parts) :
    part < 65536 := by
  obtain ⟨value, -, rfl⟩ := List.mem_map.mp hmem
  exact value.toNat_lt

theorem ofNat_of_bytes {part : Nat} (hlt : part < 65536) :
    UInt16.ofNat ((UInt8.ofNat (part / 256)).toNat * 256 + (UInt8.ofNat (part % 256)).toNat) =
      UInt16.ofNat part := by
  have hhigh : part / 256 < 256 := by omega
  have hlow : part % 256 < 256 := by omega
  rw [UInt8.toNat_ofNat_of_lt' hhigh, UInt8.toNat_ofNat_of_lt' hlow, Nat.div_add_mod']

/-- What stands for an older address is filled in from that address. -/
theorem ofEnds_of_mapped? {address : Ipv6} {older : Ipv4}
    (hmapped : address.mapped? = some older) :
    ofEnds [] (0xffff :: AddressReader.groupsOf older) = address := by
  unfold mapped? at hmapped
  split at hmapped
  · rename_i high low hparts
    cases hmapped
    have hhigh : high < 65536 := lt_of_mem_parts address (by simp [hparts])
    have hlow : low < 65536 := lt_of_mem_parts address (by simp [hparts])
    refine ofEnds_eq ?_
    rw [groups_eq_map, hparts, AddressReader.groupsOf, ofNat_of_bytes hhigh, ofNat_of_bytes hlow]
    rfl
  · cases hmapped

end Ipv6

namespace AddressReader

theorem ipv6_of_eight {values : List UInt16} {older : Bool}
    (hread : groups 8 true text = (values, older, rest)) (hlength : values.length = 8) :
    ipv6 text = some (.ofEnds values [], rest) := by
  simp [ipv6, hread, hlength]

theorem ipv6_of_doubleColon {head tail : List UInt16} {older : Bool} {behind : List Char}
    (hhead : groups 8 true text = (head, false, ':' :: ':' :: behind)) (hlength : head.length < 8)
    (htail : groups (7 - head.length) true behind = (tail, older, rest)) :
    ipv6 text = some (.ofEnds head tail, rest) := by
  simp [ipv6, hhead, Nat.ne_of_lt hlength, htail]

theorem groups_doubleColon {values : List UInt16} {room : Nat} (hroom : values.length ≤ room)
    (behind : List Char) :
    groups room true ((Ipv6.joined (values.map UInt16.toNat)).toList ++ ':' :: ':' :: behind) =
      (values, false, ':' :: ':' :: behind) :=
  groups_joined hroom (stops_colon (':' :: behind)) (ends_doubleColon behind)

theorem ipv6_mapped {address : Ipv6} {older : Ipv4} (hmapped : address.mapped? = some older)
    (hclear : Clear isDigit rest) :
    ipv6 (("::ffff:" ++ older.text).toList ++ rest) = some (address, rest) := by
  have htext : ("::ffff:" ++ older.text).toList ++ rest = ':' :: ':' ::
      (Nat.toDigits 16 (0xffff : UInt16).toNat ++ ':' :: (older.text.toList ++ rest)) := by
    rw [String.toList_append]
    rfl
  have hfront := @groups_doubleColon [] 8 (Nat.zero_le 8)
    (Nat.toDigits 16 (0xffff : UInt16).toNat ++ ':' :: (older.text.toList ++ rest))
  rw [htext, ← Ipv6.ofEnds_of_mapped? hmapped]
  exact ipv6_of_doubleColon hfront (by decide) (groups_mapped 0xffff older 4 hclear)

theorem ipv6_ends {head tail : List UInt16} (hlength : head.length + tail.length < 8)
    (hstops : Stops rest) (hends : Ends rest) :
    ipv6 ((Ipv6.joined (head.map UInt16.toNat) ++ "::" ++
      Ipv6.joined (tail.map UInt16.toNat)).toList ++ rest) = some (.ofEnds head tail, rest) := by
  have htext : (Ipv6.joined (head.map UInt16.toNat) ++ "::" ++
      Ipv6.joined (tail.map UInt16.toNat)).toList ++ rest =
        (Ipv6.joined (head.map UInt16.toNat)).toList ++ ':' :: ':' ::
          ((Ipv6.joined (tail.map UInt16.toNat)).toList ++ rest) := by
    simp
  have htail : tail.length ≤ 7 - head.length := by omega
  rw [htext]
  exact ipv6_of_doubleColon (groups_doubleColon (by omega) _) (by omega)
    (groups_joined htail hstops hends)

theorem ipv6_append (address : Ipv6) (hstops : Stops rest) (hhead : rest.head? ≠ some ':') :
    ipv6 (address.text.toList ++ rest) = some (address, rest) := by
  have hends := ends_of_head? hhead
  unfold Ipv6.text
  split
  · rename_i older hmapped
    exact ipv6_mapped hmapped hstops.digit
  · extract_lets parts
    have hparts : parts = address.groups.toList.map UInt16.toNat := rfl
    split
    rename_i start length hlongest
    split
    · rename_i hlong
      obtain ⟨hlength, heq⟩ := Ipv6.ofEnds_of_longestZeros hlongest (Nat.zero_lt_of_lt hlong)
      rw [hparts, ← List.map_take, ← List.map_drop, ipv6_ends hlength hstops hends, heq]
    · have hlength : address.groups.toList.length = 8 := Vector.length_toList
      rw [hparts, ipv6_of_eight (groups_joined (Nat.le_of_eq hlength) hstops hends) hlength,
        Ipv6.ofEnds_groups]

/-! ### Ports and scopes -/

theorem port_toDigits (value : UInt16) :
    port (':' :: Nat.toDigits 10 value.toNat) = some (value, []) := by
  have hread := decimal_append none true value.toNat_lt
    (fun most hmost => by cases hmost) stops_nil.digit
  rw [List.append_nil] at hread
  simp [port, hread]

def scopeText (scope : UInt32) : List Char :=
  if scope = 0 then [] else '%' :: Nat.toDigits 10 scope.toNat

/-- What follows an address in brackets does not go on with it. -/
theorem head?_scopeText (scope : UInt32) (rest : List Char) :
    ∀ c ∈ (scopeText scope ++ ']' :: rest).head?, c = '%' ∨ c = ']' := by
  unfold scopeText
  split
  · intro c hc
    cases hc
    exact .inr rfl
  · intro c hc
    cases hc
    exact .inl rfl

theorem scope_append (value : UInt32) (rest : List Char) :
    scope (scopeText value ++ ']' :: rest) = (value, ']' :: rest) := by
  unfold scopeText
  split
  · rename_i hzero
    rw [hzero]
    rfl
  · have hclear : Clear isDigit (']' :: rest) := by
      intro c hc
      cases hc
      rfl
    have hread := decimal_append none true value.toNat_lt
      (fun most hmost => by cases hmost) hclear
    simp [scope, hread]

end AddressReader

namespace SocketAddress

open AddressReader

def withoutFlow : SocketAddress → SocketAddress
  | v4 address port => v4 address port
  | v6 address port _ scope => v6 address port 0 scope

theorem toList_v4 (ip : Ipv4) (number : UInt16) : (v4 ip number).text.toList =
    ip.text.toList ++ ':' :: Nat.toDigits 10 number.toNat := by
  simp [text, toString]

theorem toList_v6 (ip : Ipv6) (number : UInt16) (flow scope : UInt32) :
    (v6 ip number flow scope).text.toList = '[' :: (ip.text.toList ++
      (scopeText scope ++ ']' :: ':' :: Nat.toDigits 10 number.toNat)) := by
  by_cases hzero : scope = 0 <;> simp [text, scopeText, hzero, toString]

theorem socketV4_text (ip : Ipv4) (number : UInt16) :
    whole socketV4 (v4 ip number).text = some (v4 ip number) := by
  have hread := ipv4_append ip (stops_colon (Nat.toDigits 10 number.toNat)).digit
  simp [whole, socketV4, toList_v4, hread, port_toDigits]

theorem socketV6_text (ip : Ipv6) (number : UInt16) (flow scope : UInt32) :
    whole socketV6 (v6 ip number flow scope).text = some (v6 ip number 0 scope) := by
  have hhead := head?_scopeText scope (':' :: Nat.toDigits 10 number.toNat)
  have hstops : Stops (scopeText scope ++ ']' :: ':' :: Nat.toDigits 10 number.toNat) := by
    intro c hc
    obtain rfl | rfl := hhead c hc <;> exact ⟨rfl, by decide⟩
  have hread := ipv6_append ip hstops fun hcolon => by
    obtain hpercent | hbracket := hhead ':' hcolon
    · cases hpercent
    · cases hbracket
  simp [whole, socketV6, toList_v6, hread, scope_append, port_toDigits]

/-- **A socket address reads back**, up to its flow. -/
theorem ofText_text (address : SocketAddress) : ofText address.text = .ok address.withoutFlow := by
  unfold ofText
  cases address with
  | v4 ip number =>
      rw [socketV4_text]
      rfl
  | v6 ip number flow scope =>
      have hnone : whole socketV4 (v6 ip number flow scope).text = none := by
        rw [whole, toList_v6]
        rfl
      rw [hnone, socketV6_text]
      rfl

end SocketAddress

/-! ### The characters of an address -/

namespace AddressReader

def spells (c : Char) : Bool := (hexValue? c).isSome || ['.', ':', '[', ']', '%'].contains c

theorem spells_toDigits : ∀ c ∈ Nat.toDigits 10 n, spells c = true := by
  intro c hc
  rw [spells, isDigit_le_hex (isDigit_of_mem_toDigits hc), Bool.true_or]

theorem spells_toHex : ∀ c ∈ Nat.toDigits 16 n, spells c = true := by
  intro c hc
  rw [spells, isSome_hexValue?_of_mem_toDigits c hc, Bool.true_or]

theorem spells_ipv4 (address : Ipv4) : ∀ c ∈ address.text.toList, spells c = true := by
  have hpoint : spells '.' = true := rfl
  simp only [toList_ipv4, List.forall_mem_append, List.forall_mem_cons]
  exact ⟨spells_toDigits, hpoint, spells_toDigits, hpoint, spells_toDigits, hpoint, spells_toDigits⟩

theorem spells_joined (values : List UInt16) :
    ∀ c ∈ (Ipv6.joined (values.map UInt16.toNat)).toList, spells c = true := by
  cases values with
  | nil => exact fun c hc => by cases hc
  | cons value values =>
      rw [toList_joined, List.forall_mem_append]
      refine ⟨spells_toHex, fun c hc => ?_⟩
      obtain ⟨next, -, hnext⟩ := List.mem_flatMap.mp hc
      obtain rfl | hdigit := List.mem_cons.mp hnext
      · rfl
      · exact spells_toHex c hdigit

theorem spells_ipv6 (address : Ipv6) : ∀ c ∈ address.text.toList, spells c = true := by
  have hcolons : ∀ c ∈ "::".toList, spells c = true := List.all_eq_true.mp rfl
  have hmapped : ∀ c ∈ "::ffff:".toList, spells c = true := List.all_eq_true.mp rfl
  unfold Ipv6.text
  split
  · rename_i older _
    rw [String.toList_append, List.forall_mem_append]
    exact ⟨hmapped, spells_ipv4 older⟩
  · extract_lets parts
    split
    split
    · rw [String.toList_append, String.toList_append, List.forall_mem_append,
        List.forall_mem_append, show parts = address.groups.toList.map UInt16.toNat from rfl,
        ← List.map_take, ← List.map_drop]
      exact ⟨⟨spells_joined _, hcolons⟩, spells_joined _⟩
    · exact spells_joined address.groups.toList

end AddressReader

theorem SocketAddress.spells_text (address : SocketAddress) :
    ∀ c ∈ address.text.toList, AddressReader.spells c = true := by
  have hcolon : AddressReader.spells ':' = true := rfl
  have hopen : AddressReader.spells '[' = true := rfl
  have hclose : AddressReader.spells ']' = true := rfl
  have hpercent : AddressReader.spells '%' = true := rfl
  cases address with
  | v4 ip number =>
      rw [toList_v4, List.forall_mem_append, List.forall_mem_cons]
      exact ⟨AddressReader.spells_ipv4 ip, hcolon, AddressReader.spells_toDigits⟩
  | v6 ip number flow scope =>
      have hscope : ∀ c ∈ AddressReader.scopeText scope, AddressReader.spells c = true := by
        unfold AddressReader.scopeText
        split
        · exact fun c hc => by cases hc
        · exact List.forall_mem_cons.mpr ⟨hpercent, AddressReader.spells_toDigits⟩
      simp only [toList_v6, List.forall_mem_append, List.forall_mem_cons]
      exact ⟨hopen, AddressReader.spells_ipv6 ip, hscope, hclose, hcolon,
        AddressReader.spells_toDigits⟩

end SessionMux
