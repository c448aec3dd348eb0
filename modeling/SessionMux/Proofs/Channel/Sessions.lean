import Mathlib.Data.List.Sort
import SessionMux.Channel.Sessions

/-!
# The session table

The table is a list, and what matters of it is which session it finds under an id. Every operation
is stated as what it does to that. The ids rise along the list, so a table is determined by what it
finds (`Sessions.views_eq`).
-/

namespace SessionMux

/-! ### Lists with keys -/

section Lookup

variable {α β : Type} [BEq α] [LawfulBEq α] [DecidableEq α]

theorem lookup_cons (key other : α) (kept : β) (rest : List (α × β)) :
    ((key, kept) :: rest).lookup other = if other = key then some kept else rest.lookup other := by
  rw [List.lookup_cons]
  by_cases heq : other = key
  · simp [heq]
  · simp [heq, beq_eq_false_iff_ne.mpr heq]

theorem lookup_filter_ne (key other : α) (entries : List (α × β)) :
    (entries.filter (·.1 ≠ key)).lookup other =
      if other = key then none else entries.lookup other := by
  induction entries with
  | nil => simp
  | cons entry rest ih =>
      obtain ⟨found, kept⟩ := entry
      by_cases hkey : found = key
      · rw [List.filter_cons_of_neg (by simp [hkey]), ih, lookup_cons, hkey]
        by_cases heq : other = key <;> simp [heq]
      · rw [List.filter_cons_of_pos (by simp [hkey]), lookup_cons, lookup_cons, ih]
        by_cases heq : other = found
        · simp [heq, hkey]
        · simp [heq]

/-- What is found is found on when another entry goes. -/
theorem lookup_filter_ne_entry [DecidableEq β] {entry : α × β} {key : α} {value : β}
    {entries : List (α × β)} (hlookup : entries.lookup key = some value)
    (hne : (key, value) ≠ entry) : (entries.filter (· ≠ entry)).lookup key = some value := by
  induction entries with
  | nil => cases hlookup
  | cons first rest ih =>
      obtain ⟨found, kept⟩ := first
      rw [lookup_cons] at hlookup
      by_cases hgone : (found, kept) = entry
      · rw [List.filter_cons_of_neg (by simp [hgone])]
        split_ifs at hlookup with heq
        · cases hlookup
          exact absurd (heq ▸ hgone) hne
        · exact ih hlookup
      · rw [List.filter_cons_of_pos (by simp [hgone]), lookup_cons]
        split_ifs at hlookup ⊢
        · exact hlookup
        · exact ih hlookup

omit [DecidableEq α] in
theorem mem_of_lookup {key : α} {value : β} {entries : List (α × β)}
    (hlookup : entries.lookup key = some value) : (key, value) ∈ entries := by
  obtain ⟨front, rear, rfl, -⟩ := List.lookup_eq_some_iff.mp hlookup
  exact List.mem_append_right _ List.mem_cons_self

end Lookup

namespace Sessions

variable {sessions : Sessions} {id other : UInt32} {session : Session}

@[simp]
theorem find?_empty (id : UInt32) : empty.find? id = none := rfl

theorem lookup_insertEntry (id other : UInt32) (session : Session) :
    ∀ entries : List (UInt32 × Session),
      (insertEntry id session entries).lookup other =
        if other = id then some session else entries.lookup other
  | [] => lookup_cons id other session []
  | (key, kept) :: rest => by
      have ih := lookup_insertEntry id other session rest
      rw [insertEntry]
      split
      · rw [lookup_cons]
      · split
        · rename_i hkey
          subst hkey
          by_cases heq : other = id <;> simp [lookup_cons, heq]
        · rename_i hkey
          rw [lookup_cons, lookup_cons, ih]
          by_cases heq : other = key
          · simp [heq, Ne.symm hkey]
          · simp [heq]

@[simp]
theorem find?_insert (sessions : Sessions) (id other : UInt32) (session : Session) :
    (sessions.insert id session).find? other =
      if other = id then some session else sessions.find? other :=
  lookup_insertEntry id other session sessions.entries

/-- A session that is live after an insertion was live before, at the same endpoint, if the new
entry keeps that of the session whose place it takes. -/
theorem find?_of_find?_insert {entry found : Session} (hfind : sessions.find? id = some session)
    (hentry : entry.endpoint = session.endpoint)
    (hfound : (sessions.insert id entry).find? other = some found) :
    ∃ before, sessions.find? other = some before ∧ found.endpoint = before.endpoint := by
  rw [find?_insert] at hfound
  split_ifs at hfound with heq
  · subst heq
    cases hfound
    exact ⟨session, hfind, hentry⟩
  · exact ⟨found, hfound, rfl⟩

@[simp]
theorem find?_erase (sessions : Sessions) (id other : UInt32) :
    (sessions.erase id).find? other = if other = id then none else sessions.find? other :=
  lookup_filter_ne id other sessions.entries

theorem contains_iff :
    sessions.contains id = true ↔ ∃ session, sessions.find? id = some session :=
  Option.isSome_iff_exists

theorem find?_eq_none_iff : sessions.find? id = none ↔ id ∉ sessions.ids := by
  simp only [find?, ids, List.lookup_eq_none_iff, List.mem_map, Prod.exists, not_exists, not_and,
    bne_iff_ne]
  constructor
  · rintro hnone key session hmem rfl
    exact hnone _ hmem rfl
  · rintro hnone ⟨key, session⟩ hmem rfl
    exact hnone _ session hmem rfl

theorem contains_iff_mem_ids : sessions.contains id = true ↔ id ∈ sessions.ids := by
  rw [contains, Option.isSome_iff_ne_none, Ne, find?_eq_none_iff, not_not]

/-! ### The order of the ids -/

def Sorted (sessions : Sessions) : Prop := sessions.ids.Pairwise (· < ·)

theorem sorted_empty : empty.Sorted := List.Pairwise.nil

theorem mem_insertEntry (id : UInt32) (session : Session) (entries : List (UInt32 × Session)) :
    ∀ key ∈ (insertEntry id session entries).map (·.1), key = id ∨ key ∈ entries.map (·.1) := by
  induction entries with
  | nil => simp [insertEntry]
  | cons entry rest ih =>
      obtain ⟨other, kept⟩ := entry
      intro key hmem
      rw [insertEntry] at hmem
      split at hmem
      · simpa using hmem
      · split at hmem
        · rename_i heq
          subst heq
          simp only [List.map_cons, List.mem_cons] at hmem ⊢
          exact Or.inr hmem
        · simp only [List.map_cons, List.mem_cons] at hmem ⊢
          rcases hmem with heq | hmem
          · exact Or.inr (Or.inl heq)
          · exact (ih key hmem).imp_right Or.inr

theorem pairwise_insertEntry (id : UInt32) (session : Session) :
    ∀ entries : List (UInt32 × Session), (entries.map (·.1)).Pairwise (· < ·) →
      ((insertEntry id session entries).map (·.1)).Pairwise (· < ·)
  | [], _ => List.pairwise_singleton _ _
  | (other, kept) :: rest, hsorted => by
      obtain ⟨hhead, htail⟩ := List.pairwise_cons.mp hsorted
      rw [insertEntry]
      split
      · rename_i hlt
        refine hsorted.cons fun key hmem => ?_
        rcases List.mem_cons.mp hmem with rfl | hmem
        · exact hlt
        · exact UInt32.lt_trans hlt (hhead key hmem)
      · split
        · rename_i heq
          subst heq
          exact hsorted
        · rename_i hnlt hne
          have hgt : other < id := UInt32.lt_of_le_of_ne (UInt32.not_lt.mp hnlt) (Ne.symm hne)
          refine (pairwise_insertEntry id session rest htail).cons fun key hmem => ?_
          rcases mem_insertEntry id session rest key hmem with rfl | hmem
          · exact hgt
          · exact hhead key hmem

theorem Sorted.insert (hsorted : sessions.Sorted) (id : UInt32) (session : Session) :
    (sessions.insert id session).Sorted :=
  pairwise_insertEntry id session sessions.entries hsorted

theorem Sorted.erase (hsorted : sessions.Sorted) (id : UInt32) : (sessions.erase id).Sorted :=
  hsorted.sublist (List.filter_sublist.map _)

theorem Sorted.nodup (hsorted : sessions.Sorted) : sessions.ids.Nodup :=
  hsorted.imp UInt32.ne_of_lt

/-- A table that finds nothing is empty. -/
theorem eq_empty_of_find? (hnone : ∀ id, sessions.find? id = none) : sessions = empty := by
  obtain ⟨entries⟩ := sessions
  cases entries with
  | nil => rfl
  | cons entry rest =>
      have hfound := hnone entry.1
      simp [find?] at hfound

theorem mem_entries_iff (hsorted : sessions.Sorted) :
    (id, session) ∈ sessions.entries ↔ sessions.find? id = some session := by
  obtain ⟨entries⟩ := sessions
  simp only [find?]
  simp only [Sorted, ids] at hsorted
  induction entries with
  | nil => simp
  | cons entry rest ih =>
      obtain ⟨key, kept⟩ := entry
      obtain ⟨hhead, htail⟩ := List.pairwise_cons.mp hsorted
      have hrest := ih htail
      by_cases heq : id = key
      · subst heq
        have hnotMem : (id, session) ∉ rest := fun hmem =>
          UInt32.lt_irrefl _ (hhead id (List.mem_map_of_mem hmem))
        simp [hnotMem, eq_comm]
      · simp [lookup_cons, heq, hrest]

/-! ### Views of a table -/

def views {α : Type} (view : Session → α) (sessions : Sessions) : List (UInt32 × α) :=
  sessions.entries.map fun entry => (entry.1, view entry.2)

variable {α : Type} (view : Session → α)

theorem Sorted.pairwise_views (hsorted : sessions.Sorted) :
    (sessions.views view).Pairwise fun first second => first.1 < second.1 := by
  simpa only [views, List.pairwise_map, Sorted, ids] using hsorted

theorem Sorted.nodup_views (hsorted : sessions.Sorted) : (sessions.views view).Nodup :=
  (hsorted.pairwise_views view).imp fun hlt heq => UInt32.ne_of_lt hlt (congrArg Prod.fst heq)

theorem Sorted.mem_views_iff (hsorted : sessions.Sorted) {value : α} :
    (id, value) ∈ sessions.views view ↔ (sessions.find? id).map view = some value := by
  simp only [views, List.mem_map, Prod.exists, Prod.mk.injEq, Option.map_eq_some_iff]
  constructor
  · rintro ⟨key, session, hentry, rfl, rfl⟩
    exact ⟨session, (mem_entries_iff hsorted).mp hentry, rfl⟩
  · rintro ⟨session, hfound, rfl⟩
    exact ⟨id, session, (mem_entries_iff hsorted).mpr hfound, rfl, rfl⟩

/-- Two tables in which the same ids are found, with the same view of their sessions, show the same
list. -/
theorem views_eq {left right : Sessions} (hleft : left.Sorted) (hright : right.Sorted)
    (hfind : ∀ id, (left.find? id).map view = (right.find? id).map view) :
    left.views view = right.views view := by
  have hperm : (left.views view).Perm (right.views view) := by
    refine (List.perm_ext_iff_of_nodup (hleft.nodup_views view) (hright.nodup_views view)).mpr ?_
    rintro ⟨id, value⟩
    rw [hleft.mem_views_iff, hright.mem_views_iff, hfind]
  exact hperm.eq_of_pairwise (fun first second _ _ hlt hgt => absurd hlt (UInt32.lt_asymm hgt))
    (hleft.pairwise_views view) (hright.pairwise_views view)

end Sessions

end SessionMux
