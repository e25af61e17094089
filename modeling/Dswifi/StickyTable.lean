import Mathlib.Data.Finset.Card
import Mathlib.Data.List.Dedup

/-! A table of limited length that keeps the last entry for every key. An entry
for a key that is there replaces the one before it, and one that finds no room is
dropped. As long as the keys fit, the table tells what came last for each. -/

namespace Dswifi.StickyTable

universe u v w
variable {Entry : Type u} {Key : Type v} [DecidableEq Key] (key : Entry → Key)

def put (capacity : Nat) (table : List Entry) (entry : Entry) : List Entry :=
  match table.findIdx? fun other => key other = key entry with
  | some index => table.set index entry
  | none => if table.length = capacity then table else table ++ [entry]

def last (entries : List Entry) (k : Key) : Option Entry :=
  entries.reverse.find? fun entry => key entry = k

def distinct (entries : List Entry) : Nat := (entries.map key).toFinset.card

structure Holds (table entries : List Entry) : Prop where
  nodup : (table.map key).Nodup
  mem : ∀ entry, entry ∈ table ↔ last key entries (key entry) = some entry

variable {key}

theorem last_append (entries : List Entry) (entry : Entry) (k : Key) :
    last key (entries ++ [entry]) k = if key entry = k then some entry else last key entries k := by
  simp only [last, List.reverse_append, List.reverse_singleton, List.singleton_append, List.find?_cons]
  split <;> simp_all

theorem last_key {entries : List Entry} {k : Key} {entry : Entry} (found : last key entries k = some entry) :
    key entry = k := by
  simpa using List.find?_some found

theorem last_mem {entries : List Entry} {k : Key} {entry : Entry} (found : last key entries k = some entry) :
    entry ∈ entries :=
  List.mem_reverse.mp (List.mem_of_find?_eq_some found)

theorem last_isSome {entries : List Entry} {entry : Entry} (member : entry ∈ entries) :
    ∃ found, last key entries (key entry) = some found := by
  have some : (last key entries (key entry)).isSome := by
    rw [last, List.find?_isSome]
    exact ⟨entry, List.mem_reverse.mpr member, by simp⟩
  exact Option.isSome_iff_exists.mp some

theorem distinct_mono (entries later : List Entry) :
    distinct key entries ≤ distinct key (entries ++ later) := by
  refine Finset.card_le_card ?_
  rw [List.map_append, List.toFinset_append]
  exact Finset.subset_union_left

/-- A new key is one more. -/
theorem distinct_new {entries : List Entry} {entry : Entry} (new : key entry ∉ entries.map key) :
    distinct key (entries ++ [entry]) = distinct key entries + 1 := by
  rw [distinct, List.map_append, List.toFinset_append, Finset.union_comm]
  simp only [List.map_cons, List.map_nil, List.toFinset_cons, List.toFinset_nil, insert_empty_eq,
    Finset.singleton_union]
  rw [Finset.card_insert_of_notMem (by simpa using new), distinct]

namespace Holds
variable {table entries : List Entry}

theorem nil : Holds key [] [] where
  nodup := List.nodup_nil
  mem := fun entry => by simp [last]

theorem keys (holds : Holds key table entries) (k : Key) : k ∈ table.map key ↔ k ∈ entries.map key := by
  constructor
  · intro member
    obtain ⟨entry, inside, rfl⟩ := List.mem_map.mp member
    exact List.mem_map_of_mem (last_mem ((holds.mem entry).mp inside))
  · intro member
    obtain ⟨entry, inside, rfl⟩ := List.mem_map.mp member
    obtain ⟨found, lastly⟩ : ∃ found, last key entries (key entry) = some found := last_isSome inside
    have same := last_key lastly
    rw [← same]
    exact List.mem_map_of_mem ((holds.mem found).mpr (same ▸ lastly))

theorem length (holds : Holds key table entries) : table.length = distinct key entries := by
  have keys : (table.map key).toFinset = (entries.map key).toFinset := by
    ext k
    rw [List.mem_toFinset, List.mem_toFinset, holds.keys]
  rw [distinct, ← keys, List.toFinset_card_of_nodup holds.nodup, List.length_map]

omit [DecidableEq Key] in
/-- Replacing an entry by another one for its key. -/
theorem mem_replace {index : Nat} (nodup : (table.map key).Nodup) (inside : index < table.length)
    {entry : Entry} (own : key table[index] = key entry) (other : Entry) :
    other ∈ table.set index entry ↔ other = entry ∨ (other ∈ table ∧ key other ≠ key entry) := by
  have unique : ∀ j (below : j < table.length), key table[j] = key entry → j = index := by
    intro j below same
    have mapped : j < (table.map key).length := by simpa using below
    have mappedIndex : index < (table.map key).length := by simpa using inside
    have equal : (table.map key)[j] = (table.map key)[index] := by simpa using same.trans own.symm
    exact (List.Nodup.getElem_inj_iff nodup).mp equal
  rw [List.mem_iff_getElem]
  constructor
  · rintro ⟨j, below, rfl⟩
    rw [List.length_set] at below
    rw [List.getElem_set]
    split
    · exact .inl rfl
    · exact .inr ⟨List.getElem_mem below, fun same => ‹index ≠ j› (unique j below same).symm⟩
  · rintro (rfl | ⟨member, differs⟩)
    · exact ⟨index, by simpa using inside, by simp⟩
    · obtain ⟨j, below, rfl⟩ := List.mem_iff_getElem.mp member
      have apart : index ≠ j := fun same => differs (by subst same; exact own)
      exact ⟨j, by simpa using below, by simp [apart]⟩

/-- The last entry for every key is the new one, or it was there before. -/
theorem after {next : List Entry} {entry : Entry} (holds : Holds key table entries)
    (nodup : (next.map key).Nodup)
    (mem : ∀ other, other ∈ next ↔ other = entry ∨ (other ∈ table ∧ key other ≠ key entry)) :
    Holds key next (entries ++ [entry]) := by
  refine ⟨nodup, fun other => ?_⟩
  rw [mem, last_append]
  by_cases same : key entry = key other
  · rw [if_pos same]
    constructor
    · rintro (rfl | ⟨_, differs⟩)
      · rfl
      · exact absurd same.symm differs
    · intro equal
      exact .inl (Option.some.inj equal).symm
  · rw [if_neg same, ← holds.mem]
    constructor
    · rintro (rfl | ⟨member, _⟩)
      · exact absurd rfl same
      · exact member
    · exact fun member => .inr ⟨member, fun equal => same equal.symm⟩

theorem put {capacity : Nat} {entry : Entry} (holds : Holds key table entries)
    (fits : distinct key (entries ++ [entry]) ≤ capacity) :
    Holds key (put key capacity table entry) (entries ++ [entry]) := by
  unfold StickyTable.put
  split
  · rename_i index found
    obtain ⟨inside, own, _⟩ := List.findIdx?_eq_some_iff_getElem.mp found
    have same : key table[index] = key entry := by simpa using own
    refine holds.after ?_ (mem_replace holds.nodup inside same)
    have keys : (table.set index entry).map key = table.map key := by
      have within : index < (table.map key).length := by simpa using inside
      have there : (table.map key)[index] = key table[index] := List.getElem_map _
      rw [List.map_set, ← same, ← there]
      exact List.set_getElem_self within
    rw [keys]
    exact holds.nodup
  · rename_i absent
    have fresh : ∀ other ∈ table, key other ≠ key entry := by
      simpa [List.findIdx?_eq_none_iff] using absent
    have new : key entry ∉ entries.map key := by
      rw [← holds.keys]
      intro member
      obtain ⟨other, inside, same⟩ := List.mem_map.mp member
      exact fresh other inside same
    have more := distinct_new new
    -- the table holds an entry for each key, so a new one still fits
    have room : table.length ≠ capacity := by
      rw [holds.length]
      omega
    rw [if_neg room]
    refine holds.after ?_ fun other => ?_
    · rw [List.map_append]
      refine List.Nodup.append holds.nodup (by simp) ?_
      rw [List.disjoint_right]
      rintro k single member
      obtain rfl : k = key entry := by simpa using single
      exact new ((holds.keys _).mp member)
    · rw [List.mem_append, List.mem_singleton]
      constructor
      · rintro (member | rfl)
        · exact .inr ⟨member, fresh other member⟩
        · exact .inl rfl
      · rintro (rfl | ⟨member, _⟩)
        · exact .inr rfl
        · exact .inl member

theorem put_all {capacity : Nat} (holds : Holds key table entries) (later : List Entry)
    (fits : distinct key (entries ++ later) ≤ capacity) :
    Holds key (later.foldl (StickyTable.put key capacity) table) (entries ++ later) := by
  induction later generalizing table entries with
  | nil => simpa using holds
  | cons entry rest ih =>
      have split : entries ++ entry :: rest = entries ++ [entry] ++ rest := by simp
      rw [split] at fits ⊢
      exact ih (holds.put (Nat.le_trans (distinct_mono _ _) fits)) fits

end Holds

/-! Writing the table out, each entry to the place of its key. -/

section Writing
variable {State : Type w} {Place : Type u} {Value : Type v} [DecidableEq Place]
  (read : State → Place → Value) (write : State → Entry → State) (place : Entry → Place)
  (value : Entry → Value)

/-- A place that no entry names is left alone. -/
theorem write_beside (own : ∀ state entry p, read (write state entry) p =
      if p = place entry then value entry else read state p)
    (table : List Entry) (state : State) {p : Place} (apart : ∀ entry ∈ table, p ≠ place entry) :
    read (table.foldl write state) p = read state p := by
  induction table generalizing state with
  | nil => rfl
  | cons entry rest ih =>
      rw [List.foldl_cons, ih _ fun other member => apart other (List.mem_cons_of_mem _ member), own,
        if_neg (apart entry List.mem_cons_self)]

theorem write_own (own : ∀ state entry p, read (write state entry) p =
      if p = place entry then value entry else read state p)
    (table : List Entry) (state : State) (nodup : (table.map place).Nodup) {entry : Entry}
    (member : entry ∈ table) : read (table.foldl write state) (place entry) = value entry := by
  induction table generalizing state with
  | nil => cases member
  | cons first rest ih =>
      rw [List.map_cons, List.nodup_cons] at nodup
      rw [List.foldl_cons]
      rcases List.mem_cons.mp member with rfl | later
      · have apart : ∀ other ∈ rest, place entry ≠ place other := by
          intro other inside same
          exact nodup.1 (same ▸ List.mem_map_of_mem inside)
        rw [write_beside read write place value own rest _ apart, own, if_pos rfl]
      · exact ih _ nodup.2 later

end Writing

end Dswifi.StickyTable
