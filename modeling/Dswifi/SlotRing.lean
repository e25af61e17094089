import Mathlib.Data.List.Basic
import Mathlib.Logic.Function.Basic

/-! A ring of slots between one side that puts and one side that takes. It is
empty when both are at the same slot, so one slot is never used. -/

namespace Dswifi

universe u

structure SlotRing (Item : Type u) where
  slot : Nat → Item
  write : Nat := 0
  read : Nat := 0

namespace SlotRing
variable {Item : Type u}

def put (size : Nat) (item : Item) (ring : SlotRing Item) : Option (SlotRing Item) :=
  let next := (ring.write + 1) % size
  if next = ring.read then none else
    some { ring with slot := Function.update ring.slot ring.write item, write := next }

def drop (size : Nat) (ring : SlotRing Item) : SlotRing Item :=
  { ring with read := (ring.read + 1) % size }

def pending (size : Nat) (ring : SlotRing Item) : Nat := (ring.write + size - ring.read) % size

/-- What was put and not taken, oldest first. -/
def contents (size : Nat) (ring : SlotRing Item) : List Item :=
  (List.range (ring.pending size)).map fun i => ring.slot ((ring.read + i) % size)

structure Inside (size : Nat) (ring : SlotRing Item) : Prop where
  write : ring.write < size
  read : ring.read < size

section Steps
variable {size : Nat} {ring : SlotRing Item}

theorem Inside.drop (inside : Inside size ring) : Inside size (ring.drop size) :=
  ⟨inside.write, Nat.mod_lt _ (Nat.zero_lt_of_lt inside.read)⟩

theorem put_some {item : Item} {next : SlotRing Item} (stored : ring.put size item = some next) :
    (ring.write + 1) % size ≠ ring.read ∧ next =
      { ring with slot := Function.update ring.slot ring.write item, write := (ring.write + 1) % size } := by
  simp only [SlotRing.put] at stored
  split at stored
  · cases stored
  · cases stored
    exact ⟨‹_›, rfl⟩

theorem Inside.put (inside : Inside size ring) {item : Item} {next : SlotRing Item}
    (stored : ring.put size item = some next) : Inside size next := by
  obtain ⟨_, rfl⟩ := put_some stored
  exact ⟨Nat.mod_lt _ (Nat.zero_lt_of_lt inside.write), inside.read⟩

/-- How far the writer is ahead of the reader, without a remainder. -/
theorem pending_eq (inside : Inside size ring) :
    ring.pending size =
      if ring.read ≤ ring.write then ring.write - ring.read else ring.write + size - ring.read := by
  obtain ⟨write, read⟩ := inside
  rw [pending]
  split
  · rw [show ring.write + size - ring.read = ring.write - ring.read + size by omega, Nat.add_mod_right,
      Nat.mod_eq_of_lt (by omega)]
  · exact Nat.mod_eq_of_lt (by omega)

theorem next_eq {index : Nat} (inside : index < size) :
    (index + 1) % size = if index + 1 = size then 0 else index + 1 := by
  split
  · rename_i last
    rw [last, Nat.mod_self]
  · exact Nat.mod_eq_of_lt (by omega)

theorem pending_drop (inside : Inside size ring) (some : ring.read ≠ ring.write) :
    ring.pending size = (ring.drop size).pending size + 1 := by
  rw [pending_eq inside, pending_eq inside.drop]
  obtain ⟨write, read⟩ := inside
  simp only [drop, next_eq read]
  grind

theorem pending_zero (inside : Inside size ring) (same : ring.read = ring.write) :
    ring.pending size = 0 := by
  rw [pending_eq inside]
  simp [same]

theorem contents_empty (inside : Inside size ring) (same : ring.read = ring.write) :
    ring.contents size = [] := by
  rw [contents, pending_zero inside same]
  rfl

theorem contents_drop (inside : Inside size ring) (some : ring.read ≠ ring.write) :
    ring.contents size = ring.slot ring.read :: (ring.drop size).contents size := by
  rw [contents, contents, pending_drop inside some, List.range_succ_eq_map, List.map_cons, List.map_map,
    Nat.add_zero, Nat.mod_eq_of_lt inside.read]
  congr 1
  refine List.map_congr_left fun i _ => ?_
  change ring.slot _ = ring.slot _
  congr 1
  simp only [drop, Nat.mod_add_mod]
  congr 1
  omega

/-- The writer is at no slot that holds something. -/
theorem slot_ne_write (inside : Inside size ring) {i : Nat} (below : i < ring.pending size) :
    (ring.read + i) % size ≠ ring.write := by
  rw [pending_eq inside] at below
  obtain ⟨write, read⟩ := inside
  by_cases wrapped : ring.read + i < size
  · rw [Nat.mod_eq_of_lt wrapped]
    split at below <;> omega
  · have short : ring.read + i - size < size := by
      split at below <;> omega
    rw [Nat.mod_eq_sub_mod (by omega), Nat.mod_eq_of_lt short]
    split at below <;> omega

theorem pending_put (inside : Inside size ring) {item : Item} {next : SlotRing Item}
    (stored : ring.put size item = some next) : next.pending size = ring.pending size + 1 := by
  rw [pending_eq (inside.put stored), pending_eq inside]
  obtain ⟨room, rfl⟩ := put_some stored
  obtain ⟨write, read⟩ := inside
  simp only [next_eq write] at room ⊢
  grind

theorem write_eq (inside : Inside size ring) : (ring.read + ring.pending size) % size = ring.write := by
  rw [pending_eq inside]
  obtain ⟨write, read⟩ := inside
  split
  · rw [Nat.add_sub_cancel' ‹_›, Nat.mod_eq_of_lt write]
  · rw [show ring.read + (ring.write + size - ring.read) = ring.write + size by omega, Nat.add_mod_right,
      Nat.mod_eq_of_lt write]

theorem contents_put (inside : Inside size ring) {item : Item} {next : SlotRing Item}
    (stored : ring.put size item = some next) :
    next.contents size = ring.contents size ++ [item] := by
  rw [contents, pending_put inside stored]
  obtain ⟨_, rfl⟩ := put_some stored
  simp only [List.range_succ, List.map_append, List.map_cons, List.map_nil, write_eq inside,
    Function.update_self]
  congr 1
  refine List.map_congr_left fun i member => ?_
  exact Function.update_of_ne (slot_ne_write inside (List.mem_range.mp member)) _ _

end Steps

/-- The reader takes until the ring is empty. -/
def drain (size : Nat) : Nat → SlotRing Item → List Item × SlotRing Item
  | 0, ring => ([], ring)
  | fuel + 1, ring =>
      if ring.read = ring.write then ([], ring) else
        let (items, after) := drain size fuel (ring.drop size)
        (ring.slot ring.read :: items, after)

theorem taken_all {ring : SlotRing Item} (same : ring.read = ring.write) :
    ring = { ring with read := ring.write } := by
  cases ring
  cases same
  rfl

/-- Enough turns take everything, in the order in which it was put. -/
theorem drain_contents {size fuel : Nat} {ring : SlotRing Item} (inside : Inside size ring)
    (enough : ring.pending size ≤ fuel) :
    (drain size fuel ring).1 = ring.contents size ∧
      (drain size fuel ring).2 = { ring with read := ring.write } := by
  induction fuel generalizing ring with
  | zero =>
      have same : ring.read = ring.write := by
        by_contra some
        have more := pending_drop inside some
        omega
      rw [contents_empty inside same, drain]
      exact ⟨rfl, taken_all same⟩
  | succ fuel ih =>
      rw [drain]
      split
      · rename_i same
        rw [contents_empty inside same]
        exact ⟨rfl, taken_all same⟩
      · rename_i some
        have fewer := pending_drop inside some
        obtain ⟨items, after⟩ := ih inside.drop (by omega)
        rw [contents_drop inside some]
        exact ⟨congrArg (ring.slot ring.read :: ·) items, after⟩

end SlotRing

end Dswifi
