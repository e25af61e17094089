import Mathlib.Data.List.Basic
import Mathlib.Data.List.Range

/-! A stretch cut into pieces of one length, the last of which may be short. The
contents are read by position, so that nothing here is about bytes. -/

namespace Dswifi.Pieces

universe u
variable {Content : Type u}

def stretch (content : Nat → Content) (start length : Nat) : List Content :=
  (List.range' start length).map content

def count (total piece : Nat) : Nat := (total + (piece - 1)) / piece

def size (total piece index : Nat) : Nat := min piece (total - index * piece)

@[simp] theorem stretch_length (content : Nat → Content) (start length : Nat) :
    (stretch content start length).length = length := by simp [stretch]

theorem stretch_append (content : Nat → Content) (start first second : Nat) :
    stretch content start (first + second) =
      stretch content start first ++ stretch content (start + first) second := by
  simp [stretch, ← List.map_append, List.range'_append_1]

theorem lt_count_iff {total piece index : Nat} (positive : 0 < piece) :
    index < count total piece ↔ index * piece < total := by
  rw [count, Nat.lt_div_iff_mul_lt positive]
  constructor
  · intro below
    have bound : index * piece = piece * index := Nat.mul_comm _ _
    omega
  · intro below
    have bound : index * piece = piece * index := Nat.mul_comm _ _
    omega

theorem count_mul_le (total piece : Nat) :
    count total piece * piece ≤ total + (piece - 1) := by
  rw [count]
  exact Nat.div_mul_le_self _ _

theorem size_pos {total piece index : Nat} (positive : 0 < piece) (inside : index < count total piece) :
    0 < size total piece index := by
  have below := (lt_count_iff positive).mp inside
  rw [size]
  omega

theorem size_le (total piece index : Nat) : size total piece index ≤ piece := Nat.min_le_left _ _

theorem size_inside {total piece index : Nat} (positive : 0 < piece)
    (inside : index < count total piece) : index * piece + size total piece index ≤ total := by
  have below := (lt_count_iff positive).mp inside
  rw [size]
  omega

/-- The first pieces make up the start of the stretch. -/
theorem pieces_take (content : Nat → Content) (start total piece n : Nat) :
    (List.range n).flatMap (fun index =>
        stretch content (start + index * piece) (size total piece index)) =
      stretch content start (min total (n * piece)) := by
  induction n with
  | zero => simp [stretch]
  | succ n ih =>
      have grown : min total ((n + 1) * piece) = min total (n * piece) + size total piece n := by
        rw [size, Nat.succ_mul]
        omega
      rw [List.range_succ, List.flatMap_append, ih, grown, stretch_append]
      simp only [List.flatMap_cons, List.flatMap_nil, List.append_nil]
      by_cases full : n * piece ≤ total
      · rw [Nat.min_eq_right full]
      · have empty : size total piece n = 0 := by
          rw [size]
          omega
        simp [empty, stretch]

/-- The pieces make up the stretch, each part of it once. -/
theorem pieces_stretch (content : Nat → Content) (start : Nat) {total piece : Nat}
    (positive : 0 < piece) :
    (List.range (count total piece)).flatMap (fun index =>
        stretch content (start + index * piece) (size total piece index)) =
      stretch content start total := by
  rw [pieces_take]
  congr 1
  apply Nat.min_eq_left
  by_contra more
  have last : count total piece < count total piece := (lt_count_iff positive).mpr (by omega)
  omega

/-! A list dealt out in windows of one length. -/

theorem window_eq (list : List Content) (start length : Nat) :
    (List.range length).filterMap (fun i => list[start + i]?) = (list.drop start).take length := by
  induction length with
  | zero => rfl
  | succ length ih =>
      rw [List.range_succ, List.filterMap_append, ih, List.take_add_one, List.getElem?_drop]
      cases found : list[start + length]? <;> simp [found]

theorem windows_take (list : List Content) (piece n : Nat) :
    (List.range n).flatMap (fun index => (List.range piece).filterMap fun i => list[index * piece + i]?) =
      list.take (n * piece) := by
  induction n with
  | zero => simp
  | succ n ih =>
      rw [List.range_succ, List.flatMap_append, ih, List.flatMap_singleton, window_eq, Nat.succ_mul,
        List.take_add]

end Dswifi.Pieces
