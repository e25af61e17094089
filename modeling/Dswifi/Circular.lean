import Mathlib.Data.List.Range
import Mathlib.Algebra.BigOperators.Group.List.Basic
import Mathlib.Data.Nat.ModEq
import Mathlib.Logic.Function.Basic

/-! A stretch of a memory that is used in a circle: what is written behind its end goes
on at its start. Pieces of any kind are put into it one behind the other and leave it
at the other end, each with a text and the room that it takes. -/

namespace Dswifi.Circular

universe u v
variable {Content : Type u} {start size : Nat}

/-- The place behind the next one; the stretch starts at `start`. -/
def place (start size base i : Nat) : Nat := start + (base - start + i) % size

def Inside (start size base : Nat) : Prop := start ≤ base ∧ base < start + size

theorem place_inside (positive : 0 < size) (base i : Nat) : Inside start size (place start size base i) := by
  have below := Nat.mod_lt (base - start + i) positive
  constructor
  · exact Nat.le_add_right start _
  · exact Nat.add_lt_add_left below start

theorem place_zero {base : Nat} (inside : Inside start size base) : place start size base 0 = base := by
  obtain ⟨above, below⟩ := inside
  rw [place, Nat.add_zero, Nat.mod_eq_of_lt (by omega)]
  omega

theorem place_place (base i j : Nat) :
    place start size (place start size base i) j = place start size base (i + j) := by
  rw [place, place, place, Nat.add_sub_cancel_left, Nat.mod_add_mod, Nat.add_assoc]

/-- One comparison with the end is enough. -/
theorem place_eq_ite {base i : Nat} (inside : Inside start size base) (short : i ≤ size) :
    place start size base i = if start + size ≤ base + i then base + i - size else base + i := by
  obtain ⟨above, below⟩ := inside
  rw [place]
  split
  · rename_i past
    rw [Nat.mod_eq_sub_mod (by omega), Nat.mod_eq_of_lt (by omega)]
    omega
  · rename_i fits
    rw [Nat.mod_eq_of_lt (by omega)]
    omega

theorem place_injective {base i j : Nat} (first : i < size) (second : j < size)
    (same : place start size base i = place start size base j) : i = j := by
  have equal : i % size = j % size := Nat.ModEq.add_left_cancel' (base - start) (Nat.add_left_cancel same)
  rwa [Nat.mod_eq_of_lt first, Nat.mod_eq_of_lt second] at equal

/-- How far it is from a place to another one. -/
theorem distance {base i : Nat} (inside : Inside start size base) (short : i < size) :
    (place start size base i + size - base) % size = i := by
  rw [place_eq_ite inside short.le]
  obtain ⟨above, below⟩ := inside
  split
  · rename_i past
    have same : base + i - size + size - base = i := by omega
    rw [same, Nat.mod_eq_of_lt short]
  · have same : base + i + size - base = i + size := by omega
    rw [same, Nat.add_mod_right, Nat.mod_eq_of_lt short]

/-- So many contents from a place on. -/
def read (start size : Nat) (mem : Nat → Content) (base count : Nat) : List Content :=
  (List.range count).map fun i => mem (place start size base i)

/-- A text written from a place on, one content after the other. -/
def store (start size : Nat) (mem : Nat → Content) (base : Nat) : List Content → Nat → Content
  | [] => mem
  | first :: rest => store start size (Function.update mem base first) (place start size base 1) rest

@[simp] theorem read_length (mem : Nat → Content) (base count : Nat) :
    (read start size mem base count).length = count := by simp [read]

theorem read_append (mem : Nat → Content) (base first second : Nat) :
    read start size mem base (first + second) =
      read start size mem base first ++ read start size mem (place start size base first) second := by
  simp only [read, List.range_add, List.map_append, List.map_map, Function.comp_def, place_place]

theorem read_take (mem : Nat → Content) (base : Nat) {count fewer : Nat} (short : fewer ≤ count) :
    (read start size mem base count).take fewer = read start size mem base fewer := by
  obtain ⟨more, rfl⟩ := Nat.exists_eq_add_of_le short
  rw [read_append, List.take_left' (read_length ..)]

theorem store_apart (mem : Nat → Content) (base : Nat) (text : List Content) (other : Nat)
    (inside : Inside start size base)
    (apart : ∀ i < text.length, other ≠ place start size base i) : store start size mem base text other = mem other := by
  induction text generalizing mem base with
  | nil => rfl
  | cons first rest ih =>
      have here := apart 0 (Nat.succ_pos _)
      rw [place_zero inside] at here
      have positive : 0 < size := by
        obtain ⟨above, below⟩ := inside
        omega
      rw [store, ih _ _ (place_inside positive base 1), Function.update_of_ne here]
      intro i below
      rw [place_place, Nat.add_comm]
      exact apart (i + 1) (Nat.succ_lt_succ below)

theorem store_place (mem : Nat → Content) (base : Nat) (text : List Content) (inside : Inside start size base)
    (fits : text.length ≤ size) (i : Nat) (below : i < text.length) :
    store start size mem base text (place start size base i) = text[i] := by
  induction text generalizing mem base i with
  | nil => contradiction
  | cons first rest ih =>
      rw [List.length_cons] at fits below
      have positive : 0 < size := by omega
      cases i with
      | zero =>
          rw [store, place_zero inside, store_apart _ _ _ _ (place_inside positive base 1)]
          · simp
          · intro i below same
            rw [place_place] at same
            have start := place_zero inside
            rw [← start, place_place] at same
            have equal := place_injective positive (by omega) same
            omega
      | succ i =>
          have later := ih (Function.update mem base first) (place start size base 1) (place_inside positive base 1)
            (by omega) i (by omega)
          rw [place_place, Nat.add_comm] at later
          exact later

theorem read_store (mem : Nat → Content) {base : Nat} (text : List Content) (inside : Inside start size base)
    (fits : text.length ≤ size) : read start size (store start size mem base text) base text.length = text := by
  apply List.ext_getElem
  · exact read_length ..
  · intro i here below
    simp only [read, List.getElem_map, List.getElem_range]
    exact store_place mem base text inside fits i below

/-- What is in front of a written text stays. -/
theorem read_store_apart (mem : Nat → Content) {base before count : Nat} (text : List Content)
    (front : count ≤ before) (fits : before + text.length ≤ size) :
    read start size (store start size mem (place start size base before) text) base count =
      read start size mem base count := by
  apply List.map_congr_left
  intro i member
  have below := List.mem_range.mp member
  rcases Nat.eq_zero_or_pos text.length with none | some
  · rw [List.length_eq_zero_iff.mp none]
    rfl
  · apply store_apart _ _ _ _ (place_inside (by omega) base before)
    intro j short same
    rw [place_place] at same
    have equal := place_injective (by omega) (by omega) same
    omega

/-! Pieces. -/
section Pieces
variable {Piece : Type v} (text : Piece → List Content) (span : Piece → Nat)

/-- The pieces are in the memory, one behind the other. -/
def Held (start size : Nat) (mem : Nat → Content) : Nat → List Piece → Prop
  | _, [] => True
  | base, piece :: rest =>
      read start size mem base (text piece).length = text piece ∧
        Held start size mem (place start size base (span piece)) rest

def total (pieces : List Piece) : Nat := (pieces.map span).sum

@[simp] theorem total_nil : total span [] = 0 := rfl

@[simp] theorem total_cons (piece : Piece) (rest : List Piece) :
    total span (piece :: rest) = span piece + total span rest := rfl

@[simp] theorem total_append (first second : List Piece) :
    total span (first ++ second) = total span first + total span second := by simp [total]

variable {text span} {mem : Nat → Content} {base : Nat} {pieces : List Piece}

theorem Held.store (held : Held text span start size mem base pieces)
    (room : ∀ piece ∈ pieces, (text piece).length ≤ span piece) {before : Nat} (written : List Content)
    (front : total span pieces ≤ before) (fits : before + written.length ≤ size) :
    Held text span start size (store start size mem (place start size base before) written) base pieces := by
  induction pieces generalizing base before with
  | nil => trivial
  | cons piece rest ih =>
      obtain ⟨here, later⟩ := held
      rw [total_cons] at front
      have short := room piece List.mem_cons_self
      constructor
      · rw [read_store_apart mem written (by omega) fits, here]
      · obtain ⟨beyond, rfl⟩ := Nat.exists_eq_add_of_le (Nat.le_of_add_right_le front)
        rw [← place_place]
        apply ih later (fun other member => room other (List.mem_cons_of_mem _ member)) (by omega)
        omega

theorem held_append (inside : Inside start size base) (first second : List Piece) :
    Held text span start size mem base (first ++ second) ↔
      Held text span start size mem base first ∧
        Held text span start size mem (place start size base (total span first)) second := by
  induction first generalizing base with
  | nil => simp [Held, place_zero inside]
  | cons piece rest ih =>
      have positive : 0 < size := by
        obtain ⟨above, below⟩ := inside
        omega
      rw [List.cons_append, Held, ih (place_inside positive base _), Held, place_place, total_cons, and_assoc]

/-- A piece written behind the others is one more of them. -/
theorem Held.push (held : Held text span start size mem base pieces) (inside : Inside start size base)
    (room : ∀ piece ∈ pieces, (text piece).length ≤ span piece) (piece : Piece)
    (fits : total span pieces + (text piece).length ≤ size) :
    Held text span start size (Circular.store start size mem (place start size base (total span pieces)) (text piece))
      base (pieces ++ [piece]) := by
  have positive : 0 < size := by
    obtain ⟨above, below⟩ := inside
    omega
  rw [held_append inside]
  constructor
  · exact held.store room (text piece) le_rfl fits
  · exact ⟨read_store mem (text piece) (place_inside positive base _) (by omega), trivial⟩

end Pieces

end Dswifi.Circular
