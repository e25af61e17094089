import Dswifi.ByteMemory
import Mathlib.Data.List.Infix

/-! A text of elements, each of which is a type, the length of its contents and the
contents. A last element that is cut off is none. -/

namespace Dswifi.TypedElements

open ByteMemory

abbrev Element := UInt8 × List UInt8

def bytesOf (element : Element) : List UInt8 :=
  element.1 :: UInt8.ofNat element.2.length :: element.2

/-- The elements of a text, in order. -/
inductive Splits : List UInt8 → List Element → Prop
  | short {text : List UInt8} (small : text.length < 2) : Splits text []
  | cut {type length : UInt8} {rest : List UInt8} (past : rest.length < length.toNat) :
      Splits (type :: length :: rest) []
  | element {type length : UInt8} {contents rest : List UInt8} {elements : List Element}
      (exact : contents.length = length.toNat) (more : Splits rest elements) :
      Splits (type :: length :: (contents ++ rest)) ((type, contents) :: elements)

/-- There are fewer elements than bytes. -/
def split : Nat → List UInt8 → List Element
  | fuel + 1, type :: length :: rest =>
      if length.toNat ≤ rest.length then
        (type, rest.take length.toNat) :: split fuel (rest.drop length.toNat)
      else []
  | _, _ => []

def elements (text : List UInt8) : List Element := split text.length text

theorem split_splits {fuel : Nat} {text : List UInt8} (enough : text.length ≤ fuel) :
    Splits text (split fuel text) := by
  induction fuel generalizing text with
  | zero => exact .short (Nat.lt_of_le_of_lt enough (by decide))
  | succ fuel ih =>
      match text with
      | [] => exact .short (by decide)
      | [_] => exact .short Nat.one_lt_two
      | type :: length :: rest =>
          rw [split]
          split
          · rename_i fits
            have exact : (rest.take length.toNat).length = length.toNat := by
              rw [List.length_take, Nat.min_eq_left fits]
            have fewer : (rest.drop length.toNat).length ≤ fuel := by
              rw [List.length_drop]
              simp only [List.length_cons] at enough
              omega
            have later := @Splits.element type length _ _ _ exact (ih fewer)
            rwa [List.take_append_drop] at later
          · rename_i past
            exact .cut (Nat.lt_of_not_le past)

theorem elements_splits (text : List UInt8) : Splits text (elements text) := split_splits le_rfl

/-- A text has one list of elements. -/
theorem Splits.split_eq {text : List UInt8} {found : List Element} (splits : Splits text found) {fuel : Nat}
    (enough : text.length ≤ fuel) : split fuel text = found := by
  induction splits generalizing fuel with
  | @short text small =>
      match text, fuel with
      | _, 0 => rfl
      | [], _ + 1 => rfl
      | [_], _ + 1 => rfl
      | _ :: _ :: rest, _ + 1 => exact absurd small (Nat.not_lt.mpr (Nat.le_add_left 2 rest.length))
  | cut past =>
      cases fuel with
      | zero => cases enough
      | succ fuel => rw [split, if_neg (Nat.not_le.mpr past)]
  | @element type length contents rest found exact more ih =>
      cases fuel with
      | zero => cases enough
      | succ fuel =>
          simp only [List.length_cons, List.length_append] at enough
          rw [split, if_pos (by rw [List.length_append]; omega), List.take_left' exact, List.drop_left' exact,
            ih (by omega)]

theorem Splits.elements_eq {text : List UInt8} {found : List Element} (splits : Splits text found) :
    elements text = found :=
  splits.split_eq le_rfl

/-- What is behind the elements of a text. -/
def leftover (text : List UInt8) : List UInt8 := text.drop ((elements text).flatMap bytesOf).length

theorem Splits.leftover_none {text : List UInt8} (splits : Splits text []) : leftover text = text := by
  rw [leftover, splits.elements_eq]
  rfl

/-- What is behind an element and some others is behind the others in the rest. -/
theorem drop_bytesOf (type length : UInt8) (contents rest : List UInt8) (others : List Element) :
    (type :: length :: (contents ++ rest)).drop (((type, contents) :: others).flatMap bytesOf).length =
      rest.drop (others.flatMap bytesOf).length := by
  have size : (bytesOf (type, contents)).length = contents.length + 2 := rfl
  rw [List.flatMap_cons, List.length_append, size, Nat.add_right_comm, List.drop_succ_cons, List.drop_succ_cons,
    List.drop_length_add_append]

theorem leftover_element {type length : UInt8} {contents : List UInt8} (rest : List UInt8)
    (exact : contents.length = length.toNat) :
    leftover (type :: length :: (contents ++ rest)) = leftover rest := by
  have whole := (@Splits.element type length contents rest _ exact (elements_splits rest)).elements_eq
  rw [leftover, whole, drop_bytesOf]
  rfl

/-- What is left of a text at the start of each of its elements and behind the last. -/
def starts (text : List UInt8) : List (List UInt8) :=
  (elements text).inits.map fun front => text.drop (front.flatMap bytesOf).length

theorem Splits.starts_none {text : List UInt8} (splits : Splits text []) : starts text = [text] := by
  rw [starts, splits.elements_eq]
  rfl

theorem starts_element {type length : UInt8} {contents : List UInt8} (rest : List UInt8)
    (exact : contents.length = length.toNat) :
    starts (type :: length :: (contents ++ rest)) = (type :: length :: (contents ++ rest)) :: starts rest := by
  have whole := (@Splits.element type length contents rest _ exact (elements_splits rest)).elements_eq
  have later := List.map_congr_left fun front (_ : front ∈ (elements rest).inits) =>
    drop_bytesOf type length contents rest front
  rw [starts, whole, List.inits_cons, List.map_cons, List.map_map, starts, ← later]
  rfl

/-- The contents of an element are as long as a byte can say. -/
theorem Splits.contents_lt {text : List UInt8} {found : List Element} (splits : Splits text found) :
    ∀ element ∈ found, element.2.length < 256 := by
  induction splits with
  | short => simp
  | cut => simp
  | @element type length contents rest found exact more ih =>
      refine List.forall_mem_cons.mpr ⟨?_, ih⟩
      rw [exact]
      exact length.toNat_lt

/-- Elements written one after the other are the elements of what is written. -/
theorem splits_flatMap {found : List Element} (small : ∀ element ∈ found, element.2.length < 256) :
    Splits (found.flatMap bytesOf) found := by
  induction found with
  | nil => exact .short (by decide)
  | cons element rest ih =>
      obtain ⟨first, later⟩ := List.forall_mem_cons.mp small
      rw [List.flatMap_cons]
      refine Splits.element ?_ (ih later)
      rw [UInt8.toNat_ofNat', Nat.mod_eq_of_lt first]

/-- Behind whole elements something else starts. -/
theorem mem_starts_flatMap {found : List Element} (small : ∀ element ∈ found, element.2.length < 256)
    (rest : List UInt8) : rest ∈ starts (found.flatMap bytesOf ++ rest) := by
  induction found with
  | nil => exact List.mem_map.mpr ⟨[], (List.mem_inits _ _).mpr List.nil_prefix, rfl⟩
  | cons element others ih =>
      obtain ⟨first, later⟩ := List.forall_mem_cons.mp small
      have exact : element.2.length = (UInt8.ofNat element.2.length).toNat := by
        rw [UInt8.toNat_ofNat', Nat.mod_eq_of_lt first]
      have split : (element :: others).flatMap bytesOf ++ rest =
          element.1 :: UInt8.ofNat element.2.length :: (element.2 ++ (others.flatMap bytesOf ++ rest)) := by
        rw [List.flatMap_cons, List.append_assoc]
        rfl
      rw [split, starts_element _ exact]
      exact List.mem_cons_of_mem _ (ih later)

/-- Some of its elements are together no longer than the text. -/
theorem Splits.filter_length {text : List UInt8} {found : List Element} (splits : Splits text found)
    (keep : Element → Bool) : ((found.filter keep).flatMap bytesOf).length ≤ text.length := by
  induction splits with
  | short => exact Nat.zero_le _
  | cut => exact Nat.zero_le _
  | @element type length contents rest found exact more ih =>
      have size : (bytesOf (type, contents)).length = contents.length + 2 := rfl
      rw [List.filter_cons]
      simp only [List.length_cons, List.length_append]
      split
      · rw [List.flatMap_cons, List.length_append, size]
        omega
      · omega

/-- A text that is cut inside its first element has none. -/
theorem splits_take_cut {type length : UInt8} (rest : List UInt8) {n : Nat}
    (past : min n (2 + rest.length) < 2 + length.toNat) : Splits ((type :: length :: rest).take n) [] := by
  match n with
  | 0 => exact .short (by rw [List.take_zero]; decide)
  | 1 => exact .short Nat.one_lt_two
  | n + 2 => exact .cut (by rw [List.length_take]; omega)

/-- A text that is cut has the first of its elements. -/
theorem Splits.take {text : List UInt8} {found : List Element} (splits : Splits text found) (n : Nat) :
    ∃ behind, found = elements (text.take n) ++ behind := by
  induction splits generalizing n with
  | short small =>
      have none : Splits (List.take n _) [] := .short (Nat.lt_of_le_of_lt (List.length_take_le' n _) small)
      exact ⟨[], by rw [none.elements_eq, List.append_nil]⟩
  | @cut type length rest past =>
      have none : Splits ((type :: length :: rest).take n) [] := splits_take_cut rest (by omega)
      exact ⟨[], by rw [none.elements_eq, List.append_nil]⟩
  | @element type length contents rest found exact more ih =>
      by_cases reached : 2 + contents.length ≤ n
      · obtain ⟨behind, split⟩ := ih (n - (2 + contents.length))
        refine ⟨behind, ?_⟩
        have front : (type :: length :: (contents ++ rest)).take n =
            type :: length :: (contents ++ rest.take (n - (2 + contents.length))) := by
          have count : n = contents.length + (n - (2 + contents.length)) + 1 + 1 := by omega
          conv_lhs => rw [count, List.take_succ_cons, List.take_succ_cons, List.take_length_add_append]
        rw [front, (Splits.element exact (elements_splits _)).elements_eq, List.cons_append, ← split]
      · have none : Splits ((type :: length :: (contents ++ rest)).take n) [] :=
          splits_take_cut _ (by omega)
        exact ⟨_, by rw [none.elements_eq, List.nil_append]⟩

/-! Elements in a memory. -/

variable {mem : Memory} {pos : Nat}

theorem header_inPlace {type length : UInt8} {behind : List UInt8}
    (there : InPlace mem pos (type :: length :: behind)) :
    mem pos = type ∧ mem (pos + 1) = length ∧ InPlace mem (pos + 2) behind := by
  have all : InPlace mem pos ([type, length] ++ behind) := there
  obtain ⟨header, after⟩ := inPlace_append.mp all
  exact ⟨header.byte (show 0 < 2 by decide), header.byte (show 1 < 2 by decide), after⟩

/-- The parts of the first element of a text. -/
theorem element_inPlace {type length : UInt8} {contents rest : List UInt8}
    (there : InPlace mem pos (type :: length :: (contents ++ rest))) :
    mem pos = type ∧ mem (pos + 1) = length ∧ InPlace mem (pos + 2) contents ∧
      InPlace mem (pos + 2 + contents.length) rest := by
  obtain ⟨isType, isLength, behind⟩ := header_inPlace there
  obtain ⟨here, after⟩ := inPlace_append.mp behind
  exact ⟨isType, isLength, here, after⟩

end Dswifi.TypedElements
