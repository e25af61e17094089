import Dswifi.ByteMemory
import Mathlib.Data.List.TakeWhile

/-! Texts that end at their first zero, in fields of a fixed size that may not have
room for the zero. -/

namespace Dswifi.CStrings

open ByteMemory

/-- What a pointer to these bytes means as a string. -/
def chars (bytes : List UInt8) : List UInt8 := bytes.takeWhile (· ≠ 0)

/-- strcpy, with the zero. -/
def strcpy (mem : Memory) (pos : Nat) (src : List UInt8) : Memory := writeBytes mem pos (chars src ++ [0])

theorem chars_append_zero (name rest : List UInt8) : chars (name ++ 0 :: rest) = chars name := by
  induction name with
  | nil => rfl
  | cons first name ih =>
      rw [chars, List.cons_append, chars, List.takeWhile_cons, List.takeWhile_cons]
      split
      · exact congrArg (first :: ·) ih
      · rfl

theorem chars_length_le (name : List UInt8) : (chars name).length ≤ name.length :=
  (List.takeWhile_prefix _).length_le

variable {mem : Memory} {pos size : Nat} {src : List UInt8}

/-- A field of zeros has them behind a shorter text. -/
theorem strcpy_short (blank : InPlace mem pos (List.replicate size 0)) (short : (chars src).length < size) :
    InPlace (strcpy mem pos src) pos (chars src ++ List.replicate (size - (chars src).length) 0) := by
  obtain ⟨more, left⟩ : ∃ more, size - (chars src).length = 1 + more := ⟨size - (chars src).length - 1, by omega⟩
  have behind : InPlace mem (pos + ((chars src).length + 1)) (List.replicate more 0) := by
    have drop := blank.drop (show (chars src).length + 1 ≤ (List.replicate size 0).length by
      rw [List.length_replicate]; omega)
    rwa [List.drop_replicate, show size - ((chars src).length + 1) = more by omega] at drop
  rw [left, List.replicate_add, ← List.append_assoc, inPlace_append]
  refine ⟨writeBytes_inPlace _ _ _, ?_⟩
  rw [List.length_append]
  exact behind.writeBytes (.inr (by rw [List.length_append]; exact le_rfl))

/-- What is behind the characters, from the first zero on. -/
def hidden (bytes : List UInt8) : List UInt8 := bytes.dropWhile (· ≠ 0)

theorem chars_hidden (bytes : List UInt8) : chars bytes ++ hidden bytes = bytes := List.takeWhile_append_dropWhile

/-- The start of such a field is the whole name if the name has only zeros behind a zero. -/
theorem take_padded {name : List UInt8} {more : Nat} (room : name.length ≤ (chars name).length + more) :
    (chars name ++ List.replicate more 0).take name.length = name ↔ ∀ byte ∈ hidden name, byte = 0 := by
  have length : (chars name).length + (hidden name).length = name.length := by
    rw [← List.length_append, chars_hidden]
  have front : (chars name ++ List.replicate more 0).take name.length =
      chars name ++ List.replicate (hidden name).length 0 := by
    rw [← length, List.take_length_add_append, List.take_replicate, Nat.min_eq_left (by omega)]
  rw [front]
  conv_lhs => rhs; rw [← chars_hidden name]
  rw [List.append_cancel_left_eq, eq_comm, List.eq_replicate_iff]
  exact and_iff_right rfl

end Dswifi.CStrings
