import Mathlib.Data.List.Basic
import Mathlib.Data.Nat.Digits.Defs

/-! Texts of bytes as big endian numbers. Texts of one length are the same when their
numbers are, so their order does not depend on which is named first, also when they are
equal. -/

namespace Dswifi.BigEndian

def number (text : List UInt8) : Nat := Nat.ofDigits 256 (text.map UInt8.toNat).reverse

theorem number_cons (byte : UInt8) (rest : List UInt8) :
    number (byte :: rest) = number rest + 256 ^ rest.length * byte.toNat := by
  rw [number, List.map_cons, Nat.ofDigits_reverse_cons, List.length_map, number]

theorem digit_lt {text : List UInt8} {digit : Nat} (member : digit ∈ (text.map UInt8.toNat).reverse) :
    digit < 256 := by
  obtain ⟨byte, _, rfl⟩ := List.mem_map.mp (List.mem_reverse.mp member)
  exact byte.toNat_lt

theorem number_lt (text : List UInt8) : number text < 256 ^ text.length := by
  have bound := @Nat.ofDigits_lt_base_pow_length 256 _ (by decide) fun _ => @digit_lt text _
  rwa [List.length_reverse, List.length_map] at bound

/-- The first byte decides. -/
theorem number_cons_lt_cons {first second : UInt8} {rest other : List UInt8} (same : rest.length = other.length)
    (less : first < second) : number (first :: rest) < number (second :: other) := by
  rw [number_cons, number_cons, ← same]
  calc
    number rest + 256 ^ rest.length * first.toNat
      < 256 ^ rest.length + 256 ^ rest.length * first.toNat := Nat.add_lt_add_right (number_lt rest) _
    _ = 256 ^ rest.length * (first.toNat + 1) := by rw [Nat.mul_succ, Nat.add_comm]
    _ ≤ 256 ^ rest.length * second.toNat := Nat.mul_le_mul_left _ less
    _ ≤ number other + 256 ^ rest.length * second.toNat := Nat.le_add_left _ _

theorem number_injective {first second : List UInt8} (same : first.length = second.length)
    (equal : number first = number second) : first = second := by
  have digits := Nat.ofDigits_inj_of_len_eq (by decide) (by simp [same]) (fun _ => @digit_lt first _)
    (fun _ => @digit_lt second _) equal
  exact List.map_injective_iff.mpr (fun _ _ => UInt8.toNat_inj.mp) (List.reverse_inj.mp digits)

/-- The two texts, the smaller one first. -/
def ordered (first second : List UInt8) : List UInt8 × List UInt8 :=
  if number first ≤ number second then (first, second) else (second, first)

theorem ordered_comm {first second : List UInt8} (same : first.length = second.length) :
    ordered first second = ordered second first := by
  unfold ordered
  rcases Nat.lt_trichotomy (number first) (number second) with less | equal | more
  · rw [if_pos less.le, if_neg (Nat.not_le.mpr less)]
  · rw [number_injective same equal]
  · rw [if_neg (Nat.not_le.mpr more), if_pos more.le]

end Dswifi.BigEndian
