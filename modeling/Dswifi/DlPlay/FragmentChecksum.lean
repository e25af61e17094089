import Mathlib.Algebra.Order.BigOperators.Group.List
import Dswifi.OnesComplement
import Dswifi.DlPlay.AnnouncedRoom

/-! The checksum of a fragment against the sum that a receiver forms. The carries of
the words are folded into it once, so one that the folding itself makes is lost. -/

namespace Dswifi.DlPlay

open ByteMemory OnesComplement

/-- The words that the checksum covers and the one that is stored. -/
def checkedSum (fragment : Memory) : Nat :=
  total 65536 (fragmentSum fragment + bigEndianWord fragment fragChecksum)

/-- Folding the carries makes no carry. -/
def FoldsOnce (fragment : Memory) : Prop :=
  fragmentSum fragment % 65536 + fragmentSum fragment / 65536 < 65536

theorem bigEndianWord_lt (fragment : Memory) (pos : Nat) : bigEndianWord fragment pos < 65536 := by
  have high := (fragment pos).toNat_lt
  have low := (fragment (pos + 1)).toNat_lt
  rw [bigEndianWord]
  omega

theorem bigEndianWord_agree {first second : Memory} {low high : Nat} (same : Agree first second low high)
    {pos : Nat} (above : low ≤ pos) (below : pos + 1 < high) :
    bigEndianWord first pos = bigEndianWord second pos := by
  rw [bigEndianWord, bigEndianWord, same pos above (Nat.lt_of_succ_lt below),
    same (pos + 1) (Nat.le_succ_of_le above) below]

theorem fragmentSum_agree {first second : Memory} (same : Agree first second fragIndex2 fragmentSize) :
    fragmentSum first = fragmentSum second := by
  refine congrArg List.sum (List.map_congr_left fun i member => ?_)
  have below := List.mem_range.mp member
  simp only [fragmentWords, fragmentSize, fragIndex2] at below
  refine bigEndianWord_agree same (Nat.le_add_right _ _) ?_
  simp only [fragmentSize, fragIndex2]
  omega

/-- The checksum is not one of the words it covers. -/
theorem fragmentSum_fragmentChecksum (fragment : Memory) :
    fragmentSum (fragmentChecksum fragment) = fragmentSum fragment :=
  fragmentSum_agree (fragmentChecksum_agree fragment (.inr le_rfl))

theorem checksum_stored (fragment : Memory) :
    bigEndianWord (fragmentChecksum fragment) fragChecksum =
      65535 - (fragmentSum fragment + fragmentSum fragment / 65536) % 65536 := by
  have high : fragmentChecksum fragment fragChecksum =
      UInt8.ofNat ((65535 - (fragmentSum fragment + fragmentSum fragment / 65536) % 65536) / 256) := by
    simp [fragmentChecksum, writeU8]
  have low : fragmentChecksum fragment (fragChecksum + 1) =
      UInt8.ofNat (65535 - (fragmentSum fragment + fragmentSum fragment / 65536) % 65536) := by
    simp [fragmentChecksum, writeU8]
  rw [bigEndianWord, high, low, UInt8.toNat_ofNat', UInt8.toNat_ofNat']
  omega

/-- The sum and its inverse once folded make a multiple of the highest word, unless a
carry was lost on the way. -/
theorem folded_multiple_iff {sum : Nat} (few : sum / 65536 < 65536) :
    0 < sum + (65535 - (sum + sum / 65536) % 65536) ∧
        65535 ∣ sum + (65535 - (sum + sum / 65536) % 65536) ↔
      sum % 65536 + sum / 65536 < 65536 := by
  have split := Nat.mod_add_div sum 65536
  have low := Nat.mod_lt sum (show 0 < 65536 by decide)
  have folded : (sum + sum / 65536) % 65536 = (sum % 65536 + sum / 65536) % 65536 := by
    rw [Nat.add_mod, Nat.mod_eq_of_lt few]
  rw [folded]
  generalize sum % 65536 = rest at *
  generalize sum / 65536 = carries at *
  subst split
  by_cases once : rest + carries < 65536
  · rw [Nat.mod_eq_of_lt once]
    refine iff_of_true ⟨by omega, carries + 1, by omega⟩ once
  · have lost : (rest + carries) % 65536 = rest + carries - 65536 := by omega
    rw [lost]
    refine iff_of_false ?_ once
    rintro ⟨_, times, same⟩
    omega

/-- A carry of the folding makes the sum of a receiver one too much. -/
theorem checksum_sums_iff (fragment : Memory) :
    checkedSum (fragmentChecksum fragment) = 65535 ↔ FoldsOnce fragment := by
  have max : total 65536 (fragmentSum fragment + bigEndianWord (fragmentChecksum fragment) fragChecksum) =
        65535 ↔ 0 < fragmentSum fragment + bigEndianWord (fragmentChecksum fragment) fragChecksum ∧
      65535 ∣ fragmentSum fragment + bigEndianWord (fragmentChecksum fragment) fragChecksum :=
    total_eq_max_iff (by decide)
  have few : fragmentSum fragment / 65536 < 65536 := by
    have bound : fragmentSum fragment ≤ fragmentWords * 65536 := by
      have each := List.sum_le_card_nsmul ((List.range fragmentWords).map fun i =>
        bigEndianWord fragment (fragIndex2 + 2 * i)) 65536 fun word member => by
          obtain ⟨i, -, rfl⟩ := List.mem_map.mp member
          exact Nat.le_of_lt (bigEndianWord_lt fragment _)
      simpa [fragmentSum] using each
    simp only [fragmentWords, fragmentSize, fragIndex2] at bound
    omega
  rw [checkedSum, fragmentSum_fragmentChecksum, max, FoldsOnce, checksum_stored]
  exact folded_multiple_iff few

/-- Two words of ones and the word 1: the low half of their sum is full, and the carry
that is folded in goes out of it again. -/
def fullWords : Memory := fun pos => if 0x0A ≤ pos ∧ pos < 0x0E then 0xFF else if pos = 0x0F then 1 else 0

theorem checksum_one_too_much : ¬∀ fragment, checkedSum (fragmentChecksum fragment) = 65535 :=
  fun all => absurd (all fullWords) (by decide +kernel)

end Dswifi.DlPlay
