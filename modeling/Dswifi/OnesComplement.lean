import Mathlib.Data.Nat.ModEq

/-! Sums of words with every carry out of a word added at its low end. Such a sum
stands for the plain sum modulo the highest word, which is its other zero. -/

namespace Dswifi.OnesComplement

/-- The carries of a plain sum, added at its low end once. -/
def fold (base sum : Nat) : Nat := sum % base + sum / base

/-- Folding until nothing is carried. A sum has fewer carries than its value. -/
def foldAll (base : Nat) : Nat → Nat → Nat
  | 0, sum => sum
  | fuel + 1, sum => if sum < base then sum else foldAll base fuel (fold base sum)

/-- The one's complement sum of words whose plain sum is `sum`. -/
def total (base sum : Nat) : Nat := foldAll base sum sum

variable {base sum : Nat}

theorem fold_lt (two : 2 ≤ base) (carries : base ≤ sum) : fold base sum < sum := by
  have positive : 0 < sum / base := Nat.div_pos carries (Nat.zero_lt_of_lt two)
  have split := Nat.mod_add_div sum base
  have grows : 2 * (sum / base) ≤ base * (sum / base) := Nat.mul_le_mul_right _ two
  rw [fold]
  omega

theorem fold_pos (positive : 0 < sum) : 0 < fold base sum := by
  have split := Nat.mod_add_div sum base
  by_contra none
  obtain ⟨low, high⟩ := Nat.add_eq_zero_iff.mp (Nat.eq_zero_of_not_pos none)
  rw [low, high, Nat.mul_zero] at split
  exact positive.ne split

/-- A carry is worth a word more than its place. -/
theorem fold_modEq (one : 1 ≤ base) : fold base sum ≡ sum [MOD base - 1] := by
  have split := Nat.mod_add_div sum base
  have carry : base * (sum / base) = (base - 1) * (sum / base) + sum / base := by
    rw [Nat.sub_mul, Nat.one_mul]
    have : sum / base ≤ base * (sum / base) := Nat.le_mul_of_pos_left _ one
    omega
  have whole : sum = fold base sum + (base - 1) * (sum / base) := by
    rw [fold]
    omega
  calc fold base sum ≡ fold base sum + (base - 1) * (sum / base) [MOD base - 1] :=
        (Nat.add_modulus_mul_modEq_iff.mpr rfl).symm
    _ = sum := whole.symm

section FoldAll
variable {fuel : Nat}

theorem foldAll_lt (two : 2 ≤ base) (enough : sum ≤ fuel) : foldAll base fuel sum < base := by
  induction fuel generalizing sum with
  | zero =>
      rw [foldAll]
      omega
  | succ fuel ih =>
      rw [foldAll]
      split
      · assumption
      · rename_i carries
        apply ih
        have less := fold_lt two (Nat.le_of_not_lt carries)
        omega

theorem foldAll_pos (positive : 0 < sum) : 0 < foldAll base fuel sum := by
  induction fuel generalizing sum with
  | zero => exact positive
  | succ fuel ih =>
      rw [foldAll]
      split
      · exact positive
      · exact ih (fold_pos positive)

theorem foldAll_modEq (one : 1 ≤ base) : foldAll base fuel sum ≡ sum [MOD base - 1] := by
  induction fuel generalizing sum with
  | zero => rfl
  | succ fuel ih =>
      rw [foldAll]
      split
      · rfl
      · exact ih.trans (fold_modEq one)

end FoldAll

/-- Words sum up to the highest one exactly when the plain sum is a multiple of it,
and not every word is zero. -/
theorem total_eq_max_iff (two : 2 ≤ base) :
    total base sum = base - 1 ↔ 0 < sum ∧ base - 1 ∣ sum := by
  have below : total base sum < base := foldAll_lt two le_rfl
  have same : total base sum ≡ sum [MOD base - 1] := foldAll_modEq (Nat.le_of_lt two)
  constructor
  · intro max
    refine ⟨?_, (Nat.modEq_zero_iff_dvd).mp ?_⟩
    · by_contra none
      obtain rfl : sum = 0 := by omega
      rw [total, foldAll] at max
      omega
    · exact same.symm.trans (by rw [max]; exact (Nat.modEq_zero_iff_dvd).mpr dvd_rfl)
  · rintro ⟨positive, multiple⟩
    have some : 0 < total base sum := foldAll_pos positive
    have divides : base - 1 ∣ total base sum :=
      (Nat.modEq_zero_iff_dvd).mp (same.trans ((Nat.modEq_zero_iff_dvd).mpr multiple))
    have least := Nat.le_of_dvd some divides
    omega

end Dswifi.OnesComplement
