import Mathlib.Logic.Function.Iterate

/-! Registers of bits that are shifted. A word that is mixed with a shift of itself is
zero only when it was zero, so a xorshift generator never gets to zero. A register with
feedback is linear: what goes into two registers can be mixed before the steps or after
them. When the feedback polynomial has its top bit, no two registers become the same. -/

namespace Dswifi.ShiftRegister

variable {w : Nat}

/-! A word mixed with a shift of itself. -/

theorem eq_shiftLeft_mul {x : BitVec w} {n : Nat} (fixed : x = x <<< n) (k : Nat) : x = x <<< (n * k) := by
  induction k with
  | zero => simp
  | succ k ih =>
      calc
        x = x <<< n := fixed
        _ = (x <<< (n * k)) <<< n := by rw [← ih]
        _ = x <<< (n * (k + 1)) := by rw [← BitVec.shiftLeft_add, Nat.mul_succ]

theorem eq_ushiftRight_mul {x : BitVec w} {n : Nat} (fixed : x = x >>> n) (k : Nat) : x = x >>> (n * k) := by
  induction k with
  | zero => simp
  | succ k ih =>
      calc
        x = x >>> n := fixed
        _ = (x >>> (n * k)) >>> n := by rw [← ih]
        _ = x >>> (n * (k + 1)) := by rw [← BitVec.shiftRight_add, Nat.mul_succ]

-- A word that a shift does not change is not changed by as many of them as it has bits.
theorem xor_shiftLeft_eq_zero_iff {x : BitVec w} {n : Nat} (pos : 0 < n) : x ^^^ x <<< n = 0 ↔ x = 0 := by
  constructor
  · intro mixed
    rw [eq_shiftLeft_mul (BitVec.xor_eq_zero_iff.mp mixed) w]
    exact BitVec.shiftLeft_eq_zero (Nat.le_mul_of_pos_left w pos)
  · rintro rfl
    simp

theorem xor_ushiftRight_eq_zero_iff {x : BitVec w} {n : Nat} (pos : 0 < n) : x ^^^ x >>> n = 0 ↔ x = 0 := by
  constructor
  · intro mixed
    rw [eq_ushiftRight_mul (BitVec.xor_eq_zero_iff.mp mixed) w]
    exact BitVec.ushiftRight_eq_zero (Nat.le_mul_of_pos_left w pos)
  · rintro rfl
    simp

/-! A register with feedback. -/

/-- One step to the right. The bit that falls out feeds the polynomial back. -/
def feedback (polynomial x : BitVec w) : BitVec w :=
  if x.getLsbD 0 then x >>> 1 ^^^ polynomial else x >>> 1

@[simp] theorem feedback_zero (polynomial : BitVec w) : feedback polynomial 0 = 0 := by
  simp [feedback]

theorem feedback_xor (polynomial x y : BitVec w) :
    feedback polynomial (x ^^^ y) = feedback polynomial x ^^^ feedback polynomial y := by
  unfold feedback
  rw [BitVec.ushiftRight_xor_distrib, BitVec.getLsbD_xor]
  cases x.getLsbD 0 <;> cases y.getLsbD 0
  · simp
  · simp [BitVec.xor_assoc]
  · simp [BitVec.xor_assoc, BitVec.xor_comm polynomial]
  · have cancel : x >>> 1 ^^^ polynomial ^^^ (y >>> 1 ^^^ polynomial) = x >>> 1 ^^^ y >>> 1 := by
      rw [BitVec.xor_comm (y >>> 1), BitVec.xor_assoc, ← BitVec.xor_assoc polynomial polynomial, BitVec.xor_self,
        BitVec.zero_xor]
    exact cancel.symm

theorem iterate_feedback_xor (polynomial x y : BitVec w) (n : Nat) :
    (feedback polynomial)^[n] (x ^^^ y) = (feedback polynomial)^[n] x ^^^ (feedback polynomial)^[n] y := by
  induction n generalizing x y with
  | zero => rfl
  | succ n ih => rw [Function.iterate_succ_apply, feedback_xor, ih]; rfl

/-- As long as zeros fall out, the steps are a shift. -/
theorem iterate_feedback_of_clear (polynomial : BitVec w) {x : BitVec w} {n : Nat}
    (clear : ∀ i, i < n → x.getLsbD i = false) : (feedback polynomial)^[n] x = x >>> n := by
  induction n with
  | zero => simp
  | succ n ih =>
      have shifted := ih fun i below => clear i (by omega)
      have falls : (x >>> n).getLsbD 0 = false := by
        rw [BitVec.getLsbD_ushiftRight]
        exact clear n (by omega)
      rw [Function.iterate_succ_apply', shifted, feedback, if_neg (by rw [falls]; decide), BitVec.shiftRight_add]

/-- The top bit tells whether the polynomial was fed back. -/
theorem msb_feedback {polynomial : BitVec w} (top : polynomial.msb = true) (x : BitVec w) :
    (feedback polynomial x).msb = x.getLsbD 0 := by
  unfold feedback
  split
  next fed => rw [BitVec.msb_xor, BitVec.msb_ushiftRight, top, fed]; simp
  next idle => rw [BitVec.msb_ushiftRight]; simp [idle]

theorem feedback_eq_zero_iff {polynomial : BitVec w} (top : polynomial.msb = true) {x : BitVec w} :
    feedback polynomial x = 0 ↔ x = 0 := by
  constructor
  · intro zero
    have fell : x.getLsbD 0 = false := by
      rw [← msb_feedback top, zero]
      exact BitVec.msb_zero
    have shifted : x >>> 1 = 0 := by
      rw [← zero, feedback, if_neg (by rw [fell]; decide)]
    apply BitVec.eq_of_getLsbD_eq
    intro i _
    cases i with
    | zero => rw [fell]; simp
    | succ i =>
        have upper := congrArg (BitVec.getLsbD · i) shifted
        simpa [Nat.add_comm 1 i] using upper
  · rintro rfl
    exact feedback_zero polynomial

theorem iterate_feedback_eq_zero_iff {polynomial : BitVec w} (top : polynomial.msb = true) {x : BitVec w} (n : Nat) :
    (feedback polynomial)^[n] x = 0 ↔ x = 0 := by
  induction n generalizing x with
  | zero => exact Iff.rfl
  | succ n ih => rw [Function.iterate_succ_apply, ih, feedback_eq_zero_iff top]

end Dswifi.ShiftRegister
