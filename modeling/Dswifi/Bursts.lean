import Mathlib.Data.List.Basic
import Dswifi.ShiftRegister

/-! Messages that go into a register with feedback one bit after the other, the first at
the low end. A register whose polynomial has its top bit tells two messages apart when they
differ in a burst, which is a part of them that is no longer than the register. -/

namespace Dswifi.Bursts

open ShiftRegister

variable {w : Nat}

/-- The bit alone in a register. -/
def single (w : Nat) (bit : Bool) : BitVec w := (BitVec.ofBool bit).setWidth w

def feedBit (polynomial register : BitVec w) (bit : Bool) : BitVec w :=
  feedback polynomial (register ^^^ single w bit)

def feed (polynomial register : BitVec w) (bits : List Bool) : BitVec w :=
  bits.foldl (feedBit polynomial) register

/-- The register that has these bits from the low end on. -/
def word (w : Nat) : List Bool → BitVec w
  | [] => 0
  | bit :: rest => single w bit ^^^ word w rest <<< 1

theorem feed_append (polynomial register : BitVec w) (first second : List Bool) :
    feed polynomial register (first ++ second) = feed polynomial (feed polynomial register first) second :=
  List.foldl_append

/-! The bits of a word. -/

theorem single_getLsbD (bit : Bool) (i : Nat) :
    (single w bit).getLsbD i = (decide (i < w) && (decide (i = 0) && bit)) := by
  rw [single, BitVec.getLsbD_setWidth, BitVec.getLsbD_ofBool]

theorem word_getLsbD {bits : List Bool} {i : Nat} (inside : i < w) :
    (word w bits).getLsbD i = bits.getD i false := by
  induction bits generalizing i with
  | nil => simp [word]
  | cons bit rest ih =>
      rw [word, BitVec.getLsbD_xor, single_getLsbD, BitVec.getLsbD_shiftLeft]
      cases i with
      | zero => simp [inside]
      | succ i =>
          have shifted := @ih i (by omega)
          simpa [inside] using shifted

theorem word_above {bits : List Bool} {i : Nat} (above : bits.length ≤ i) :
    (word w bits).getLsbD i = false := by
  by_cases inside : i < w
  · rw [word_getLsbD inside]
    simp [above]
  · exact BitVec.getLsbD_of_ge _ _ (by omega)

theorem word_injective {first second : List Bool} (same : first.length = second.length)
    (short : first.length ≤ w) (equal : word w first = word w second) : first = second := by
  apply List.ext_getElem same
  intro i below below'
  have bit := congrArg (BitVec.getLsbD · i) equal
  have read := @word_getLsbD w first i (by omega)
  have read' := @word_getLsbD w second i (by omega)
  simp only [read, read'] at bit
  simpa [below, below'] using bit

/-! Bits that go in at once. -/

theorem feedback_shiftLeft (polynomial : BitVec w) {x : BitVec w} (top : x.msb = false) :
    feedback polynomial (x <<< 1) = x := by
  have clear : ∀ i, i < 1 → (x <<< 1).getLsbD i = false := by
    intro i low
    simp [BitVec.getLsbD_shiftLeft, low]
  have moved := iterate_feedback_of_clear polynomial clear
  rw [Function.iterate_one] at moved
  rw [moved]
  apply BitVec.eq_of_getLsbD_eq
  intro i below
  rw [BitVec.getLsbD_ushiftRight, BitVec.getLsbD_shiftLeft]
  by_cases last : 1 + i < w
  · simp [last]
  · -- the bit that the shift to the left has lost was clear
    have high : i = w - 1 := by omega
    rw [BitVec.msb_eq_getLsbD_last] at top
    simp [high, top]

/-- A few bits go into a register as the word they make up does. -/
theorem feed_short (polynomial : BitVec w) {bits : List Bool} (short : bits.length ≤ w) (register : BitVec w) :
    feed polynomial register bits = (feedback polynomial)^[bits.length] (register ^^^ word w bits) := by
  induction bits generalizing register with
  | nil => simp [feed, word]
  | cons bit rest ih =>
      simp only [List.length_cons] at short
      have top : (word w rest).msb = false := by
        rw [BitVec.msb_eq_getLsbD_last]
        exact word_above (by omega)
      calc
        feed polynomial register (bit :: rest)
          = feed polynomial (feedback polynomial (register ^^^ single w bit)) rest := rfl
        _ = (feedback polynomial)^[rest.length]
              (feedback polynomial (register ^^^ single w bit) ^^^ word w rest) := ih (by omega) _
        _ = (feedback polynomial)^[rest.length]
              (feedback polynomial (register ^^^ single w bit) ^^^ feedback polynomial (word w rest <<< 1)) := by
            rw [feedback_shiftLeft polynomial top]
        _ = (feedback polynomial)^[rest.length + 1] (register ^^^ word w (bit :: rest)) := by
            rw [← feedback_xor, BitVec.xor_assoc, Function.iterate_succ_apply]
            rfl

/-! Telling messages apart. -/

section Apart
variable {polynomial : BitVec w} (top : polynomial.msb = true)
include top

theorem feedback_injective : Function.Injective (feedback polynomial) := by
  intro x y same
  have difference : feedback polynomial (x ^^^ y) = 0 := by
    rw [feedback_xor, same, BitVec.xor_self]
    rfl
  exact BitVec.xor_eq_zero_iff.mp ((feedback_eq_zero_iff top).mp difference)

theorem feed_injective (bits : List Bool) : Function.Injective (feed polynomial · bits) := by
  induction bits with
  | nil => exact fun _ _ => id
  | cons bit rest ih =>
      intro x y same
      have first : feedBit polynomial x bit = feedBit polynomial y bit := ih same
      exact (BitVec.xor_left_inj _).mp (feedback_injective top first)

/-- Two messages that differ in a burst leave different registers. -/
theorem feed_burst {first second : List Bool} (same : first.length = second.length) (short : first.length ≤ w)
    (differ : first ≠ second) (register : BitVec w) (before after : List Bool) :
    feed polynomial register (before ++ first ++ after) ≠ feed polynomial register (before ++ second ++ after) := by
  intro equal
  simp only [feed_append] at equal
  have burst := feed_injective top after equal
  generalize feed polynomial register before = register at burst
  rw [feed_short polynomial short, feed_short polynomial (by omega), same] at burst
  have words := Function.Injective.iterate (feedback_injective top) second.length burst
  exact differ (word_injective same short ((BitVec.xor_right_inj _).mp words))

/-- The same for two messages that are told by where they differ. -/
theorem feed_window {first second : List Bool} (same : first.length = second.length) (differ : first ≠ second)
    {start : Nat} (window : ∀ i, first[i]? ≠ second[i]? → start ≤ i ∧ i < start + w) (register : BitVec w) :
    feed polynomial register first ≠ feed polynomial register second := by
  have before : first.take start = second.take start := by
    apply List.ext_getElem?
    intro i
    by_cases low : i < start
    · rw [List.getElem?_take_of_lt low, List.getElem?_take_of_lt low]
      by_contra apart
      exact absurd (window i apart).1 (by omega)
    · rw [List.getElem?_take_eq_none (by omega), List.getElem?_take_eq_none (by omega)]
  have after : first.drop (start + w) = second.drop (start + w) := by
    apply List.ext_getElem?
    intro i
    rw [List.getElem?_drop, List.getElem?_drop]
    by_contra apart
    exact absurd (window _ apart).2 (by omega)
  have cut : ∀ bits : List Bool, bits = bits.take start ++ (bits.drop start).take w ++ bits.drop (start + w) := by
    intro bits
    rw [List.append_assoc, ← List.drop_drop, List.take_append_drop, List.take_append_drop]
  rw [cut first, cut second] at differ ⊢
  rw [before, after] at differ ⊢
  apply feed_burst top
  · simp [same]
  · exact (List.length_take_le _ _)
  · intro burst
    exact differ (by rw [burst])

end Apart

/-! The bits of a message in bytes. -/

def bitsOfByte (byte : UInt8) : List Bool := List.ofFn fun i : Fin 8 => byte.toBitVec.getLsbD i

def bitsOf (bytes : List UInt8) : List Bool := bytes.flatMap bitsOfByte

@[simp] theorem bitsOfByte_length (byte : UInt8) : (bitsOfByte byte).length = 8 := List.length_ofFn

theorem bitsOfByte_getElem? (byte : UInt8) {i : Nat} (low : i < 8) :
    (bitsOfByte byte)[i]? = some (byte.toBitVec.getLsbD i) := by
  rw [bitsOfByte, List.getElem?_ofFn, dif_pos low]

theorem bitsOf_cons (byte : UInt8) (rest : List UInt8) : bitsOf (byte :: rest) = bitsOfByte byte ++ bitsOf rest :=
  List.flatMap_cons

theorem bitsOf_length (bytes : List UInt8) : (bitsOf bytes).length = 8 * bytes.length := by
  induction bytes with
  | nil => rfl
  | cons byte rest ih =>
      rw [bitsOf_cons, List.length_append, bitsOfByte_length, ih, List.length_cons]
      omega

theorem bitsOf_getElem? (bytes : List UInt8) (i : Nat) :
    (bitsOf bytes)[i]? = bytes[i / 8]?.map fun byte => byte.toBitVec.getLsbD (i % 8) := by
  induction bytes generalizing i with
  | nil => rfl
  | cons byte rest ih =>
      rw [bitsOf_cons]
      by_cases first : i < 8
      · rw [List.getElem?_append_left (by simpa using first), Nat.div_eq_of_lt first, Nat.mod_eq_of_lt first,
          bitsOfByte_getElem? byte first]
        rfl
      · have shifted : (i - 8) % 8 = i % 8 ∧ i / 8 = (i - 8) / 8 + 1 := by omega
        rw [List.getElem?_append_right (by simpa using first), bitsOfByte_length, ih, shifted.1, shifted.2]
        rfl

theorem word_bitsOfByte (byte : UInt8) : word w (bitsOfByte byte) = byte.toBitVec.setWidth w := by
  apply BitVec.eq_of_getLsbD_eq
  intro i inside
  rw [word_getLsbD inside, BitVec.getLsbD_setWidth, List.getD_eq_getElem?_getD]
  by_cases low : i < 8
  · simp [bitsOfByte_getElem? byte low, inside]
  · have high : 8 ≤ i := Nat.not_lt.mp low
    rw [BitVec.getLsbD_of_ge byte.toBitVec i high, List.getElem?_eq_none (by simpa using high)]
    simp

/-- A byte goes into a register with its eight bits at once. -/
theorem feed_bitsOfByte (wide : 8 ≤ w) (polynomial register : BitVec w) (byte : UInt8) :
    feed polynomial register (bitsOfByte byte) = (feedback polynomial)^[8] (register ^^^ byte.toBitVec.setWidth w) := by
  rw [feed_short polynomial (by simpa using wide), word_bitsOfByte, bitsOfByte_length]

end Dswifi.Bursts
