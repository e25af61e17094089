import Dswifi.ByteMemory

/-! The MAC RAM of the wireless hardware (arm7/ntr/mac.c). It is read and written
in halfwords, each at an even address, so a byte on its own is written by reading
the halfword around it first. -/

namespace Dswifi.MacRam

/-- The halfwords, by their addresses. -/
abbrev Ram := Nat → UInt16

def lowHalf (halfword : UInt16) : UInt8 := halfword.toUInt8

def highHalf (halfword : UInt16) : UInt8 := (halfword >>> 8).toUInt8

/-- W_MACMEM on the left of an assignment. -/
def writeHalfword (ram : Ram) (address : Nat) (halfword : UInt16) : Ram := fun other =>
  if other = address then halfword else ram other

/-- address & ~1. Every address of the RAM fits in the u16 that Wifi_MacWriteByte keeps it in. -/
def halfwordOf (address : Nat) : Nat := address - address % 2

def macReadByte (ram : Ram) (address : Nat) : UInt8 :=
  if address % 2 = 1 then highHalf (ram (halfwordOf address)) else lowHalf (ram (halfwordOf address))

def macWriteByte (ram : Ram) (address : Nat) (value : UInt8) : Ram :=
  let addr := halfwordOf address
  if address % 2 = 1 then writeHalfword ram addr ((ram addr &&& (0x00FF : UInt16)) ||| (value.toUInt16 <<< 8))
  else writeHalfword ram addr ((ram addr &&& (0xFF00 : UInt16)) ||| value.toUInt16)

/-- The loop of Wifi_MacWriteBytes, from an even address on. -/
def macWriteHalfwords (ram : Ram) (address : Nat) : List UInt8 → Ram
  | [] => ram
  | [last] => macWriteByte ram address last
  | low :: high :: src =>
      macWriteHalfwords (writeHalfword ram address (low.toUInt16 ||| (high.toUInt16 <<< 8))) (address + 2)
        src

def macWriteBytes (ram : Ram) (address : Nat) : List UInt8 → Ram
  | [] => ram
  | first :: src =>
      if address % 2 = 1 then macWriteHalfwords (macWriteByte ram address first) (address + 1) src
      else macWriteHalfwords ram address (first :: src)

/-! The halves of a halfword. -/

theorem lowMask : ∀ i < 8, (255#16).getLsbD (8 + i) = false ∧ (255#16).getLsbD i = true := by decide

theorem highMask : ∀ i < 8, (65280#16).getLsbD (8 + i) = true ∧ (65280#16).getLsbD i = false := by
  decide

theorem byte_ext {first second : UInt8}
    (same : ∀ i < 8, first.toBitVec.getLsbD i = second.toBitVec.getLsbD i) : first = second :=
  UInt8.toBitVec_inj.mp (BitVec.eq_of_getLsbD_eq same)

section Halves
variable (halfword : UInt16) (low high : UInt8)

theorem lowHalf_bit {i : Nat} (inside : i < 8) :
    (lowHalf halfword).toBitVec.getLsbD i = halfword.toBitVec.getLsbD i := by
  simp [lowHalf, inside]

theorem highHalf_bit {i : Nat} (inside : i < 8) :
    (highHalf halfword).toBitVec.getLsbD i = halfword.toBitVec.getLsbD (8 + i) := by
  simp [highHalf, inside]

theorem wide_bit {i : Nat} (inside : i < 8) :
    low.toUInt16.toBitVec.getLsbD i = low.toBitVec.getLsbD i ∧
      low.toUInt16.toBitVec.getLsbD (8 + i) = false := by
  have short : i < 16 := by omega
  simp [short]

theorem shifted_bit {i : Nat} (inside : i < 8) :
    (high.toUInt16 <<< (8 : UInt16)).toBitVec.getLsbD i = false ∧
      (high.toUInt16 <<< (8 : UInt16)).toBitVec.getLsbD (8 + i) = high.toBitVec.getLsbD i := by
  have short : i < 16 ∧ 8 + i < 16 ∧ ¬ 8 + i < 8 := by omega
  simp [inside, short]

theorem lowHalf_pair : lowHalf (low.toUInt16 ||| (high.toUInt16 <<< 8)) = low := by
  refine byte_ext fun i inside => ?_
  rw [lowHalf_bit _ inside, UInt16.toBitVec_or, BitVec.getLsbD_or, (wide_bit low inside).1,
    (shifted_bit high inside).1, Bool.or_false]

theorem highHalf_pair : highHalf (low.toUInt16 ||| (high.toUInt16 <<< 8)) = high := by
  refine byte_ext fun i inside => ?_
  rw [highHalf_bit _ inside, UInt16.toBitVec_or, BitVec.getLsbD_or, (wide_bit low inside).2,
    (shifted_bit high inside).2, Bool.false_or]

theorem lowHalf_lowWritten : lowHalf ((halfword &&& (0xFF00 : UInt16)) ||| low.toUInt16) = low := by
  refine byte_ext fun i inside => ?_
  have cut : (0xFF00 : UInt16).toBitVec.getLsbD i = false := (highMask i inside).2
  rw [lowHalf_bit _ inside, UInt16.toBitVec_or, BitVec.getLsbD_or, UInt16.toBitVec_and,
    BitVec.getLsbD_and, cut, (wide_bit low inside).1, Bool.and_false, Bool.false_or]

theorem highHalf_lowWritten :
    highHalf ((halfword &&& (0xFF00 : UInt16)) ||| low.toUInt16) = highHalf halfword := by
  refine byte_ext fun i inside => ?_
  have kept : (0xFF00 : UInt16).toBitVec.getLsbD (8 + i) = true := (highMask i inside).1
  rw [highHalf_bit _ inside, highHalf_bit _ inside, UInt16.toBitVec_or, BitVec.getLsbD_or,
    UInt16.toBitVec_and, BitVec.getLsbD_and, kept, (wide_bit low inside).2, Bool.and_true, Bool.or_false]

theorem highHalf_highWritten :
    highHalf ((halfword &&& (0x00FF : UInt16)) ||| (high.toUInt16 <<< 8)) = high := by
  refine byte_ext fun i inside => ?_
  have cut : (0x00FF : UInt16).toBitVec.getLsbD (8 + i) = false := (lowMask i inside).1
  rw [highHalf_bit _ inside, UInt16.toBitVec_or, BitVec.getLsbD_or, UInt16.toBitVec_and,
    BitVec.getLsbD_and, cut, (shifted_bit high inside).2, Bool.and_false, Bool.false_or]

theorem lowHalf_highWritten :
    lowHalf ((halfword &&& (0x00FF : UInt16)) ||| (high.toUInt16 <<< 8)) = lowHalf halfword := by
  refine byte_ext fun i inside => ?_
  have kept : (0x00FF : UInt16).toBitVec.getLsbD i = true := (lowMask i inside).2
  rw [lowHalf_bit _ inside, lowHalf_bit _ inside, UInt16.toBitVec_or, BitVec.getLsbD_or,
    UInt16.toBitVec_and, BitVec.getLsbD_and, kept, (shifted_bit high inside).1, Bool.and_true,
    Bool.or_false]

end Halves

/-! Writing, byte by byte. -/

section Writing
variable (ram : Ram) (address : Nat)

theorem macReadByte_even (even : address % 2 = 0) : macReadByte ram address = lowHalf (ram address) := by
  rw [macReadByte, if_neg (by omega), halfwordOf, even, Nat.sub_zero]

theorem macReadByte_odd (even : address % 2 = 0) :
    macReadByte ram (address + 1) = highHalf (ram address) := by
  have odd : (address + 1) % 2 = 1 := by omega
  rw [macReadByte, if_pos odd, halfwordOf, odd, Nat.add_sub_cancel]

/-- Another byte of the same halfword stays as it was. -/
theorem macReadByte_macWriteByte (value : UInt8) (other : Nat) :
    macReadByte (macWriteByte ram address value) other =
      if other = address then value else macReadByte ram other := by
  by_cases same : other = address
  · subst other
    rw [if_pos rfl]
    by_cases odd : address % 2 = 1
    · simp only [macReadByte, macWriteByte, odd, if_true, writeHalfword]
      exact highHalf_highWritten _ _
    · simp only [macReadByte, macWriteByte, odd, if_false, writeHalfword, if_true]
      exact lowHalf_lowWritten _ _
  · rw [if_neg same]
    by_cases shared : halfwordOf other = halfwordOf address
    · -- two bytes that share a halfword are its low and its high half
      have parity : other % 2 = 1 ↔ ¬ address % 2 = 1 := by
        simp only [halfwordOf] at shared
        omega
      by_cases odd : address % 2 = 1
      · have even : ¬ other % 2 = 1 := fun odd' => parity.mp odd' odd
        simp only [macReadByte, macWriteByte, odd, even, if_true, if_false, writeHalfword, shared]
        exact lowHalf_highWritten _ _
      · have odd' : other % 2 = 1 := parity.mpr odd
        simp only [macReadByte, macWriteByte, odd, odd', if_true, if_false, writeHalfword, shared]
        exact highHalf_lowWritten _ _
    · have apart : (macWriteByte ram address value) (halfwordOf other) = ram (halfwordOf other) := by
        unfold macWriteByte
        split <;> exact if_neg shared
      rw [macReadByte, apart]
      rfl

theorem macReadByte_writeHalfword (even : address % 2 = 0) (low high : UInt8) (other : Nat) :
    macReadByte (writeHalfword ram address (low.toUInt16 ||| (high.toUInt16 <<< 8))) other =
      if other = address then low else if other = address + 1 then high else macReadByte ram other := by
  split
  · subst other
    rw [macReadByte_even _ _ even, writeHalfword, if_pos rfl, lowHalf_pair]
  · split
    · subst other
      rw [macReadByte_odd _ _ even, writeHalfword, if_pos rfl, highHalf_pair]
    · have apart : halfwordOf other ≠ address := by
        simp only [halfwordOf]
        omega
      simp only [macReadByte, writeHalfword, apart, if_false]

/-- What is read at `other` once `src` has been written. -/
def overlaid (src : List UInt8) (other : Nat) : UInt8 :=
  if address ≤ other then (src[other - address]?).getD (macReadByte ram other)
  else macReadByte ram other

theorem overlaid_cons (first : UInt8) (src : List UInt8) (other : Nat) :
    overlaid (macWriteByte ram address first) (address + 1) src other =
      overlaid ram address (first :: src) other := by
  rw [overlaid, overlaid, macReadByte_macWriteByte]
  rcases Nat.lt_trichotomy other address with before | rfl | after
  · rw [if_neg (by omega), if_neg (by omega), if_neg (by omega)]
  · rw [if_neg (by omega), if_pos rfl, if_pos (Nat.le_refl _), Nat.sub_self]
    rfl
  · have next : other - address = other - (address + 1) + 1 := by omega
    rw [if_pos (by omega), if_neg (by omega), if_pos (by omega), next, List.getElem?_cons_succ]

theorem macReadByte_macWriteHalfwords (src : List UInt8) (even : address % 2 = 0) (other : Nat) :
    macReadByte (macWriteHalfwords ram address src) other = overlaid ram address src other := by
  induction ram, address, src using macWriteHalfwords.induct with
  | case1 ram address => simp [macWriteHalfwords, overlaid]
  | case2 ram address last =>
      rw [macWriteHalfwords, ← overlaid_cons, overlaid]
      simp
  | case3 ram address low high src ih =>
      have pair : macReadByte (writeHalfword ram address (low.toUInt16 ||| (high.toUInt16 <<< 8))) =
          macReadByte (macWriteByte (macWriteByte ram address low) (address + 1) high) := by
        funext pos
        rw [macReadByte_writeHalfword _ _ even, macReadByte_macWriteByte, macReadByte_macWriteByte]
        grind
      rw [macWriteHalfwords, ih (by omega), ← overlaid_cons, ← overlaid_cons, overlaid, overlaid, pair]

theorem macReadByte_macWriteBytes (src : List UInt8) (other : Nat) :
    macReadByte (macWriteBytes ram address src) other = overlaid ram address src other := by
  cases src with
  | nil => simp [macWriteBytes, overlaid]
  | cons first src =>
      rw [macWriteBytes]
      split
      · rw [macReadByte_macWriteHalfwords _ _ _ (by omega), overlaid_cons]
      · rw [macReadByte_macWriteHalfwords _ _ _ (by omega)]

/-- Seen byte by byte, the RAM is a memory that can be written at any address. -/
theorem macReadByte_macWriteBytes_eq (src : List UInt8) :
    macReadByte (macWriteBytes ram address src) = ByteMemory.writeBytes (macReadByte ram) address src := by
  funext other
  rw [macReadByte_macWriteBytes, overlaid, ByteMemory.writeBytes, List.getD_eq_getElem?_getD]
  by_cases before : other < address
  · rw [if_neg (by omega), if_neg (by omega)]
  · rw [if_pos (by omega)]
    by_cases inside : other < address + src.length
    · rw [if_pos ⟨by omega, inside⟩, List.getElem?_eq_getElem (by omega), Option.getD_some, Option.getD_some]
    · rw [if_neg (by omega), List.getElem?_eq_none (by omega), Option.getD_none]

/-- The bytes are where they were to be written, and no other byte is changed. -/
theorem macWriteBytes_exact (src : List UInt8) :
    ByteMemory.InPlace (macReadByte (macWriteBytes ram address src)) address src ∧
      ∀ other, other < address ∨ address + src.length ≤ other →
        macReadByte (macWriteBytes ram address src) other = macReadByte ram other := by
  rw [macReadByte_macWriteBytes_eq]
  constructor
  · exact ByteMemory.writeBytes_inPlace (macReadByte ram) address src
  · intro other outside
    have kept := ByteMemory.agree_writeBytes (macReadByte ram) address src other (other + 1) (by omega)
    exact (kept other le_rfl (by omega)).symm

end Writing

end Dswifi.MacRam
