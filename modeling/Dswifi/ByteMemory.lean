import Mathlib.Data.List.Basic
import Mathlib.Tactic.IntervalCases

/-! Memory of bytes with little endian 32-bit words. Every lemma speaks of the
bytes a read depends on or a write changes, so that two accesses are told apart
by their bounds alone. -/

namespace Dswifi.ByteMemory

abbrev Memory := Nat → UInt8

def readU32 (mem : Memory) (pos : Nat) : Nat :=
  (mem pos).toNat + (mem (pos + 1)).toNat * 256 + (mem (pos + 2)).toNat * 65536 +
    (mem (pos + 3)).toNat * 16777216

def writeU8 (mem : Memory) (pos : Nat) (value : UInt8) : Memory :=
  fun i => if i = pos then value else mem i

def writeU32 (mem : Memory) (pos value : Nat) : Memory :=
  fun i => if pos ≤ i ∧ i < pos + 4 then UInt8.ofNat (value / 256 ^ (i - pos)) else mem i

def readBytes (mem : Memory) (pos length : Nat) : List UInt8 :=
  (List.range' pos length).map mem

/-- The two memories are the same from `low` up to `high`. -/
def Agree (first second : Memory) (low high : Nat) : Prop :=
  ∀ i, low ≤ i → i < high → first i = second i

namespace Agree

theorem refl (mem : Memory) (low high : Nat) : Agree mem mem low high := fun _ _ _ => rfl

theorem mono {first second : Memory} {low high low' high' : Nat}
    (same : Agree first second low high) (lower : low ≤ low') (upper : high' ≤ high) :
    Agree first second low' high' :=
  fun i above below => same i (by omega) (by omega)

theorem trans {first second third : Memory} {low high : Nat}
    (before : Agree first second low high) (after : Agree second third low high) :
    Agree first third low high :=
  fun i above below => (before i above below).trans (after i above below)

theorem readU32 {first second : Memory} {low high : Nat} (same : Agree first second low high)
    (pos : Nat) (lower : low ≤ pos) (upper : pos + 4 ≤ high) :
    readU32 first pos = readU32 second pos := by
  unfold ByteMemory.readU32
  rw [same pos (by omega) (by omega), same (pos + 1) (by omega) (by omega),
    same (pos + 2) (by omega) (by omega), same (pos + 3) (by omega) (by omega)]

theorem readBytes {first second : Memory} {low high : Nat} (same : Agree first second low high)
    (pos length : Nat) (lower : low ≤ pos) (upper : pos + length ≤ high) :
    readBytes first pos length = readBytes second pos length := by
  apply List.map_congr_left
  intro i member
  have inside := List.mem_range'_1.mp member
  exact same i (by omega) (by omega)

end Agree

theorem agree_writeU8 (mem : Memory) (pos : Nat) (value : UInt8) (low high : Nat)
    (apart : high ≤ pos ∨ pos < low) : Agree mem (writeU8 mem pos value) low high := by
  intro i above below
  have distinct : i ≠ pos := by omega
  simp [writeU8, distinct]

theorem agree_writeU32 (mem : Memory) (pos value low high : Nat)
    (apart : high ≤ pos ∨ pos + 4 ≤ low) : Agree mem (writeU32 mem pos value) low high := by
  intro i above below
  have distinct : ¬(pos ≤ i ∧ i < pos + 4) := by omega
  simp [writeU32, distinct]

theorem readU32_writeU32 (mem : Memory) (pos value : Nat) (fits : value < 4294967296) :
    readU32 (writeU32 mem pos value) pos = value := by
  simp only [readU32, writeU32, Nat.le_refl, Nat.le_add_right, Nat.add_lt_add_iff_left,
    Nat.add_sub_cancel_left, Nat.sub_self]
  norm_num
  omega

theorem readU32_lt (mem : Memory) (pos : Nat) : readU32 mem pos < 4294967296 := by
  have b0 := (mem pos).toNat_lt
  have b1 := (mem (pos + 1)).toNat_lt
  have b2 := (mem (pos + 2)).toNat_lt
  have b3 := (mem (pos + 3)).toNat_lt
  unfold readU32
  omega

@[simp] theorem readBytes_length (mem : Memory) (pos length : Nat) :
    (readBytes mem pos length).length = length := by
  simp [readBytes]

@[simp] theorem readBytes_zero (mem : Memory) (pos : Nat) : readBytes mem pos 0 = [] := rfl

theorem readBytes_succ (mem : Memory) (pos length : Nat) :
    readBytes mem pos (length + 1) = readBytes mem pos length ++ [mem (pos + length)] := by
  simp [readBytes, List.range'_concat]

theorem readBytes_append (mem : Memory) (pos first second : Nat) :
    readBytes mem pos (first + second) = readBytes mem pos first ++ readBytes mem (pos + first) second := by
  rw [readBytes, readBytes, readBytes, ← List.map_append, List.range'_append_1]

/-- The text is in the memory, from `pos` on. -/
def InPlace (mem : Memory) (pos : Nat) (text : List UInt8) : Prop := readBytes mem pos text.length = text

instance (mem : Memory) (pos : Nat) (text : List UInt8) : Decidable (InPlace mem pos text) :=
  inferInstanceAs (Decidable (_ = _))

theorem inPlace_append {mem : Memory} {pos : Nat} {first second : List UInt8} :
    InPlace mem pos (first ++ second) ↔ InPlace mem pos first ∧ InPlace mem (pos + first.length) second := by
  unfold InPlace
  rw [List.length_append, readBytes_append]
  constructor
  · intro same
    exact List.append_inj same (readBytes_length ..)
  · rintro ⟨before, after⟩
    rw [before, after]

theorem InPlace.byte {mem : Memory} {pos : Nat} {text : List UInt8} (there : InPlace mem pos text) {i : Nat}
    (inside : i < text.length) : mem (pos + i) = text[i] := by
  have same := List.getElem_of_eq there (by simpa using inside)
  rw [← same]
  simp [readBytes]

theorem InPlace.take {mem : Memory} {pos : Nat} {text : List UInt8} (there : InPlace mem pos text) (n : Nat) :
    InPlace mem pos (text.take n) :=
  (inPlace_append.mp (by rwa [List.take_append_drop])).1

theorem InPlace.drop {mem : Memory} {pos : Nat} {text : List UInt8} (there : InPlace mem pos text) {n : Nat}
    (inside : n ≤ text.length) : InPlace mem (pos + n) (text.drop n) := by
  have after := (inPlace_append.mp (by rwa [List.take_append_drop n text])).2
  rwa [List.length_take, Nat.min_eq_left inside] at after

theorem InPlace.readBytes_eq {mem : Memory} {pos : Nat} {text : List UInt8} (there : InPlace mem pos text) {n : Nat}
    (inside : n ≤ text.length) : readBytes mem pos n = text.take n := by
  have front := there.take n
  rwa [InPlace, List.length_take, Nat.min_eq_left inside] at front

/-- memcpy into the memory. -/
def writeBytes (mem : Memory) (pos : Nat) (text : List UInt8) : Memory :=
  fun i => if pos ≤ i ∧ i < pos + text.length then text.getD (i - pos) 0 else mem i

theorem writeBytes_inPlace (mem : Memory) (pos : Nat) (text : List UInt8) :
    InPlace (writeBytes mem pos text) pos text := by
  refine List.ext_getElem (by simp) fun i _ inside => ?_
  simp [readBytes, writeBytes, inside]

theorem writeBytes_append (mem : Memory) (pos : Nat) (first second : List UInt8) :
    writeBytes (writeBytes mem pos first) (pos + first.length) second = writeBytes mem pos (first ++ second) := by
  funext i
  simp only [writeBytes, List.length_append, List.getD_eq_getElem?_getD, List.getElem?_append]
  grind

theorem agree_writeBytes (mem : Memory) (pos : Nat) (text : List UInt8) (low high : Nat)
    (apart : high ≤ pos ∨ pos + text.length ≤ low) : Agree mem (writeBytes mem pos text) low high := by
  intro i above below
  have distinct : ¬(pos ≤ i ∧ i < pos + text.length) := by omega
  simp [writeBytes, distinct]

/-- What is in place stays so in a memory that agrees on its bytes. -/
theorem InPlace.agree {first second : Memory} {pos : Nat} {text : List UInt8} (there : InPlace first pos text)
    (same : Agree first second pos (pos + text.length)) : InPlace second pos text :=
  (same.readBytes pos text.length le_rfl le_rfl).symm.trans there

theorem InPlace.writeBytes {mem : Memory} {pos : Nat} {text : List UInt8} (there : InPlace mem pos text)
    {other : Nat} {more : List UInt8} (apart : pos + text.length ≤ other ∨ other + more.length ≤ pos) :
    InPlace (writeBytes mem other more) pos text :=
  there.agree (agree_writeBytes mem other more _ _ apart)

theorem InPlace.writeU32 {mem : Memory} {pos : Nat} {text : List UInt8} (there : InPlace mem pos text)
    {other value : Nat} (apart : pos + text.length ≤ other ∨ other + 4 ≤ pos) :
    InPlace (writeU32 mem other value) pos text :=
  there.agree (agree_writeU32 mem other value _ _ apart)

/-- Writing the byte after a stretch that is already in place extends it. -/
theorem readBytes_writeU8 (mem : Memory) (pos : Nat) (data : List UInt8) (done : Nat)
    (inside : done < data.length) (before : readBytes mem pos done = data.take done) :
    readBytes (writeU8 mem (pos + done) data[done]) pos (done + 1) = data.take (done + 1) := by
  rw [readBytes_succ, List.take_succ_eq_append_getElem inside, ← before]
  have same := (agree_writeU8 mem (pos + done) data[done] pos (pos + done) (.inl le_rfl)).readBytes
    pos done le_rfl le_rfl
  rw [← same]
  simp [writeU8]

end Dswifi.ByteMemory
