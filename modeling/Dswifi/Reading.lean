import Dswifi.ByteMemory

/-! Computations that read a memory and change nothing. What one reads depends on
what it has read, and the places it looks at are part of its meaning, so that a
bound on them is a statement about the computation. -/

namespace Dswifi

open ByteMemory

universe u v

/-- The result, and every place looked at. -/
def Reading (α : Type u) := Memory → α × List Nat

namespace Reading
variable {α : Type u} {β : Type v}

def value (reading : Reading α) (mem : Memory) : α := (reading mem).1

def places (reading : Reading α) (mem : Memory) : List Nat := (reading mem).2

instance : Monad Reading where
  pure a := fun _ => (a, [])
  bind first next := fun mem =>
    ((next (first mem).1 mem).1, (first mem).2 ++ (next (first mem).1 mem).2)

/-- The byte at a place. -/
def byte (pos : Nat) : Reading UInt8 := fun mem => (mem pos, [pos])

/-- A stretch of bytes, copied one after the other. -/
def bytes (pos length : Nat) : Reading (List UInt8) :=
  fun mem => (readBytes mem pos length, List.range' pos length)

/-- Whether a text is at a place. This is for comparisons that the code makes byte by byte,
which end at the first difference. -/
def startsWith : List UInt8 → Nat → Reading Bool
  | [], _ => pure true
  | expected :: rest, pos => do
      if (← byte pos) = expected then startsWith rest (pos + 1) else pure false

/-- Whether memcmp finds a text at a place. It may look at every byte, wherever the first
difference is, and here it always does. -/
def memcmpEqual (text : List UInt8) (pos : Nat) : Reading Bool := do
  let there ← bytes pos text.length
  pure (decide (there = text))

/-- Whether one of so many bytes passes a test; they are tested until the first that does. -/
def anyByte (test : UInt8 → Bool) : Nat → Nat → Reading Bool
  | 0, _ => pure false
  | more + 1, pos => do
      if test (← byte pos) then pure true else anyByte test more (pos + 1)

/-- Everything looked at is below `limit`. -/
def Within (limit : Nat) (reading : Reading α) (mem : Memory) : Prop :=
  ∀ pos ∈ reading.places mem, pos < limit

theorem Within.mono {mem : Memory} {limit more : Nat} {reading : Reading α} (within : Within limit reading mem)
    (below : limit ≤ more) : Within more reading mem :=
  fun pos member => Nat.lt_of_lt_of_le (within pos member) below

section Rules
variable {mem : Memory} {limit : Nat}

@[simp] theorem value_pure (a : α) : (pure a : Reading α).value mem = a := rfl

@[simp] theorem value_bind {α β : Type u} (first : Reading α) (next : α → Reading β) :
    (first >>= next).value mem = (next (first.value mem)).value mem := rfl

@[simp] theorem value_byte (pos : Nat) : (byte pos).value mem = mem pos := rfl

@[simp] theorem value_bytes (pos length : Nat) :
    (bytes pos length).value mem = readBytes mem pos length := rfl

/-- What follows matters for what was read only. -/
theorem bind_congr {α β : Type u} {first : Reading α} {next other : α → Reading β}
    (same : next (first.value mem) mem = other (first.value mem) mem) :
    (first >>= next) mem = (first >>= other) mem := by
  change ((next (first.value mem) mem).1, _ ++ (next (first.value mem) mem).2) = _
  rw [same]
  rfl

theorem bind_congr_first {α β : Type u} {first other : Reading α} {next : α → Reading β}
    (same : first mem = other mem) : (first >>= next) mem = (other >>= next) mem := by
  change ((next (first mem).1 mem).1, (first mem).2 ++ (next (first mem).1 mem).2) = _
  rw [same]
  rfl

@[simp] theorem within_pure (a : α) : Within limit (pure a : Reading α) mem := nofun

@[simp] theorem within_bind {α β : Type u} (first : Reading α) (next : α → Reading β) :
    Within limit (first >>= next) mem ↔
      Within limit first mem ∧ Within limit (next (first.value mem)) mem :=
  List.forall_mem_append

/-- What is read under a condition only. -/
theorem within_guard {guarded : Prop} [Decidable guarded] (reading : Reading α) (a : α) :
    Within limit (if guarded then reading else pure a) mem ↔ (guarded → Within limit reading mem) := by
  split
  · rename_i holds
    exact ⟨fun inside _ => inside, fun inside => inside holds⟩
  · rename_i not
    exact iff_of_true (within_pure a) fun holds => absurd holds not

@[simp] theorem within_byte (pos : Nat) : Within limit (byte pos) mem ↔ pos < limit := by
  simp [Within, places, byte]

@[simp] theorem within_bytes (pos length : Nat) :
    Within limit (bytes pos length) mem ↔ length = 0 ∨ pos + length ≤ limit := by
  simp only [Within, places, bytes, List.mem_range'_1]
  constructor
  · intro all
    rcases Nat.eq_zero_or_pos length with none | some
    · exact .inl none
    · have last := all (pos + (length - 1)) (by omega)
      omega
  · intro inside other member
    omega

/-- A loop that goes on as long as its places let it is at its first place, and if that lets
it go on, at the places of the loop behind it. -/
theorem upTo_succ {goes inside : Nat → Prop} {count : Nat} :
    (∀ i < count + 1, (∀ k < i, goes k) → inside i) ↔
      inside 0 ∧ (goes 0 → ∀ i < count, (∀ k < i, goes (k + 1)) → inside (i + 1)) := by
  constructor
  · intro all
    refine ⟨all 0 (Nat.succ_pos _) fun k small => absurd small (Nat.not_lt_zero k),
      fun first i below before => ?_⟩
    refine all (i + 1) (Nat.succ_lt_succ below) fun k small => ?_
    cases k with
    | zero => exact first
    | succ k => exact before k (Nat.lt_of_succ_lt_succ small)
  · rintro ⟨first, later⟩ i below before
    cases i with
    | zero => exact first
    | succ i =>
        exact later (before 0 (Nat.succ_pos _)) i (Nat.lt_of_succ_lt_succ below) fun k small =>
          before (k + 1) (Nat.succ_lt_succ small)

theorem readBytes_cons (mem : Memory) (pos length : Nat) :
    readBytes mem pos (length + 1) = mem pos :: readBytes mem (pos + 1) length := by
  simp [readBytes, List.range'_succ]

@[simp] theorem value_startsWith (text : List UInt8) (pos : Nat) :
    (startsWith text pos).value mem = decide (readBytes mem pos text.length = text) := by
  induction text generalizing pos with
  | nil => rfl
  | cons expected rest ih =>
      rw [startsWith, value_bind, List.length_cons, readBytes_cons]
      by_cases same : mem pos = expected
      · simp [same, ih]
      · simp [same]

@[simp] theorem value_memcmpEqual (text : List UInt8) (pos : Nat) :
    (memcmpEqual text pos).value mem = decide (readBytes mem pos text.length = text) := rfl

@[simp] theorem within_memcmpEqual (text : List UInt8) (pos : Nat) :
    Within limit (memcmpEqual text pos) mem ↔ text.length = 0 ∨ pos + text.length ≤ limit := by
  rw [memcmpEqual, within_bind, within_bytes, and_iff_left (within_pure _)]

/-- A comparison looks at the byte after every stretch that agrees. -/
@[simp] theorem within_startsWith (text : List UInt8) (pos : Nat) :
    Within limit (startsWith text pos) mem ↔
      ∀ i < text.length, readBytes mem pos i = text.take i → pos + i < limit := by
  induction text generalizing pos with
  | nil => simp [startsWith]
  | cons expected rest ih =>
      rw [startsWith, within_bind, within_byte, value_byte]
      constructor
      · rintro ⟨first, later⟩ i below agree
        cases i with
        | zero => exact first
        | succ i =>
            rw [readBytes_cons, List.take_succ_cons, List.cons.injEq] at agree
            rw [if_pos agree.1, ih] at later
            have inside := later i (Nat.lt_of_succ_lt_succ below) agree.2
            omega
      · intro all
        refine ⟨all 0 (Nat.succ_pos _) rfl, ?_⟩
        by_cases same : mem pos = expected
        · rw [if_pos same, ih]
          intro i below agree
          have inside := all (i + 1) (Nat.succ_lt_succ below) (by
            rw [readBytes_cons, List.take_succ_cons, agree, same])
          omega
        · rw [if_neg same]
          exact within_pure _

theorem value_anyByte (test : UInt8 → Bool) (length pos : Nat) :
    (anyByte test length pos).value mem = true ↔ ∃ i < length, test (mem (pos + i)) = true := by
  induction length generalizing pos with
  | zero => simp [anyByte]
  | succ length ih =>
      rw [anyByte, value_bind, value_byte]
      by_cases passes : test (mem pos) = true
      · rw [if_pos passes]
        exact ⟨fun _ => ⟨0, Nat.succ_pos _, passes⟩, fun _ => rfl⟩
      · rw [if_neg passes, ih]
        constructor
        · rintro ⟨i, below, here⟩
          exact ⟨i + 1, Nat.succ_lt_succ below, by rwa [← Nat.add_assoc, Nat.add_right_comm]⟩
        · rintro ⟨i, below, here⟩
          cases i with
          | zero => exact absurd here passes
          | succ i => exact ⟨i, Nat.lt_of_succ_lt_succ below, by rwa [Nat.add_right_comm, Nat.add_assoc]⟩

/-- A search looks at the bytes up to the first that passes. -/
theorem within_anyByte (test : UInt8 → Bool) (length pos : Nat) :
    Within limit (anyByte test length pos) mem ↔
      ∀ i < length, (∀ k < i, test (mem (pos + k)) = false) → pos + i < limit := by
  induction length generalizing pos with
  | zero => simp [anyByte]
  | succ length ih =>
      have shift (k : Nat) : pos + 1 + k = pos + (k + 1) := by omega
      rw [anyByte, within_bind, within_byte, value_byte, upTo_succ]
      refine and_congr_right fun _ => ?_
      cases passes : test (mem pos) with
      | true => simp
      | false => simp [ih, shift]

/-- A search through a text that is in place stays in it, unless nothing is found and it
is to go on behind the text. -/
theorem anyByte_inPlace (test : UInt8 → Bool) (length : Nat) {text : List UInt8} {pos : Nat}
    (there : InPlace mem pos text) :
    (Within (pos + text.length) (anyByte test length pos) mem ↔
      ((text.take length).any test = false → length ≤ text.length)) ∧
    (((text.take length).any test = false → length ≤ text.length) →
      (anyByte test length pos).value mem = (text.take length).any test) := by
  induction length generalizing pos text with
  | zero => simp [anyByte]
  | succ length ih =>
      rw [anyByte, within_bind, within_byte, value_bind, value_byte]
      cases text with
      | nil => simp
      | cons first rest =>
          have here : mem pos = first := there.byte (Nat.succ_pos _)
          have behind : InPlace mem (pos + 1) rest := there.drop (Nat.succ_pos _)
          obtain ⟨within, value⟩ := ih behind
          have ends : pos + 1 + rest.length = pos + (rest.length + 1) := by omega
          rw [ends] at within
          rw [here, List.take_succ_cons, List.any_cons, List.length_cons]
          cases passes : test first with
          | true => simp
          | false =>
              simp only [Bool.false_or, Nat.add_le_add_iff_right]
              refine ⟨?_, value⟩
              rw [← within]
              simp

/-- A search that stays inside finds what is there to be found. -/
theorem search_inside {test : UInt8 → Bool} {length pos : Nat} {part : Nat → Option UInt8}
    (same : ∀ i < limit, part i = some (mem i))
    (inside : ∀ i < length, (∀ k < i, test (mem (pos + k)) = false) → pos + i < limit) :
    (∃ i < length, test (mem (pos + i)) = true) ↔ ∃ i < length, (part (pos + i)).any test = true := by
  have agree (i : Nat) (below : i < length) (before : ∀ k < i, test (mem (pos + k)) = false) :
      (part (pos + i)).any test = test (mem (pos + i)) := by
    rw [same _ (inside i below before), Option.any_some]
  constructor
  · rintro ⟨i, below, passes⟩
    by_contra none
    -- the bytes of the memory are seen one after the other, and none of them passes
    have fails (k : Nat) : k ≤ i → test (mem (pos + k)) = false := by
      induction k using Nat.strong_induction_on with
      | _ k ih =>
          intro reached
          have below' : k < length := Nat.lt_of_le_of_lt reached below
          have before : ∀ m < k, test (mem (pos + m)) = false := fun m small => ih m small (by omega)
          rw [← agree k below' before]
          exact eq_false_of_ne_true fun passes => none ⟨k, below', passes⟩
    rw [fails i le_rfl] at passes
    cases passes
  · rintro ⟨i, below, passes⟩
    by_contra none
    have fails (k : Nat) (small : k < length) : test (mem (pos + k)) = false :=
      eq_false_of_ne_true fun passes => none ⟨k, small, passes⟩
    rw [agree i below fun k small => fails k (Nat.lt_trans small below), fails i below] at passes
    cases passes

end Rules

end Reading

end Dswifi
