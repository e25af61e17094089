import Dswifi.Runs
import Dswifi.ShiftRegister

/-! The random generators of source/common/random.c. Each CPU has a xorshift register of
its own in the memory they share, and entropy is mixed into both. A register that holds
zero would give zeros from then on. -/

namespace Dswifi.Random

open Runs ShiftRegister

inductive Cpu where
  | arm7
  | arm9
  deriving DecidableEq, Repr

/-- hardware_rng_seed, random7 and random9 of Wifi_MainStruct. -/
structure Generators where
  hardwareRngSeed : BitVec 32
  random7 : BitVec 32
  random9 : BitVec 32
  deriving DecidableEq, Repr

/-- How one of the registers takes in the seed. -/
def reseeded (random seed : BitVec 32) : BitVec 32 :=
  let random := random ^^^ seed
  if random = 0 then random - 1 else random

/-- Wifi_RandomAddEntropy. A shift of a BitVec by 32 gives 0, as the ARM's do. -/
def wifiRandomAddEntropy (data : Generators) (value : BitVec 32) : Generators :=
  let shift := (data.hardwareRngSeed + value) &&& 31
  let seed := data.hardwareRngSeed ^^^ (value <<< shift ||| value >>> (32 - shift))
  { hardwareRngSeed := seed
    random7 := reseeded data.random7 seed
    random9 := reseeded data.random9 seed }

def xorshift32 (x : BitVec 32) : BitVec 32 :=
  let x := x ^^^ x <<< 13
  let x := x ^^^ x >>> 17
  x ^^^ x <<< 5

/-- Wifi_Random, as it is built for each CPU, with the number it returns. -/
def wifiRandom (data : Generators) : Cpu → BitVec 32 × Generators
  | .arm7 =>
      let x := xorshift32 data.random7
      (x, { data with random7 := x })
  | .arm9 =>
      let x := xorshift32 data.random9
      (x, { data with random9 := x })

inductive Action where
  | addEntropy (value : BitVec 32)
  | random (cpu : Cpu)

def step (data : Generators) : Action → Generators
  | .addEntropy value => wifiRandomAddEntropy data value
  | .random cpu => (wifiRandom data cpu).2

/-- The number that the action returns. -/
def drawn (data : Generators) : Action → Option (BitVec 32)
  | .addEntropy _ => none
  | .random cpu => some (wifiRandom data cpu).1

/-- "They must never be set to zero." -/
def Seeded (data : Generators) : Prop := data.random7 ≠ 0 ∧ data.random9 ≠ 0

theorem xorshift32_eq_zero_iff (x : BitVec 32) : xorshift32 x = 0 ↔ x = 0 := by
  unfold xorshift32
  rw [xor_shiftLeft_eq_zero_iff (by decide), xor_ushiftRight_eq_zero_iff (by decide),
    xor_shiftLeft_eq_zero_iff (by decide)]

-- The seed may cancel what is in the register. This is what the decrement is for.
theorem reseeded_ne_zero (random seed : BitVec 32) : reseeded random seed ≠ 0 := by
  by_cases cancelled : random ^^^ seed = 0
  · rw [reseeded, if_pos cancelled, cancelled]
    decide
  · rw [reseeded, if_neg cancelled]
    exact cancelled

/-- Whatever was there before. -/
theorem seeded_addEntropy (data : Generators) (value : BitVec 32) : Seeded (wifiRandomAddEntropy data value) :=
  ⟨reseeded_ne_zero _ _, reseeded_ne_zero _ _⟩

theorem Seeded.random {data : Generators} (seeded : Seeded data) (cpu : Cpu) : Seeded (wifiRandom data cpu).2 := by
  obtain ⟨seeded7, seeded9⟩ := seeded
  cases cpu with
  | arm7 => exact ⟨(xorshift32_eq_zero_iff data.random7).not.mpr seeded7, seeded9⟩
  | arm9 => exact ⟨seeded7, (xorshift32_eq_zero_iff data.random9).not.mpr seeded9⟩

theorem Seeded.step {data : Generators} (seeded : Seeded data) (action : Action) : Seeded (step data action) := by
  cases action with
  | addEntropy value => exact seeded_addEntropy data value
  | random cpu => exact seeded.random cpu

theorem Seeded.drawn_ne_zero {data : Generators} (seeded : Seeded data) {action : Action} {number : BitVec 32}
    (draws : drawn data action = some number) : number ≠ 0 := by
  cases action with
  | addEntropy value => cases draws
  | random cpu =>
      cases draws
      -- the number is what the register of the CPU holds afterwards
      have after := seeded.random cpu
      cases cpu with
      | arm7 => exact after.1
      | arm9 => exact after.2

/-- From the first entropy on, no register is ever zero and no zero is ever drawn. -/
theorem generators_never_zero (data : Generators) (value : BitVec 32) (actions : List Action) :
    Always step Seeded (wifiRandomAddEntropy data value) actions ∧
      EachStep step (fun data action => ∀ number, drawn data action = some number → number ≠ 0)
        (wifiRandomAddEntropy data value) actions := by
  have first := seeded_addEntropy data value
  have kept : ∀ data action, Seeded data → Seeded (step data action) := fun _ action seeded => seeded.step action
  refine ⟨⟨first, each_step_of_invariant kept kept _ actions first⟩, ?_⟩
  apply each_step_of_invariant kept
  · intro data action seeded number draws
    exact seeded.drawn_ne_zero draws
  · exact first

end Dswifi.Random
