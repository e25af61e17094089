import Mathlib.Logic.Function.Basic
import Mathlib.Order.Lattice

/-! Slots that are looked up by a key from the first to the last. Slots that are
not live keep their key, and are found by it. What is written goes to the first
slot that has its key, or to any slot when none has it, so that the live slots
have different keys. -/

namespace Dswifi.KeyedSlots

universe u v w
variable {Slot : Type u} {Entry : Type v} {Key : Type w} [LinearOrder Slot]

/-- A live slot is the first with its key. -/
def FirstLive (key : Entry → Key) (live : Entry → Prop) (table : Slot → Entry) : Prop :=
  ∀ i, live (table i) → ∀ j < i, key (table j) ≠ key (table i)

/-- Where an entry may be written. -/
def Place (key : Entry → Key) (table : Slot → Entry) (k : Key) (i : Slot) : Prop :=
  (key (table i) = k ∧ ∀ j < i, key (table j) ≠ k) ∨ ∀ j, key (table j) ≠ k

variable {key : Entry → Key} {live : Entry → Prop} {table : Slot → Entry}

theorem FirstLive.unique (first : FirstLive key live table) {i j : Slot} (here : live (table i))
    (there : live (table j)) (same : key (table i) = key (table j)) : i = j := by
  rcases lt_trichotomy i j with before | equal | after
  · exact absurd same (first j there i before)
  · exact equal
  · exact absurd same.symm (first i here j after)

theorem FirstLive.blank (dead : ∀ i, ¬live (table i)) : FirstLive key live table :=
  fun i here => absurd here (dead i)

/-- Some slots stop being live. -/
theorem FirstLive.retire (first : FirstLive key live table) {after : Slot → Entry}
    (keys : ∀ i, key (after i) = key (table i)) (fewer : ∀ i, live (after i) → live (table i)) :
    FirstLive key live after := by
  intro i here j before
  rw [keys, keys]
  exact first i (fewer i here) j before

theorem FirstLive.put (first : FirstLive key live table) {entry : Entry} {i : Slot}
    (place : Place key table (key entry) i) : FirstLive key live (Function.update table i entry) := by
  intro m here j before
  by_cases written : m = i
  · -- no slot before the written one has the key
    subst written
    rw [Function.update_self, Function.update_of_ne (ne_of_lt before)]
    rcases place with ⟨_, none⟩ | none
    · exact none j before
    · exact none j
  · rw [Function.update_of_ne written] at here ⊢
    by_cases earlier : j = i
    · -- a live slot behind the written one has another key
      subst earlier
      rw [Function.update_self]
      intro same
      rcases place with ⟨there, _⟩ | none
      · exact first m here j before (there.trans same)
      · exact none m same.symm
    · rw [Function.update_of_ne earlier]
      exact first m here j before

end Dswifi.KeyedSlots
