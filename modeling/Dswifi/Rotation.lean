import Mathlib.Data.List.Basic

/-! Turns that go round. In a round `n` slots are asked one after the other, from the one
behind the slot that had the last turn, until one of them takes the turn. Asking a slot may
change the state although the slot declines. -/

namespace Dswifi.Rotation

universe u
variable {State : Type u} (ask : State → Nat → State × Bool)

/-- The slots in the order of the round after the turn of `last`. -/
def order (n last : Nat) : List Nat := (List.range n).map fun i => (last + 1 + i) % n

/-- The slot that takes the turn, and the state in which it is asked. -/
def taken : List Nat → State → Option (Nat × State)
  | [], _ => none
  | slot :: rest, state =>
    if (ask state slot).2 then some (slot, state) else taken rest (ask state slot).1

/-- The state in which the round comes to `target`, if no slot before it takes the turn. -/
def comesTo (target : Nat) : List Nat → State → Option State
  | [], _ => none
  | slot :: rest, state =>
    if slot = target then some state
    else if (ask state slot).2 then none
    else comesTo target rest (ask state slot).1

/-- What the slots that decline leave. -/
def declined (slots : List Nat) (state : State) : State :=
  slots.foldl (fun state slot => (ask state slot).1) state

/-- `target` takes the turn when the round comes to it. -/
def Ready (target : Nat) (slots : List Nat) (start : State) : Prop :=
  ∀ state, comesTo ask target slots start = some state → (ask state target).2 = true

variable {ask}

section Rules
variable {kept : State → Prop} {slots : List Nat} {start : State}

/-- What every slot keeps that declines, holds when a slot is asked that takes the turn. -/
theorem taken_invariant (stays : ∀ state slot, kept state → (ask state slot).2 = false → kept (ask state slot).1)
    {slot : Nat} {asked : State} (turn : taken ask slots start = some (slot, asked)) (initial : kept start) :
    kept asked ∧ (ask asked slot).2 = true := by
  induction slots generalizing start with
  | nil => cases turn
  | cons first rest ih =>
      rw [taken] at turn
      cases takes : (ask start first).2 with
      | true =>
          rw [if_pos takes] at turn
          cases turn
          exact ⟨initial, takes⟩
      | false =>
          rw [if_neg (by simp [takes])] at turn
          exact ih turn (stays start first initial takes)

theorem declined_invariant (stays : ∀ state slot, kept state → (ask state slot).2 = false → kept (ask state slot).1)
    (nobody : taken ask slots start = none) (initial : kept start) : kept (declined ask slots start) := by
  induction slots generalizing start with
  | nil => exact initial
  | cons first rest ih =>
      rw [taken] at nobody
      cases takes : (ask start first).2 with
      | true =>
          rw [if_pos takes] at nobody
          cases nobody
      | false =>
          rw [if_neg (by simp [takes])] at nobody
          exact ih nobody (stays start first initial takes)

/-- What the other slots keep, holds when the round comes to `target`. -/
theorem comesTo_invariant {target : Nat} (stays : ∀ state slot, slot ≠ target → kept state →
      (ask state slot).2 = false → kept (ask state slot).1)
    {asked : State} (comes : comesTo ask target slots start = some asked) (initial : kept start) : kept asked := by
  induction slots generalizing start with
  | nil => cases comes
  | cons first rest ih =>
      rw [comesTo] at comes
      by_cases same : first = target
      · rw [if_pos same] at comes
        cases comes
        exact initial
      · rw [if_neg same] at comes
        cases takes : (ask start first).2 with
        | true =>
            rw [if_pos takes] at comes
            cases comes
        | false =>
            rw [if_neg (by simp [takes])] at comes
            exact ih comes (stays start first same initial takes)

end Rules

/-- A slot that is ready lets none behind it have the turn. -/
theorem taken_before {target : Nat} {slots : List Nat} {start : State} {i : Nat}
    (there : slots[i]? = some target) (ready : Ready ask target slots start) :
    ∃ slot asked, taken ask slots start = some (slot, asked) ∧ ∃ place ≤ i, slots[place]? = some slot := by
  induction slots generalizing start i with
  | nil => cases there
  | cons slot rest ih =>
      by_cases takes : (ask start slot).2 = true
      · exact ⟨slot, start, by rw [taken, if_pos takes], 0, Nat.zero_le i, rfl⟩
      · have other : slot ≠ target := by
          rintro rfl
          exact takes (ready start (by rw [comesTo, if_pos rfl]))
        cases i with
        | zero => exact absurd (Option.some.inj there) other
        | succ i =>
            have behind : Ready ask target rest (ask start slot).1 := by
              intro state comes
              refine ready state ?_
              rwa [comesTo, if_neg other, if_neg takes]
            obtain ⟨next, asked, turn, place, below, found⟩ := ih (i := i) (by simpa using there) behind
            exact ⟨next, asked, by rw [taken, if_neg takes, turn], place + 1, Nat.succ_le_succ below,
              by simpa using found⟩

/-- After the turn of `last`, at most `k` slots are asked before `target`. -/
def Within (n last target k : Nat) : Prop := ∃ i ≤ k, i < n ∧ (last + 1 + i) % n = target

theorem within_all {n target : Nat} (slot : target < n) (last : Nat) : Within n last target (n - 1) := by
  have small := Nat.mod_lt (last + 1) (Nat.zero_lt_of_lt slot)
  by_cases passed : (last + 1) % n ≤ target
  · refine ⟨target - (last + 1) % n, by omega, by omega, ?_⟩
    rw [Nat.add_mod, Nat.mod_eq_of_lt (show target - (last + 1) % n < n by omega),
      Nat.add_sub_cancel' passed, Nat.mod_eq_of_lt slot]
  · refine ⟨target + n - (last + 1) % n, by omega, by omega, ?_⟩
    rw [Nat.add_mod, Nat.mod_eq_of_lt (show target + n - (last + 1) % n < n by omega),
      Nat.add_sub_cancel' (by omega), Nat.add_mod_right, Nat.mod_eq_of_lt slot]

theorem order_place {n last place slot : Nat} (found : (order n last)[place]? = some slot) :
    place < n ∧ (last + 1 + place) % n = slot := by
  simp only [order, List.getElem?_map, Option.map_eq_some_iff, List.getElem?_eq_some_iff,
    List.getElem_range, List.length_range] at found
  obtain ⟨_, ⟨below, rfl⟩, same⟩ := found
  exact ⟨below, same⟩

theorem order_at {n last i : Nat} (below : i < n) : (order n last)[i]? = some ((last + 1 + i) % n) := by
  simp [order, below]

/-- In a round in which `target` is ready some slot takes the turn: `target`, or one that
leaves fewer slots before it. -/
theorem taken_within {n last target k : Nat} {start : State} (near : Within n last target k)
    (ready : Ready ask target (order n last) start) :
    ∃ slot asked, taken ask (order n last) start = some (slot, asked) ∧
      (slot = target ∨ ∃ less, less < k ∧ Within n slot target less) := by
  obtain ⟨i, small, below, same⟩ := near
  obtain ⟨slot, asked, turn, place, before, found⟩ :=
    taken_before ((order_at below).trans (congrArg some same)) ready
  obtain ⟨inside, here⟩ := order_place found
  refine ⟨slot, asked, turn, ?_⟩
  rcases Nat.eq_or_lt_of_le before with equal | earlier
  · subst equal
    exact .inl (here.symm.trans same)
  · refine .inr ⟨i - place - 1, by omega, i - place - 1, Nat.le_refl _, by omega, ?_⟩
    rw [← here, Nat.add_assoc, Nat.mod_add_mod, ← same]
    congr 1
    omega

end Dswifi.Rotation
