import Mathlib.Data.List.Basic
import Mathlib.Logic.Function.Basic

/-! Runs of a deterministic transition system, given by a total step function.
A property of a step may look at the state it is taken from and at the action;
the state it leads to is `step state action`. Nothing here is about a
particular system: the rules say how a step lemma becomes a run lemma. -/

namespace Dswifi.Runs

universe u v
variable {State : Type u} {Action : Type v}

def run (step : State → Action → State) (start : State) (actions : List Action) : State :=
  actions.foldl step start

/-- `property` holds of every step of the run. -/
def EachStep (step : State → Action → State) (property : State → Action → Prop) :
    State → List Action → Prop
  | _, [] => True
  | state, action :: rest =>
      property state action ∧ EachStep step property (step state action) rest

instance EachStep.decidable (step : State → Action → State) (property : State → Action → Prop)
    [∀ state action, Decidable (property state action)] :
    (start : State) → (actions : List Action) → Decidable (EachStep step property start actions)
  | _, [] => isTrue trivial
  | state, action :: rest =>
      have := EachStep.decidable step property (step state action) rest
      inferInstanceAs (Decidable (property state action ∧ _))

/-- `property` holds in the first state and in every state the run reaches. -/
def Always (step : State → Action → State) (property : State → Prop)
    (start : State) (actions : List Action) : Prop :=
  property start ∧ EachStep step (fun state action => property (step state action)) start actions

/-- `property` holds of some step of the run. -/
def SomeStep (step : State → Action → State) (property : State → Action → Prop) :
    State → List Action → Prop
  | _, [] => False
  | state, action :: rest =>
      property state action ∨ SomeStep step property (step state action) rest

/-- How many steps of the run are counted. -/
def countSteps (step : State → Action → State) (counted : State → Action → Bool) :
    State → List Action → Nat
  | _, [] => 0
  | state, action :: rest =>
      countSteps step counted (step state action) rest + if counted state action then 1 else 0

@[simp] theorem run_nil (step : State → Action → State) (start : State) :
    run step start [] = start := rfl

@[simp] theorem run_cons (step : State → Action → State) (start : State) (action : Action)
    (rest : List Action) : run step start (action :: rest) = run step (step start action) rest := rfl

theorem run_append (step : State → Action → State) (start : State) (first second : List Action) :
    run step start (first ++ second) = run step (run step start first) second :=
  List.foldl_append

/-- Steps that are each undone, the run is undone from its last action on. -/
theorem run_undone {Undone : Type*} {step : State → Action → State} {undo : Undone → Action → Undone}
    (mark : State → Undone) (undoes : ∀ state action, undo (mark (step state action)) action = mark state)
    (start : State) (actions : List Action) :
    run undo (mark (run step start actions)) actions.reverse = mark start := by
  induction actions generalizing start with
  | nil => rfl
  | cons action rest ih =>
      rw [run_cons, List.reverse_cons, run_append, ih, run_cons, run_nil, undoes]

/-- What some of the actions write over is, after a run, what the last of them wrote. -/
theorem run_last {step : State → Action → State} {Field : Type*} {field : State → Field}
    {sets : Action → Bool} {told : Action → Field}
    (writes : ∀ state action, field (step state action) = if sets action then told action else field state)
    (start : State) (actions : List Action) :
    field (run step start actions) = ((actions.filter sets).getLast?.map told).getD (field start) := by
  induction actions generalizing start with
  | nil => rfl
  | cons action rest ih =>
      rw [run_cons, ih, writes]
      by_cases set : sets action
      · rw [if_pos set, List.filter_cons_of_pos set, List.getLast?_cons]
        cases (rest.filter sets).getLast? <;> rfl
      · rw [if_neg set, List.filter_cons_of_neg set]

section Rules
variable {step : State → Action → State} {invariant : State → Prop}
  {guard good : State → Action → Prop}

/-- The induction rule for a guarded run: an invariant that every admitted step
keeps, and under which every admitted step is good, makes the whole run good. -/
theorem each_step_of_guard
    (kept : ∀ state action, invariant state → guard state action → invariant (step state action))
    (sound : ∀ state action, invariant state → guard state action → good state action)
    (start : State) (actions : List Action) (initial : invariant start)
    (admitted : EachStep step guard start actions) : EachStep step good start actions := by
  induction actions generalizing start with
  | nil => trivial
  | cons action rest ih =>
      obtain ⟨now, later⟩ := admitted
      exact ⟨sound start action initial now, ih _ (kept start action initial now) later⟩

/-- When the first step that leaves the guard is never good, the guard is exact. -/
theorem each_step_iff_guard
    (kept : ∀ state action, invariant state → guard state action → invariant (step state action))
    (exact : ∀ state action, invariant state → (good state action ↔ guard state action))
    (start : State) (actions : List Action) (initial : invariant start) :
    EachStep step good start actions ↔ EachStep step guard start actions := by
  induction actions generalizing start with
  | nil => exact Iff.rfl
  | cons action rest ih =>
      constructor
      · rintro ⟨now, later⟩
        have admitted := (exact start action initial).mp now
        exact ⟨admitted, (ih _ (kept start action initial admitted)).mp later⟩
      · rintro ⟨admitted, later⟩
        exact ⟨(exact start action initial).mpr admitted,
          (ih _ (kept start action initial admitted)).mpr later⟩

theorem each_step_true (start : State) (actions : List Action) :
    EachStep step (fun _ _ => True) start actions := by
  induction actions generalizing start with
  | nil => trivial
  | cons action rest ih => exact ⟨trivial, ih _⟩

/-- What holds of every action holds of every step. -/
theorem each_step_of_actions (actions : List Action)
    (holds : ∀ action ∈ actions, ∀ state, good state action) (start : State) :
    EachStep step good start actions := by
  induction actions generalizing start with
  | nil => trivial
  | cons action rest ih =>
      exact ⟨holds action List.mem_cons_self start,
        ih (fun other member => holds other (List.mem_cons_of_mem _ member)) _⟩

/-- The unguarded induction rule. -/
theorem each_step_of_invariant
    (kept : ∀ state action, invariant state → invariant (step state action))
    (sound : ∀ state action, invariant state → good state action)
    (start : State) (actions : List Action) (initial : invariant start) :
    EachStep step good start actions :=
  each_step_of_guard (fun s a now _ => kept s a now) (fun s a now _ => sound s a now)
    start actions initial (each_step_true start actions)

theorem run_invariant
    (kept : ∀ state action, invariant state → invariant (step state action))
    (start : State) (actions : List Action) (initial : invariant start) :
    invariant (run step start actions) := by
  induction actions generalizing start with
  | nil => exact initial
  | cons action rest ih => exact ih _ (kept start action initial)

theorem run_invariant_of_guard
    (kept : ∀ state action, invariant state → guard state action → invariant (step state action))
    (start : State) (actions : List Action) (initial : invariant start)
    (admitted : EachStep step guard start actions) : invariant (run step start actions) := by
  induction actions generalizing start with
  | nil => exact initial
  | cons action rest ih =>
      exact ih _ (kept start action initial admitted.1) admitted.2

/-- Bounded waiting. With `due k`, at most `k` counted steps go by before a good one: a
counted step that is not good uses one up, and the others leave their number alone. -/
theorem some_step_of_due {counted : State → Action → Bool} (due : Nat → State → Prop)
    (kept : ∀ state action, invariant state → guard state action → invariant (step state action))
    (waits : ∀ k state action, invariant state → guard state action → due k state →
      counted state action = true → good state action ∨ ∃ less, less < k ∧ due less (step state action))
    (stays : ∀ k state action, invariant state → guard state action → due k state →
      counted state action = false → due k (step state action))
    (k : Nat) (start : State) (actions : List Action) (initial : invariant start)
    (admitted : EachStep step guard start actions) (soon : due k start)
    (many : k < countSteps step counted start actions) : SomeStep step good start actions := by
  induction actions generalizing start k with
  | nil => exact absurd many (Nat.not_lt_zero k)
  | cons action rest ih =>
      obtain ⟨now, later⟩ := admitted
      have after := kept start action initial now
      rw [countSteps] at many
      cases counts : counted start action with
      | true =>
          rw [if_pos counts] at many
          -- the counted steps that are left are at least those that may still be waited for
          rcases waits k start action initial now soon counts with done | ⟨less, below, sooner⟩
          · exact .inl done
          · exact .inr (ih less _ after later sooner (by omega))
      | false =>
          rw [if_neg (by simp [counts]), Nat.add_zero] at many
          exact .inr (ih k _ after later (stays k start action initial now soon counts) many)

end Rules

theorem each_step_append (step : State → Action → State) (property : State → Action → Prop)
    (start : State) (first second : List Action) :
    EachStep step property start (first ++ second) ↔
      EachStep step property start first ∧
        EachStep step property (run step start first) second := by
  induction first generalizing start with
  | nil => simp [EachStep]
  | cons action rest ih => simp only [List.cons_append, EachStep, ih, run_cons, and_assoc]

theorem each_step_and {step : State → Action → State} {first second : State → Action → Prop} {start : State}
    {actions : List Action} (one : EachStep step first start actions) (other : EachStep step second start actions) :
    EachStep step (fun state action => first state action ∧ second state action) start actions := by
  induction actions generalizing start with
  | nil => trivial
  | cons action rest ih => exact ⟨⟨one.1, other.1⟩, ih one.2 other.2⟩

theorem always_run {step : State → Action → State} {property : State → Prop} {start : State}
    {actions : List Action} (always : Always step property start actions) :
    property (run step start actions) := by
  induction actions generalizing start with
  | nil => exact always.1
  | cons action rest ih => exact ih ⟨always.2.1, always.2.2⟩

/-! A system that has another one in it. Each of its steps makes some of the steps of
the inner one, so what holds of every run of the inner one holds of it there. -/
section Inner
variable {Outer : Type*} {OuterAction : Type*}

/-- The steps that a run makes the inner system take. -/
def driven (outerStep : Outer → OuterAction → Outer) (drives : Outer → OuterAction → List Action) :
    Outer → List OuterAction → List Action
  | _, [] => []
  | outer, action :: rest => drives outer action ++ driven outerStep drives (outerStep outer action) rest

theorem run_driven {outerStep : Outer → OuterAction → Outer} {drives : Outer → OuterAction → List Action}
    {step : State → Action → State} (inner : Outer → State)
    (moves : ∀ outer action, inner (outerStep outer action) = run step (inner outer) (drives outer action))
    (outer : Outer) (actions : List OuterAction) :
    inner (run outerStep outer actions) = run step (inner outer) (driven outerStep drives outer actions) := by
  induction actions generalizing outer with
  | nil => rfl
  | cons action rest ih => rw [run_cons, ih, moves, driven, run_append]

end Inner

/-! A loop over the indices of a table, each pass of which changes one entry and
leaves the others alone, changes every entry it visits once. -/
section Loop
variable {Entry : Type u} {Loop : Type v}

theorem loop_entry (entry : Loop → Nat → Entry) (body : Loop → Nat → Loop)
    (change : Nat → Entry → Entry) (kept : Loop → Prop)
    (stays : ∀ state index, kept state → kept (body state index))
    (own : ∀ state index, kept state → entry (body state index) index = change index (entry state index))
    (other : ∀ state index j, j ≠ index → entry (body state index) j = entry state j)
    (indices : List Nat) (distinct : indices.Nodup) (state : Loop) (initial : kept state) (j : Nat) :
    entry (indices.foldl body state) j =
      if j ∈ indices then change j (entry state j) else entry state j := by
  induction indices generalizing state with
  | nil => simp
  | cons index rest ih =>
      obtain ⟨fresh, unique⟩ := List.nodup_cons.mp distinct
      rw [List.foldl_cons, ih unique _ (stays state index initial)]
      by_cases same : j = index
      · subst j
        simp [fresh, own state index initial]
      · simp [same, other state index j same]

/-- What every pass of a loop leaves alone, the loop leaves alone. -/
theorem loop_frame {Part : Type u} (part : Loop → Part) (body : Loop → Nat → Loop)
    (frame : ∀ state index, part (body state index) = part state)
    (indices : List Nat) (state : Loop) : part (indices.foldl body state) = part state := by
  induction indices generalizing state with
  | nil => rfl
  | cons index rest ih => rw [List.foldl_cons, ih, frame]

theorem loop_invariant (kept : Loop → Prop) (body : Loop → Nat → Loop)
    (stays : ∀ state index, kept state → kept (body state index))
    (indices : List Nat) (state : Loop) (initial : kept state) :
    kept (indices.foldl body state) := by
  induction indices generalizing state with
  | nil => exact initial
  | cons index rest ih => exact ih _ (stays state index initial)

end Loop

end Dswifi.Runs
