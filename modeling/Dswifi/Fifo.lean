import Mathlib.Data.List.Basic
import Dswifi.Runs

/-! A queue, first in first out, as the meaning of a channel: the labels of a
run are accepted when each item taken is the oldest one put in and not yet
taken. A system refines the queue when every step of it is accepted from the
contents it represents. -/

namespace Dswifi.Fifo

universe u v w
variable {Item : Type u}

inductive Label (Item : Type u) where
  | enqueue (item : Item)
  | dequeue (item : Item)

/-- `Accepts contents labels after`: the queue goes from `contents` to `after`. -/
inductive Accepts : List Item → List (Label Item) → List Item → Prop where
  | done (contents : List Item) : Accepts contents [] contents
  | enqueue {contents after : List Item} {labels : List (Label Item)} (item : Item) :
      Accepts (contents ++ [item]) labels after → Accepts contents (.enqueue item :: labels) after
  | dequeue {contents after : List Item} {labels : List (Label Item)} (item : Item) :
      Accepts contents labels after → Accepts (item :: contents) (.dequeue item :: labels) after

def enqueued : List (Label Item) → List Item
  | [] => []
  | .enqueue item :: labels => item :: enqueued labels
  | .dequeue _ :: labels => enqueued labels

def dequeued : List (Label Item) → List Item
  | [] => []
  | .enqueue _ :: labels => dequeued labels
  | .dequeue item :: labels => item :: dequeued labels

theorem enqueued_append (first second : List (Label Item)) :
    enqueued (first ++ second) = enqueued first ++ enqueued second := by
  induction first with
  | nil => rfl
  | cons label rest ih => cases label <;> simp [enqueued, ih]

theorem Accepts.append {contents middle after : List Item} {first second : List (Label Item)}
    (before : Accepts contents first middle) (later : Accepts middle second after) :
    Accepts contents (first ++ second) after := by
  induction before with
  | done => exact later
  | enqueue item _ ih => exact .enqueue item (ih later)
  | dequeue item _ ih => exact .dequeue item (ih later)

/-- Nothing is lost, repeated or reordered: what was there and what was put in
are what was taken, followed by what is there now. -/
theorem Accepts.conserves {contents after : List Item} {labels : List (Label Item)}
    (accepted : Accepts contents labels after) :
    contents ++ enqueued labels = dequeued labels ++ after := by
  induction accepted with
  | done contents => simp [enqueued, dequeued]
  | enqueue item _ ih => simpa [enqueued, dequeued] using ih
  | dequeue item _ ih => simpa [enqueued, dequeued] using ih

section Refinement
variable {State : Type v} {Action : Type w}

/-- The labels of the steps of a run. -/
def trace (step : State → Action → State) (labels : State → Action → List (Label Item)) :
    State → List Action → List (Label Item)
  | _, [] => []
  | state, action :: rest => labels state action ++ trace step labels (step state action) rest

variable {step : State → Action → State} {labels : State → Action → List (Label Item)}
  {invariant : State → Prop} {contents : State → List Item}

/-- A system whose steps, one by one, are moves of the queue refines it. -/
theorem refines
    (kept : ∀ state action, invariant state → invariant (step state action))
    (simulates : ∀ state action, invariant state →
      Accepts (contents state) (labels state action) (contents (step state action)))
    (start : State) (actions : List Action) (initial : invariant start) :
    Accepts (contents start) (trace step labels start actions)
      (contents (Runs.run step start actions)) := by
  induction actions generalizing start with
  | nil => exact .done _
  | cons action rest ih => exact (simulates start action initial).append (ih _ (kept _ _ initial))

end Refinement

end Dswifi.Fifo
