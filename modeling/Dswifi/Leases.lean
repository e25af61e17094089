import Mathlib.Logic.Function.Basic
import Dswifi.Runs

/-! Numbers that are leased. Each is granted to a holder, and is free again when its
holder leaves. A history of such events is legal when no number is granted that
another one holds. -/

namespace Dswifi.Leases

open Runs

universe u v
variable {Holder : Type u} {Id : Type v} [DecidableEq Holder] [DecidableEq Id]

inductive Event (Holder : Type u) (Id : Type v) where
  | granted (holder : Holder) (id : Id)
  | left (holder : Holder)
  deriving DecidableEq, Repr

def record (table : Id → Option Holder) : Event Holder Id → Id → Option Holder
  | .granted holder id => Function.update table id (some holder)
  | .left holder => fun id => if table id = some holder then none else table id

/-- Who holds each number after these events. -/
def leases (events : List (Event Holder Id)) : Id → Option Holder := run record (fun _ => none) events

def Legal (table : Id → Option Holder) : Event Holder Id → Prop
  | .granted holder id => table id = none ∨ table id = some holder
  | .left _ => True

def Lawful (events : List (Event Holder Id)) : Prop := EachStep record Legal (fun _ => none) events

variable {table : Id → Option Holder} {holder : Holder} {id : Id} {events : List (Event Holder Id)}

theorem record_keeps {event : Event Holder Id} (held : table id = some holder) (legal : Legal table event)
    (stays : event ≠ .left holder) : record table event id = some holder := by
  cases event with
  | left other =>
      have another : ¬table id = some other := by
        intro same
        rw [held, Option.some_inj] at same
        exact stays (congrArg Event.left same.symm)
      have same : record table (.left other) id = table id := if_neg another
      rw [same, held]
  | granted other number =>
      by_cases same : id = number
      · subst same
        rcases legal with free | own
        · rw [free] at held
          cases held
        · rw [held, Option.some_inj] at own
          rw [record, Function.update_self, own]
      · rw [record, Function.update_of_ne same, held]

/-- When some leave, the others keep what they hold. -/
theorem run_left (holders : List Holder) :
    run record table (holders.map .left) id = some holder ↔ table id = some holder ∧ holder ∉ holders := by
  induction holders generalizing table with
  | nil => simp
  | cons other rest ih =>
      have here : record table (.left other) id = some holder ↔ table id = some holder ∧ holder ≠ other := by
        by_cases same : table id = some other
        · have none : record table (.left other) id = none := if_pos same
          simp only [none, same, reduceCtorEq, Option.some_inj, false_iff, not_and, not_not]
          exact Eq.symm
        · have kept : record table (.left other) id = table id := if_neg same
          rw [kept]
          constructor
          · intro held
            refine ⟨held, ?_⟩
            rintro rfl
            exact same held
          · exact And.left
      rw [List.map_cons, run_cons, ih, here, List.mem_cons, not_or, and_assoc]

theorem legal_left (holders : List Holder) :
    EachStep record Legal table (holders.map Event.left : List (Event Holder Id)) :=
  each_step_of_actions _ (fun event member _ => by
    obtain ⟨other, -, rfl⟩ := List.mem_map.mp member
    trivial) table

/-- Who does not leave keeps the number. -/
theorem run_keeps (held : table id = some holder) (legal : EachStep record Legal table events)
    (stays : .left holder ∉ events) : run record table events id = some holder := by
  induction events generalizing table with
  | nil => exact held
  | cons event rest ih =>
      obtain ⟨here, later⟩ := legal
      have other : event ≠ .left holder := fun same => stays (same ▸ List.mem_cons_self)
      exact ih (record_keeps held here other) later fun member => stays (List.mem_cons_of_mem _ member)

/-- Who has not left since a grant holds the number. -/
theorem leases_of_granted {before after : List (Event Holder Id)}
    (lawful : Lawful (before ++ .granted holder id :: after)) (stays : .left holder ∉ after) :
    leases (before ++ .granted holder id :: after) id = some holder := by
  rw [Lawful, each_step_append] at lawful
  rw [leases, run_append]
  apply run_keeps _ lawful.2.2 stays
  rw [record, Function.update_self]

theorem lawful_append (lawful : Lawful events) {more : List (Event Holder Id)}
    (legal : EachStep record Legal (leases events) more) : Lawful (events ++ more) :=
  (each_step_append _ _ _ _ _).mpr ⟨lawful, legal⟩

end Dswifi.Leases
