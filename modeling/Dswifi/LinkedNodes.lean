import Mathlib.Data.List.Nodup

/-! Nodes that each point to the next, up to one that points to none. The nodes of
such a chain are known from the first, and each is in it once. -/

namespace Dswifi.LinkedNodes

universe u
variable {Node : Type u} {next : Node → Option Node}

inductive Linked (next : Node → Option Node) : Option Node → List Node → Prop
  | nil : Linked next none []
  | cons {node : Node} {rest : List Node} (more : Linked next (next node) rest) :
      Linked next (some node) (node :: rest)

theorem Linked.unique {start : Option Node} {first second : List Node} (one : Linked next start first)
    (other : Linked next start second) : first = second := by
  induction one generalizing second with
  | nil =>
      cases other
      rfl
  | cons _ ih =>
      cases other with
      | cons more => rw [ih more]

/-- From every node of a chain the chain goes on as it does behind it. -/
theorem Linked.from_node {start : Option Node} {nodes : List Node} (linked : Linked next start nodes)
    {node : Node} (member : node ∈ nodes) :
    ∃ front rest, nodes = front ++ node :: rest ∧ Linked next (some node) (node :: rest) := by
  induction linked with
  | nil => cases member
  | @cons first rest more ih =>
      rcases List.mem_cons.mp member with rfl | later
      · exact ⟨[], rest, rfl, .cons more⟩
      · obtain ⟨front, behind, split, linked⟩ := ih later
        exact ⟨first :: front, behind, by rw [split]; rfl, linked⟩

/-- A chain that comes back to a node would never end. -/
theorem Linked.nodup {start : Option Node} {nodes : List Node} (linked : Linked next start nodes) :
    nodes.Nodup := by
  induction linked with
  | nil => exact List.nodup_nil
  | @cons node rest more ih =>
      refine List.nodup_cons.mpr ⟨fun member => ?_, ih⟩
      obtain ⟨front, behind, split, again⟩ := more.from_node member
      have same := (Linked.cons more).unique again
      have length := congrArg List.length (split.symm.trans (List.cons.inj same).2)
      rw [List.length_append, List.length_cons] at length
      omega

end Dswifi.LinkedNodes
