import Narrative.Proofs.Boards
import Narrative.Story.Moves

/-!
# Ways out of a branch node

A branch node goes on along the edge of one of its branches. Main fact: which one it takes does not
depend on where the fallbacks stand among the other branches, nor on what their conditions say, and
where the branch that it takes has no edge, it does not try another one.
-/

namespace Narrative

set_option autoImplicit false

/-- The first edge of the document that leaves a node for one of its branches. -/
def Project.FirstEdge (project : Project) (id branch : String) (edge : Edge) : Prop :=
  ∃ before after, project.boards.flatMap Board.edges = before ++ edge :: after ∧
    edge.source = id ∧ edge.handle = some branch ∧
    ∀ other ∈ before, other.source = id → other.handle ≠ some branch

theorem Graph.edge_for_iff {project : Project} {id branch : String} {edge : Edge} :
    (Graph.ofProject project).edgeFor? id branch = some edge ↔ project.FirstEdge id branch edge := by
  unfold Graph.edgeFor? Project.FirstEdge
  rw [Graph.edges_from_of_project, List.find?_filter, List.find?_eq_some_iff_append]
  constructor
  · rintro ⟨leaves, before, after, listed, first⟩
    obtain ⟨source, handle⟩ : edge.source = id ∧ edge.handle = some branch := by
      simpa using leaves
    refine ⟨before, after, listed, source, handle, ?_⟩
    intro other member
    simpa [Decidable.imp_iff_not_or] using first other member
  · rintro ⟨before, after, listed, source, handle, first⟩
    refine ⟨by simp [source, handle], before, after, listed, ?_⟩
    intro other member
    simpa [Decidable.imp_iff_not_or] using first other member

namespace Story

/-- The branch that is taken: the first one whose condition holds, the fallbacks aside, and if no such
condition holds the first fallback. What the condition of a fallback says does not count. -/
inductive Takes (store : Store) (branches : List Branch) (branch : Branch) : Prop where
  | holding (before after : List Branch) (listed : branches = before ++ branch :: after)
      (conditional : branch.isFallback = false)
      (holds : Condition.holds store branch.condition.toList = true)
      (first : ∀ other ∈ before, other.isFallback = false →
        Condition.holds store other.condition.toList = false) : Takes store branches branch
  | fallback (before after : List Branch) (listed : branches = before ++ branch :: after)
      (fallback : branch.isFallback = true)
      (first : ∀ other ∈ before, other.isFallback = false)
      (none : ∀ other ∈ branches, other.isFallback = false →
        Condition.holds store other.condition.toList = false) : Takes store branches branch

/-- The same branches with fallbacks put elsewhere: the fallbacks have the same identifiers in the same
order, and the other branches are the same in the same order. -/
structure Rearranged (branches others : List Branch) : Prop where
  conditional : (others.filter fun branch => !branch.isFallback) =
    branches.filter fun branch => !branch.isFallback
  fallbacks : (others.filter Branch.isFallback).map Branch.id =
    (branches.filter Branch.isFallback).map Branch.id

variable {store : Store} {branches others : List Branch} {branch : Branch}

theorem takes_holding_iff :
    (branches.find? fun branch =>
        !branch.isFallback && Condition.holds store branch.condition.toList) = some branch ↔
      branch.isFallback = false ∧ Condition.holds store branch.condition.toList = true ∧
        ∃ before after, branches = before ++ branch :: after ∧ ∀ other ∈ before,
          other.isFallback = false → Condition.holds store other.condition.toList = false := by
  rw [List.find?_eq_some_iff_append]
  simp [and_assoc, Decidable.imp_iff_not_or]

theorem none_holds_iff :
    (branches.find? fun branch =>
        !branch.isFallback && Condition.holds store branch.condition.toList) = none ↔
      ∀ other ∈ branches, other.isFallback = false →
        Condition.holds store other.condition.toList = false := by
  rw [List.find?_eq_none]
  simp

theorem chosen_branch_iff : chosenBranch? branches store = some branch ↔ Takes store branches branch := by
  unfold chosenBranch?
  rw [Option.or_eq_some_iff, takes_holding_iff, none_holds_iff, List.find?_eq_some_iff_append]
  constructor
  · rintro (⟨conditional, holds, before, after, listed, first⟩ | ⟨none, fallback, before, after, listed, first⟩)
    · exact .holding before after listed conditional holds first
    · exact .fallback before after listed fallback (by simpa using first) none
  · intro takes
    cases takes with
    | holding before after listed conditional holds first =>
        exact .inl ⟨conditional, holds, before, after, listed, first⟩
    | fallback before after listed fallback first none =>
        exact .inr ⟨none, fallback, before, after, listed, by simpa using first⟩

/-- The fallbacks and the other branches are looked through apart. -/
theorem chosen_branch_apart (branches : List Branch) (store : Store) :
    (chosenBranch? branches store).map Branch.id =
      (((branches.filter fun branch => !branch.isFallback).find? fun branch =>
        Condition.holds store branch.condition.toList).map Branch.id).or
          ((branches.filter Branch.isFallback).map Branch.id).head? := by
  unfold chosenBranch?
  rw [Option.map_or, List.find?_filter, List.head?_map, List.head?_filter]
  simp only [Bool.decide_and, Bool.decide_eq_true]

theorem Rearranged.chosen (rearranged : Rearranged branches others) (store : Store) :
    (chosenBranch? others store).map Branch.id = (chosenBranch? branches store).map Branch.id := by
  rw [chosen_branch_apart, chosen_branch_apart, rearranged.conditional, rearranged.fallbacks]

theorem branch_target_of_chosen (graph : Graph) (node : Node) (store : Store) :
    branchTarget? graph node store =
      ((chosenBranch? node.branches store).map Branch.id).bind fun branch =>
        (graph.edgeFor? node.id branch).map Edge.target := by
  rw [branchTarget?, Option.bind_map]
  rfl

theorem fallbacks_stand_anywhere (project : Project) (node : Node) (store : Store) :
    (∀ target, branchTarget? (Graph.ofProject project) node store = some target ↔
      ∃ branch edge, Takes store node.branches branch ∧
        project.FirstEdge node.id branch.id edge ∧ edge.target = target) ∧
    (∀ branch, Takes store node.branches branch →
      (∀ edge ∈ project.boards.flatMap Board.edges,
        edge.source = node.id → edge.handle ≠ some branch.id) →
      branchTarget? (Graph.ofProject project) node store = none) ∧
    ∀ branches, Rearranged node.branches branches →
      branchTarget? (Graph.ofProject project) { node with branches := branches } store =
        branchTarget? (Graph.ofProject project) node store := by
  refine ⟨?_, ?_, ?_⟩
  · intro target
    simp only [branchTarget?, Option.bind_eq_some_iff, Option.map_eq_some_iff, chosen_branch_iff,
      Graph.edge_for_iff, ← exists_and_left]
  · intro branch takes without
    rw [branchTarget?, chosen_branch_iff.mpr takes, Option.bind_some, Option.map_eq_none_iff]
    apply Option.eq_none_iff_forall_ne_some.mpr
    intro edge found
    obtain ⟨before, after, listed, source, handle, -⟩ := Graph.edge_for_iff.mp found
    exact without edge (by simp [listed]) source handle
  · intro branches rearranged
    rw [branch_target_of_chosen, branch_target_of_chosen]
    exact congrArg (Option.bind · _) (rearranged.chosen store)

/-- The fallbacks of a gate, one of them with a condition that holds. -/
def barred : List Branch :=
  [⟨"barred", "Else", "lamp == true"⟩, ⟨"locked", " eLSE\t", "true"⟩]

def lit : Branch :=
  ⟨"lit", "If", "lamp == true"⟩

/-- A gate where the branch for light has no edge, and a fallback has one on each of two boards. -/
def gate : Node :=
  ⟨"gate", .branch, none, none, [], barred ++ [lit], none⟩

def gateProject : Project where
  store := []
  boards := [
    ⟨"b", "", [gate], [⟨"", "wall", some "barred", "cell"⟩, ⟨"", "gate", none, "lit"⟩]⟩,
    ⟨"c", "", [], [⟨"", "gate", some "barred", "yard"⟩, ⟨"", "gate", some "barred", "moat"⟩]⟩]
  activeBoard := none

def lamp (burns : Bool) : Store :=
  [⟨"v", "lamp", .boolean burns⟩]

/-- In the dark the gate leads along the first edge of its first fallback, with a light nowhere, and so
it does with the fallbacks last. -/
theorem gate_with_fallbacks_last :
    Rearranged gate.branches (lit :: barred) ∧ Takes (lamp true) gate.branches lit ∧
    (∀ edge ∈ gateProject.boards.flatMap Board.edges,
      edge.source = gate.id → edge.handle ≠ some lit.id) ∧
    branchTarget? (Graph.ofProject gateProject) gate (lamp true) = none ∧
    branchTarget? (Graph.ofProject gateProject) { gate with branches := lit :: barred }
      (lamp true) = none ∧
    branchTarget? (Graph.ofProject gateProject) { gate with branches := lit :: barred }
      (lamp false) = some "yard" := by
  have moved : Rearranged gate.branches (lit :: barred) := ⟨by decide, by decide⟩
  have takes : Takes (lamp true) gate.branches lit :=
    .holding barred [] rfl (by decide) (by decide +kernel) (by decide)
  have without : ∀ edge ∈ gateProject.boards.flatMap Board.edges,
      edge.source = gate.id → edge.handle ≠ some lit.id := by decide
  obtain ⟨-, nowhere, anyOrder⟩ := fallbacks_stand_anywhere gateProject gate (lamp true)
  obtain ⟨-, -, dark⟩ := fallbacks_stand_anywhere gateProject gate (lamp false)
  have stays := nowhere lit takes without
  refine ⟨moved, takes, without, stays, (anyOrder _ moved).trans stays, ?_⟩
  exact (dark _ moved).trans (by decide +kernel)

end Story

end Narrative
