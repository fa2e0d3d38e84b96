import Mathlib.Data.Finset.Card
import Narrative.Proofs.Boards
import Narrative.Proofs.Position

/-!
# The bound on passages

A move passes jumps and branches with variables that do not change on the way, so the graph and the
variables decide where it leads from each node. Main statement: a move ends as a cycle exactly when all
nodes up to the bound lead on; a larger bound changes no other move; and a bound that is not below the
number of jumps and branches stops only those moves that would never end.
-/

namespace Narrative.Story

set_option autoImplicit false

/-- A node that leads on by itself: a jump that goes somewhere, or a branch node that has an edge for the
branch that it takes. -/
def Advances (graph : Graph) (store : Store) (id : String) : Prop :=
  ∃ node, graph.node? id = some node ∧
    ((node.kind = .jump ∧ ∃ target, node.jumpTarget = some target ∧ target ≠ "") ∨
      (node.kind = .branch ∧ ∃ target, branchTarget? graph node store = some target))

/-- Where an identifier leads on by itself. -/
def next? (graph : Graph) (store : Store) (id : String) : Option String :=
  (graph.node? id).bind fun node => successor? graph node store

/-- The identifiers that follow each other by themselves from one on, and nothing behind the end. -/
def chain? (graph : Graph) (store : Store) (id : String) : Nat → Option String
  | 0 => some id
  | position + 1 => (chain? graph store id position).bind (next? graph store)

def LeadsOn (graph : Graph) (store : Store) (id : String) (position : Nat) : Prop :=
  ∃ here, chain? graph store id position = some here ∧ Advances graph store here

def isPassage (node : Node) : Bool :=
  node.kind == .jump || node.kind == .branch

def passageCount (project : Project) : Nat :=
  (project.boards.flatMap Board.nodes).countP isPassage

section Chains

variable {graph : Graph} {store : Store} {id : String}

theorem advances_iff : Advances graph store id ↔ (next? graph store id).isSome = true := by
  cases found : graph.node? id with
  | none => simp [Advances, next?, found]
  | some node =>
      cases kind : node.kind with
      | content => simp [Advances, next?, found, successor?, kind]
      | decorative => simp [Advances, next?, found, successor?, kind]
      | branch => simp [Advances, next?, found, successor?, kind, Option.isSome_iff_exists]
      | jump =>
          cases aim : node.jumpTarget with
          | none => simp [Advances, next?, found, successor?, kind, aim]
          | some target =>
              by_cases blank : target = "" <;>
                simp [Advances, next?, found, successor?, kind, aim, blank]

theorem leads_on_iff {position : Nat} :
    LeadsOn graph store id position ↔ (chain? graph store id (position + 1)).isSome = true := by
  cases reached : chain? graph store id position with
  | none => simp [LeadsOn, chain?, reached]
  | some here => simp [LeadsOn, chain?, reached, advances_iff]

theorem chain_add (first more : Nat) :
    chain? graph store id (first + more) =
      (chain? graph store id first).bind fun here => chain? graph store here more := by
  induction more with
  | zero => cases chain? graph store id first <;> rfl
  | succ more ih =>
      rw [← Nat.add_assoc, chain?, ih]
      cases chain? graph store id first <;> rfl

theorem chain_from_next (position : Nat) :
    chain? graph store id (position + 1) =
      (next? graph store id).bind fun target => chain? graph store target position := by
  rw [Nat.add_comm, chain_add]
  rfl

theorem chain_is_some_of_le {first second : Nat} (order : first ≤ second)
    (lasts : (chain? graph store id second).isSome = true) :
    (chain? graph store id first).isSome = true := by
  rw [← Nat.add_sub_of_le order, chain_add] at lasts
  cases reached : chain? graph store id first with
  | none => simp [reached] at lasts
  | some here => rfl

theorem chain_is_some_iff {bound : Nat} :
    (chain? graph store id (bound + 1)).isSome = true ↔
      ∀ position ≤ bound, LeadsOn graph store id position := by
  constructor
  · intro lasts position within
    exact leads_on_iff.mpr (chain_is_some_of_le (by omega) lasts)
  · intro leads
    exact leads_on_iff.mp (leads bound (Nat.le_refl bound))

theorem is_passage_of_next {target : String} (next : next? graph store id = some target) :
    id ∈ (graph.nodes.filter isPassage).map Node.id := by
  obtain ⟨node, found, leads⟩ := Option.bind_eq_some_iff.mp next
  rw [← Graph.node_id found]
  apply List.mem_map_of_mem
  apply List.mem_filter.mpr
  refine ⟨Graph.node_mem found, ?_⟩
  rcases kind_of_successor leads with kind | kind <;> simp [isPassage, kind]

/-- A chain that comes back to where it was goes round for ever. -/
theorem chain_goes_round {first second : Nat} (order : first < second)
    (same : chain? graph store id first = chain? graph store id second)
    (lasts : (chain? graph store id second).isSome = true) (position : Nat) :
    (chain? graph store id position).isSome = true := by
  induction position using Nat.strong_induction_on with
  | h position earlier =>
      by_cases near : position ≤ second
      · exact chain_is_some_of_le near lasts
      · -- Behind the second visit the chain is what it was behind the first.
        have split : position = second + (position - second) := by omega
        have shifted : chain? graph store id position =
            chain? graph store id (first + (position - second)) := by
          rw [chain_add first, same, ← chain_add]
          exact congrArg (chain? graph store id) split
        rw [shifted]
        exact earlier _ (by omega)

/-- A chain that is longer than there are jumps and branches never ends. -/
theorem chain_never_ends {bound : Nat} (few : graph.nodes.countP isPassage ≤ bound)
    (lasts : (chain? graph store id (bound + 1)).isSome = true) (position : Nat) :
    (chain? graph store id position).isSome = true := by
  let passages := ((graph.nodes.filter isPassage).map Node.id).map some
  have card : passages.toFinset.card < (Finset.range (bound + 1)).card := by
    have length : passages.length = graph.nodes.countP isPassage := by
      simp [passages, List.countP_eq_length_filter]
    have most := List.toFinset_card_le passages
    rw [Finset.card_range]
    omega
  have passed : Set.MapsTo (chain? graph store id) (Finset.range (bound + 1)) passages.toFinset := by
    intro position within
    have further : position + 1 ≤ bound + 1 := Finset.mem_range.mp within
    obtain ⟨target, next⟩ := Option.isSome_iff_exists.mp (chain_is_some_of_le further lasts)
    obtain ⟨here, reached, leads⟩ := Option.bind_eq_some_iff.mp next
    rw [reached]
    exact List.mem_toFinset.mpr (List.mem_map_of_mem (is_passage_of_next leads))
  obtain ⟨left, leftWithin, right, rightWithin, apart, same⟩ :=
    Finset.exists_ne_map_eq_of_card_lt_of_maps_to card passed
  have leftLasts := chain_is_some_of_le (Nat.le_of_lt (Finset.mem_range.mp leftWithin)) lasts
  have rightLasts := chain_is_some_of_le (Nat.le_of_lt (Finset.mem_range.mp rightWithin)) lasts
  rcases Nat.lt_or_gt_of_ne apart with before | after
  · exact chain_goes_round before same rightLasts position
  · exact chain_goes_round after same.symm leftLasts position

end Chains

theorem remember_store (state : State) : state.remember.store = state.store := by
  unfold State.remember
  split <;> rfl

/-- Rounds run out exactly on chains that are longer. -/
theorem advance_cycle_iff (story : Story) (rounds : Nat) (state : State) (id : String) :
    (advance story rounds state id).status = .cycle ↔
      (chain? story.graph state.store id rounds).isSome = true := by
  induction rounds generalizing state id with
  | zero => simp [advance, chain?]
  | succ rounds ih =>
      rw [chain_from_next, next?]
      cases found : story.graph.node? id with
      | none => simp [advance, found]
      | some node =>
          cases content : node.isContent with
          | true =>
              have kind := is_content_kind.mp content
              simp [advance, found, content, rest, resting_status_ne_cycle, successor?, kind]
          | false =>
              cases next : successor? story.graph node state.store with
              | none => simp [advance, found, content, next]
              | some target =>
                  have further := ih (arrive state node).remember target
                  have store : (arrive state node).remember.store = state.store :=
                    remember_store (arrive state node)
                  rw [store] at further
                  simpa [advance, found, content, next] using further

/-- More rounds change nothing where fewer did not run out. -/
theorem advance_add {story : Story} {rounds : Nat} {state : State} {id : String}
    (ended : (advance story rounds state id).status ≠ .cycle) (more : Nat) :
    advance story (rounds + more) state id = advance story rounds state id := by
  induction rounds generalizing state id with
  | zero => exact absurd rfl ended
  | succ rounds ih =>
      rw [Nat.add_right_comm]
      unfold advance at ended ⊢
      cases found : story.graph.node? id with
      | none => rfl
      | some node =>
          simp only [found] at ended ⊢
          split
          · rfl
          · rename_i other
            rw [if_neg other] at ended
            cases next : successor? story.graph node state.store with
            | none => rfl
            | some target =>
                simp only [next] at ended ⊢
                exact ih ended

theorem enter_cycle_iff (story : Story) (state : State) (target : String) :
    (story.enter state target).status = .cycle ↔
      ∀ position ≤ story.patience, LeadsOn story.graph state.store target position :=
  (advance_cycle_iff story (story.patience + 1) state target).trans chain_is_some_iff

theorem enter_with_patience {story : Story} {state : State} {target : String}
    (ended : (story.enter state target).status ≠ .cycle) {patience : Nat}
    (larger : story.patience ≤ patience) :
    enter { story with patience := patience } state target = story.enter state target := by
  have split : patience + 1 = story.patience + 1 + (patience - story.patience) := by omega
  calc
    enter { story with patience := patience } state target
        = advance story (patience + 1) state target :=
        advance_congr story { story with patience := patience } rfl rfl _ state target
    _ = advance story (story.patience + 1 + (patience - story.patience)) state target := by
        rw [split]
    _ = story.enter state target := advance_add ended _

/-- The bound on passages is exact: it is met when no node up to it stops the chain, a larger one changes
only moves that met it, and one that is not below the number of jumps and branches is met by endless
chains only. -/
theorem patience_stops_endless_chains (options : Options) (project : Project) (state : State)
    (target : String) :
    (((ofProject options project).enter state target).status = .cycle ↔
      ∀ position ≤ options.patience,
        LeadsOn (Graph.ofProject project) state.store target position) ∧
    (((ofProject options project).enter state target).status ≠ .cycle →
      ∀ patience, options.patience ≤ patience →
        (ofProject { options with patience := patience } project).enter state target =
          (ofProject options project).enter state target) ∧
    (passageCount project ≤ options.patience →
      (((ofProject options project).enter state target).status = .cycle ↔
        ∀ position, LeadsOn (Graph.ofProject project) state.store target position)) := by
  have bounded := enter_cycle_iff (ofProject options project) state target
  refine ⟨bounded, fun ended patience larger => enter_with_patience ended larger, ?_⟩
  intro enough
  rw [bounded]
  constructor
  · intro leads position
    have few : (Graph.ofProject project).nodes.countP isPassage ≤ options.patience :=
      Nat.le_trans (Graph.nodes_of_project project).countP_le enough
    exact leads_on_iff.mpr (chain_never_ends few (chain_is_some_iff.mpr leads) (position + 1))
  · intro endless position _
    exact endless position

theorem wheel_never_stops :
    (carousel.enter (carousel.freshState none) "hall").status ≠ .cycle ∧
      (ofProject { Options.standard with patience := 7 } fairground).enter
        (carousel.freshState none) "hall" = carousel.enter (carousel.freshState none) "hall" ∧
      passageCount fairground ≤ 1 ∧
      (carousel.enter (carousel.freshState none) "wheel").status = .cycle ∧
      ∀ position, LeadsOn (Graph.ofProject fairground) fairground.store "wheel" position := by
  have hall := patience_stops_endless_chains { Options.standard with patience := 1 } fairground
    (carousel.freshState none) "hall"
  have wheel := patience_stops_endless_chains { Options.standard with patience := 1 } fairground
    (carousel.freshState none) "wheel"
  have ended : (carousel.enter (carousel.freshState none) "hall").status ≠ .cycle := by decide
  have few : passageCount fairground ≤ 1 := by decide
  have turning : (carousel.enter (carousel.freshState none) "wheel").status = .cycle := by decide
  exact ⟨ended, hall.2.1 ended 7 (by decide), few, turning, (wheel.2.2 few).mp turning⟩

end Narrative.Story
