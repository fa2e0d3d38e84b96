import Narrative.Proofs.Reachable
import Narrative.Proofs.Script.Rebinding

/-!
# Outlines

What a declaration fixes about a variable: its identifier, its name, its kind and, for a list, the kind of
its elements. Scripts may leave any values behind, but these are converted before a variable takes them, so
every snapshot of a run has the outline of the declared variables, and conforms to its kinds if they do.
-/

namespace Narrative

set_option autoImplicit false

structure Outline where
  id : String
  name : String
  kind : Kind
  elementKind : Option ScalarKind
  deriving DecidableEq, Repr

namespace Stored

def elementKind? : Stored → Option ScalarKind
  | .list elementKind _ => some elementKind
  | _ => none

/-- Elements have the kind of their list, and entries of objects the kinds declared for them. -/
def Conforms : Stored → Prop
  | .list elementKind elements => ∀ element ∈ elements, element.kind = elementKind
  | .object members => ∀ entry ∈ members.entries, entry.2.value.kind = entry.2.kind
  | _ => True

instance (stored : Stored) : Decidable stored.Conforms :=
  match stored with
  | .boolean _ => isTrue trivial
  | .number _ => isTrue trivial
  | .text _ => isTrue trivial
  | .list elementKind elements =>
    inferInstanceAs (Decidable (∀ element ∈ elements, element.kind = elementKind))
  | .object members =>
    inferInstanceAs (Decidable (∀ entry ∈ members.entries, entry.2.value.kind = entry.2.kind))

theorem coerce_kinds (current : Stored) (source : Value) :
    (current.coerce source).kind = current.kind ∧
      (current.coerce source).elementKind? = current.elementKind? := by
  cases current with
  | boolean flag => exact ⟨rfl, rfl⟩
  | number amount => exact ⟨rfl, rfl⟩
  | text letters => exact ⟨rfl, rfl⟩
  | list elementKind elements => cases source <;> exact ⟨rfl, rfl⟩
  | object members => cases source <;> exact ⟨rfl, rfl⟩

theorem scalar_coerce_kind (kind : ScalarKind) (source : Value) :
    (Scalar.coerce kind source).kind = kind := by
  cases kind <;> rfl

/-- Conversion does not ask what was held before: only where nothing is taken does it matter. -/
theorem Conforms.coerce {current : Stored} (conforms : current.Conforms) (source : Value) :
    (current.coerce source).Conforms := by
  cases current with
  | boolean flag => trivial
  | number amount => trivial
  | text letters => trivial
  | list elementKind elements =>
      cases source with
      | list items =>
          intro element member
          obtain ⟨item, -, rfl⟩ := List.mem_map.mp member
          exact scalar_coerce_kind elementKind item
      | _ => exact conforms
  | object members =>
      cases source with
      | object found =>
          intro entry member
          obtain ⟨item, -, rfl⟩ := List.mem_map.mp (Keyed.mem_of_pairs member)
          rfl
      | _ => exact conforms

end Stored

def Variable.outline (known : Variable) : Outline :=
  ⟨known.id, known.name, known.value.kind, known.value.elementKind?⟩

theorem Variable.coerce_outline (known : Variable) (source : Value) :
    outline { known with value := known.value.coerce source } = known.outline := by
  obtain ⟨kind, elementKind⟩ := known.value.coerce_kinds source
  simp only [outline, kind, elementKind]

namespace Store

def outline (store : Store) : List Outline :=
  store.map Variable.outline

def Conforms (store : Store) : Prop :=
  ∀ known ∈ store, known.value.Conforms

instance (store : Store) : Decidable store.Conforms :=
  inferInstanceAs (Decidable (∀ known ∈ store, known.value.Conforms))

end Store

namespace Script

theorem taken_cases (scope : Scope) (known : Variable) :
    taken? scope known = none ∨ ∃ source, taken? scope known = some (known.value.coerce source) := by
  unfold taken?
  split
  · exact Or.inl rfl
  · split
    · exact Or.inl rfl
    · rename_i source _
      split
      · exact Or.inl rfl
      · exact Or.inr ⟨source, rfl⟩

/-- Whatever a script does, each variable stays as it is or takes a value that was converted for it. -/
theorem run_cases (limits : Limits) (code : List Char) (store : Store) :
    ∃ change : Variable → Variable, run limits code store = store.map change ∧
      ∀ known, change known = known ∨
        ∃ source, change known = { known with value := known.value.coerce source } := by
  rcases run_ends limits code store with same | ⟨program, scope, -, -, after⟩
  · refine ⟨id, ?_, fun known => Or.inl rfl⟩
    rw [same, List.map_id]
  · refine ⟨fun known => applied known (taken? scope known), after, ?_⟩
    intro known
    dsimp only
    rcases taken_cases scope known with untouched | ⟨source, taken⟩
    · rw [untouched]
      exact Or.inl rfl
    · rw [taken]
      exact Or.inr ⟨source, rfl⟩

theorem run_outline (limits : Limits) (code : List Char) (store : Store) :
    (run limits code store).outline = store.outline := by
  obtain ⟨change, after, cases⟩ := run_cases limits code store
  rw [after, Store.outline, Store.outline, List.map_map]
  apply List.map_congr_left
  intro known _
  rcases cases known with same | ⟨source, taken⟩
  · rw [Function.comp_apply, same]
  · rw [Function.comp_apply, taken, Variable.coerce_outline]

theorem run_conforms (limits : Limits) (code : List Char) {store : Store}
    (conforms : store.Conforms) : (run limits code store).Conforms := by
  obtain ⟨change, after, cases⟩ := run_cases limits code store
  rw [after]
  intro changed member
  obtain ⟨known, here, rfl⟩ := List.mem_map.mp member
  rcases cases known with same | ⟨source, taken⟩
  · rw [same]
    exact conforms known here
  · rw [taken]
    exact (conforms known here).coerce source

end Script

namespace Story

theorem run_scripts_outline (limits : Script.Limits) (node : Node) (store : Store) :
    (runScripts limits node store).outline = store.outline := by
  unfold runScripts
  split
  · rfl
  · exact Script.run_outline limits (codeOf node) store

theorem run_scripts_conforms (limits : Script.Limits) (node : Node) {store : Store}
    (conforms : store.Conforms) : (runScripts limits node store).Conforms := by
  unfold runScripts
  split
  · exact conforms
  · exact Script.run_conforms limits (codeOf node) conforms

/-- Every snapshot of a run has the declared variables in the declared order, with their identifiers, names,
kinds and kinds of elements, and conforms to these if the declared values do. -/
theorem snapshots_keep_outline {story : Story} {state : State} (reached : Reachable story state) :
    ∀ store ∈ state.stores, store.outline = story.declared.outline ∧
      (story.declared.Conforms → store.Conforms) := by
  apply reached.every_store fun store => store.outline = story.declared.outline ∧
    (story.declared.Conforms → store.Conforms)
  · exact ⟨rfl, fun conforms => conforms⟩
  · intro node store kept
    constructor
    · rw [run_scripts_outline]
      exact kept.1
    · intro conforms
      exact run_scripts_conforms story.limits node (kept.2 conforms)

/-- A stall whose script leaves values of the wrong kinds behind. -/
def market : Project :=
  { store :=
      [⟨"b", "bag", .list .text [.text "rope"]⟩,
        ⟨"h", "hero", .object (.ofPairs [("age", ⟨.number, .number (Number.ofWhole 7)⟩)])⟩,
        ⟨"o", "open", .boolean false⟩]
    boards :=
      [{ id := "b"
         name := "Market"
         nodes :=
          [⟨"stall", .content, some "Stall",
            some "<script>bag = [1, [true]]; hero = #\x7bname: [2], age: \"old\"\x7d; open = 3</script>",
            [], [], none⟩]
         edges := [] }]
    activeBoard := none }

theorem market_keeps_its_outline :
    Reachable (ofProject Options.standard market)
        ((ofProject Options.standard market).start (some "stall")) ∧
      market.store.Conforms ∧
      (((ofProject Options.standard market).start (some "stall")).store.map Variable.display =
        ["[\"1\",\"[true]\"]", "\x7b\"age\":\"old\",\"name\":\"[2]\"\x7d", "true"]) ∧
      ∀ store ∈ ((ofProject Options.standard market).start (some "stall")).stores,
        store.outline = market.store.outline ∧ store.Conforms := by
  have reached : Reachable (ofProject Options.standard market)
      ((ofProject Options.standard market).start (some "stall")) := Reachable.start (some "stall")
  have conforms : market.store.Conforms := by decide
  have shown : ((ofProject Options.standard market).start (some "stall")).store.map Variable.display =
      ["[\"1\",\"[true]\"]", "\x7b\"age\":\"old\",\"name\":\"[2]\"\x7d", "true"] := by decide +kernel
  refine ⟨reached, conforms, shown, ?_⟩
  intro store member
  obtain ⟨outline, kept⟩ := snapshots_keep_outline reached store member
  exact ⟨outline, kept conforms⟩

end Story

end Narrative
