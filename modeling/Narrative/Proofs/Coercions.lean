import Narrative.Proofs.Outlines
import Narrative.Proofs.Saving

/-!
# Values written into variables

Whatever value is written into a variable, the variable keeps its kind, and a list the kind of its elements.
Main statement: what is taken reads back as itself, the value of any variable of the same kind is taken as
it is, and a list or an object does not change where no collection of its kind is written.
-/

namespace Narrative

set_option autoImplicit false

theorem Scalar.coerce_own {kind : ScalarKind} {scalar : Scalar} (own : scalar.kind = kind) :
    Scalar.coerce kind scalar.toValue = scalar := by
  subst own
  cases scalar <;> rfl

/-- An entry whose declared kind is that of its value is made again from the value. -/
theorem Entry.of_own {entry : Entry} (own : entry.value.kind = entry.kind) :
    ofScalar (Scalar.ofValue entry.value.toValue) = entry := by
  obtain ⟨kind, value⟩ := entry
  obtain rfl : value.kind = kind := own
  cases value <;> rfl

namespace Stored

/-- A list takes lists, an object takes objects, and other variables take any value. -/
def Takes : Stored → Value → Prop
  | .list _ _, source => ∃ items, source = .list items
  | .object _, source => ∃ entries, source = .object entries
  | _, _ => True

theorem takes_own {current other : Stored} (kind : other.kind = current.kind) :
    current.Takes other.toValue := by
  cases current with
  | list elementKind elements =>
      cases other with
      | list otherKind others => exact ⟨others.map Scalar.toValue, rfl⟩
      | _ => cases kind
  | object members =>
      cases other with
      | object others => exact ⟨_, rfl⟩
      | _ => cases kind
  | _ => trivial

theorem coerce_of_not_takes {current : Stored} {source : Value} (refused : ¬current.Takes source) :
    current.coerce source = current := by
  cases current with
  | list elementKind elements =>
      cases source with
      | list items => exact absurd ⟨items, rfl⟩ refused
      | _ => rfl
  | object members =>
      cases source with
      | object entries => exact absurd ⟨entries, rfl⟩ refused
      | _ => rfl
  | _ => exact absurd trivial refused

/-- What is taken does not depend on what was held before. -/
theorem coerce_congr {current other : Stored} {source : Value} (takes : current.Takes source)
    (kind : other.kind = current.kind) (elementKind : other.elementKind? = current.elementKind?) :
    other.coerce source = current.coerce source := by
  cases current with
  | list expected elements =>
      obtain ⟨items, rfl⟩ := takes
      cases other with
      | list found others =>
          obtain rfl := Option.some.inj elementKind
          rfl
      | _ => cases kind
  | object members =>
      obtain ⟨entries, rfl⟩ := takes
      cases other with
      | object others => rfl
      | _ => cases kind
  | boolean flag =>
      cases other with
      | boolean held => rfl
      | _ => cases kind
  | number amount =>
      cases other with
      | number held => rfl
      | _ => cases kind
  | text letters =>
      cases other with
      | text held => rfl
      | _ => cases kind

/-- The value of a variable is taken by the variable as it is. -/
theorem Conforms.coerce_own {current : Stored} (conforms : current.Conforms) :
    current.coerce current.toValue = current := by
  cases current with
  | boolean flag => rfl
  | number amount => rfl
  | text letters => rfl
  | list elementKind elements =>
      have each : ∀ element ∈ elements, Scalar.coerce elementKind element.toValue = element :=
        fun element member => Scalar.coerce_own (conforms element member)
      simp only [toValue, Stored.coerce, List.map_map]
      exact congrArg (Stored.list elementKind) (map_eq_self_iff.mpr each)
  | object members =>
      have each : ∀ entry ∈ members.entries,
          (entry.1, Entry.ofScalar (Scalar.ofValue entry.2.value.toValue)) = entry :=
        fun entry member => Prod.ext rfl (Entry.of_own (conforms entry member))
      have again : members.entries.map
          (fun entry => (entry.1, Entry.ofScalar (Scalar.ofValue entry.2.value.toValue))) =
            members.entries := map_eq_self_iff.mpr each
      simp only [toValue, Stored.coerce, List.map_map, Function.comp_def]
      rw [again, Dictionary.of_pairs_entries]

/-- The value of a variable that conforms to its kinds is taken as it is by any variable with them. -/
theorem Conforms.taken {current other : Stored} (conforms : other.Conforms)
    (kind : other.kind = current.kind) (elementKind : other.elementKind? = current.elementKind?) :
    current.coerce other.toValue = other := by
  have settled := conforms.coerce_own
  rwa [coerce_congr (takes_own kind) kind elementKind] at settled

/-- Whatever is written into a variable that conforms to its kinds, what it holds then has the same kind
and element kind and conforms to them, and does not change when it is written again. Values of its own kind
are taken as they are, its own among them, and what is no collection of its kind leaves a list or an object
as it was. -/
theorem coercion_settles_in_kind {current : Stored} (conforms : current.Conforms) (source : Value) :
    ((current.coerce source).kind = current.kind ∧
      (current.coerce source).elementKind? = current.elementKind? ∧
      (current.coerce source).Conforms) ∧
    (current.coerce source).coerce (current.coerce source).toValue = current.coerce source ∧
    current.coerce current.toValue = current ∧
    (∀ other : Stored, other.Conforms → other.kind = current.kind →
      other.elementKind? = current.elementKind? → current.coerce other.toValue = other) ∧
    (¬current.Takes source → current.coerce source = current) := by
  obtain ⟨kind, elementKind⟩ := current.coerce_kinds source
  have after : (current.coerce source).Conforms := conforms.coerce source
  refine ⟨⟨kind, elementKind, after⟩, after.coerce_own, conforms.coerce_own, ?_, coerce_of_not_takes⟩
  intro other conforming sameKind sameElements
  exact conforming.taken sameKind sameElements

/-- A hero with points. -/
def hero : Stored :=
  .object (Dictionary.ofPairs [("hp", Entry.ofScalar (.number (Number.ofWhole 10)))])

/-- A script's value for the hero, with a list that holds not-a-number. -/
def rescued : Value :=
  .object [("mood", .text "calm"), ("bag", .list [.text "rope", .number Number.quietNan])]

theorem hero_takes_what_the_script_left :
    hero.Conforms ∧
      (hero.coerce rescued).toValue =
        .object [("bag", .text "[\"rope\",null]"), ("mood", .text "calm")] ∧
      (hero.coerce rescued).Conforms ∧
      (hero.coerce rescued).coerce (hero.coerce rescued).toValue = hero.coerce rescued ∧
      hero.coerce (.text "calm") = hero := by
  have conforms : hero.Conforms := by decide
  have settled := coercion_settles_in_kind conforms rescued
  have refused := (coercion_settles_in_kind conforms (.text "calm")).2.2.2.2
  have other : ¬hero.Takes (.text "calm") := by
    rintro ⟨entries, same⟩
    cases same
  have calm : (hero.coerce rescued).toValue =
      .object [("bag", .text "[\"rope\",null]"), ("mood", .text "calm")] := by
    rfl
  exact ⟨conforms, calm, settled.1.2.2, settled.2.1, refused other⟩

end Stored

end Narrative
