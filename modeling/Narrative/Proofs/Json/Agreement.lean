import Narrative.Json.Agreement
import Narrative.Proofs.Json.Arranged
import Narrative.Proofs.Sameness

/-!
# Agreement of documents and sameness of values

Documents are compared without reading values from them, and still agree exactly where the values are the same.
Null is read as not-a-number, which no figure stands for, so it agrees with nothing but itself.
-/

namespace Narrative

set_option autoImplicit false

namespace Json

section Comparison

theorem members_agree_eq (expected found : List (String × Json)) :
    membersAgree expected found =
      expected.all fun member => (Keyed.find? member.1 found).any (agrees member.2) := by
  induction expected with
  | nil => rfl
  | cons member rest induction =>
      rw [membersAgree, List.all_cons, induction]
      cases Keyed.find? member.1 found <;> rfl

/-- Objects agree if they have the same number of members and each finds one of its name that agrees. -/
theorem objects_agree (expected found : List (String × Json)) :
    agrees (.object expected) (.object found) = Keyed.paired agrees expected found := by
  rw [agrees, members_agree_eq, Keyed.paired]

end Comparison

/-- The value that a document stands for, with the members of objects in the order of their names. -/
def meaning (document : Json) : Value :=
  Value.ofJson document.arranged

theorem entries_of_json_map (members : List (String × Json)) :
    Value.entriesOfJson members = members.map fun member => (member.1, Value.ofJson member.2) := by
  induction members with
  | nil => rfl
  | cons member rest induction => rw [Value.entriesOfJson, List.map_cons, induction]

/-- The entries of an object's meaning are in order, and they are the meanings of its members. -/
theorem object_meaning {members : List (String × Json)} (distinct : Keyed.Distinct members) :
    ∃ entries : Keyed Value, meaning (.object members) = .object entries ∧ entries.Ordered ∧
      (members.map fun member => (member.1, meaning member.2)).Perm entries := by
  have names : Keyed.Distinct (arrangedMembers members) := by
    rwa [arranged_members_map, Keyed.Distinct, List.map_map]
  have kept := ((Keyed.perm_of_pairs names).map fun member => (member.1, Value.ofJson member.2)).symm
  rw [meaning, arranged, Value.ofJson, entries_of_json_map]
  rw [arranged_members_map] at kept ⊢
  rw [List.map_map] at kept
  exact ⟨_, rfl, (Keyed.ordered_of_pairs _).map Value.ofJson, kept⟩

section Meaning

mutual

theorem agrees_eq_same (left right : Json) (proper : left.Proper) (other : right.Proper) :
    agrees left right = Value.same left.meaning right.meaning := by
  cases left with
  | null =>
      cases right with
      | whole amount =>
          exact ((Number.same_comm _ _).trans (Number.not_same_quiet_nan (Number.of_whole_definite amount))).symm
      | real amount => exact ((Number.same_comm _ _).trans (Number.not_same_quiet_nan other)).symm
      | _ => rfl
  | boolean flag => cases right <;> rfl
  | whole amount =>
      have definite := Number.of_whole_definite amount
      cases right with
      | null => exact (Number.not_same_quiet_nan definite).symm
      | whole found => exact (Number.same_of_definite definite).symm
      | real found => exact (Number.same_of_definite definite).symm
      | _ => rfl
  | real amount =>
      cases right with
      | null => exact (Number.not_same_quiet_nan proper).symm
      | whole found => exact (Number.same_of_definite proper).symm
      | real found => exact (Number.same_of_definite proper).symm
      | _ => rfl
  | text letters => cases right <;> rfl
  | list items =>
      cases right with
      | list others => exact items_agree_eq_same items others proper other
      | _ => rfl
  | object members =>
      cases right with
      | object others =>
          obtain ⟨entries, left, ordered, moved⟩ := object_meaning proper.1
          obtain ⟨found, right, inOrder, shuffled⟩ := object_meaning other.1
          have names : Keyed.Distinct (others.map fun other => (other.1, other.2.meaning)) := by
            rw [Keyed.Distinct, List.map_map]
            exact other.1
          have each : ∀ member ∈ members, ∀ found ∈ others,
              agrees member.2 found.2 = Value.same member.2.meaning found.2.meaning :=
            fun member here found there => member_agrees_eq_same members proper.2 member here found.2
              (proper_members_iff.mp other.2 found there)
          rw [objects_agree, left, right, Value.same_objects ordered inOrder,
            Keyed.paired_map meaning meaning each, Keyed.paired_of_perm names moved shuffled]
      | _ => rfl
termination_by structural left

theorem items_agree_eq_same (items others : List Json) (proper : ProperItems items)
    (other : ProperItems others) :
    itemsAgree items others =
      Value.agreeItems Number.same (Value.itemsOfJson (arrangedItems items))
        (Value.itemsOfJson (arrangedItems others)) := by
  cases items with
  | nil => cases others <;> rfl
  | cons item rest =>
      cases others with
      | nil => rfl
      | cons found later =>
          have first := agrees_eq_same item found proper.1 other.1
          have behind := items_agree_eq_same rest later proper.2 other.2
          rw [itemsAgree, first, behind]
          rfl
termination_by structural items

theorem member_agrees_eq_same (members : List (String × Json)) (proper : ProperMembers members) :
    ∀ member ∈ members, ∀ right : Json, right.Proper →
      agrees member.2 right = Value.same member.2.meaning right.meaning := by
  cases members with
  | nil => exact fun _ member => absurd member List.not_mem_nil
  | cons first rest =>
      refine List.forall_mem_cons.mpr ⟨?_, member_agrees_eq_same rest proper.2⟩
      exact fun right other => agrees_eq_same first.2 right proper.1 other
termination_by structural members

end

/-- A document agrees with null only if it is null. -/
theorem agrees_null_iff (document : Json) :
    (agrees .null document = true ↔ document = .null) ∧ (agrees document .null = true ↔ document = .null) := by
  cases document with
  | null => exact ⟨iff_of_true rfl rfl, iff_of_true rfl rfl⟩
  | _ => exact ⟨iff_of_false nofun nofun, iff_of_false nofun nofun⟩

theorem agrees_equivalence :
    Equivalence fun left right : {document : Json // document.Proper} => agrees left.val right.val = true := by
  have values := Value.same_equivalence.comap fun document : {document : Json // document.Proper} =>
    document.val.meaning
  have same : (fun left right : {document : Json // document.Proper} => agrees left.val right.val = true) =
      Function.onFun (fun left right => Value.same left right = true) fun document => document.val.meaning := by
    funext left right
    rw [agrees_eq_same left.val right.val left.property right.property]
  rw [same]
  exact values

/-- Every document that a text says is sound, and of sound documents those agree that are the same as values.
Documents agree whatever the order of their members; null agrees with null only. -/
theorem documents_agree_as_values :
    (∀ text document, read? text = some document → document.Sound) ∧
    (∀ left right : Json, left.Sound → right.Sound →
      (agrees left right = true ↔ Value.same (Value.ofJson left) (Value.ofJson right) = true)) ∧
    (Equivalence fun left right : {document : Json // document.Proper} => agrees left.val right.val = true) ∧
    (∀ members shuffled, Keyed.Distinct members → members.Perm shuffled →
      (object members).arranged = (object shuffled).arranged) ∧
    (∀ left right : Json, left.Proper → right.Proper → left.arranged = right.arranged →
      agrees left right = true) ∧
    ∀ document : Json, (agrees .null document = true ↔ document = .null) ∧
      (agrees document .null = true ↔ document = .null) := by
  refine ⟨fun _ _ => sound_of_read, ?_, agrees_equivalence, fun _ _ => arranged_of_perm, ?_, agrees_null_iff⟩
  · intro left right sound other
    rw [agrees_eq_same left right sound.proper other.proper, meaning, meaning, sound.arranged, other.arranged]
  · intro left right proper other alike
    rw [agrees_eq_same left right proper other, meaning, meaning, alike]
    exact Value.same_self _

/-- A player in whole numbers, and the same player in doubles with the members the other way round. -/
def players : List Char × List Char :=
  ("\x7b\"hp\": 7, \"bag\": [1, \"a\", null]\x7d".toList,
    "\x7b\"bag\": [1.0, \"a\", null], \"hp\": 7.0\x7d".toList)

theorem players_agree :
    ∃ expected found, read? players.1 = some expected ∧ read? players.2 = some found ∧
      expected.Sound ∧ found.Sound ∧ agrees expected found = true ∧ agrees found expected = true ∧
      Value.same (Value.ofJson expected) (Value.ofJson found) = true := by
  have compared : ((read? players.1).bind fun expected => (read? players.2).map (agrees expected)) =
      some true := by decide +kernel
  obtain ⟨expected, whole, found, real, agree⟩ :
      ∃ expected, read? players.1 = some expected ∧
        ∃ found, read? players.2 = some found ∧ agrees expected found = true := by
    simpa only [Option.bind_eq_some_iff, Option.map_eq_some_iff] using compared
  obtain ⟨sound, values, equivalence, -⟩ := documents_agree_as_values
  have first := sound _ _ whole
  have second := sound _ _ real
  have back := @equivalence.symm ⟨expected, first.proper⟩ ⟨found, second.proper⟩ agree
  exact ⟨expected, found, whole, real, first, second, agree, back, (values _ _ first second).mp agree⟩

end Meaning

end Json

end Narrative
