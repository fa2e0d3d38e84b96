import Narrative.Json.Fields

/-!
# Records read back

What the readers of records, lists and maps find in the documents that were written for them.
-/

namespace Narrative

set_option autoImplicit false

namespace Json

theorem members_to_raw (members : List (String × Json)) :
    membersToRaw members = members.map fun member => (some member.1, member.2.toRaw) := by
  induction members with
  | nil => rfl
  | cons member rest ih => rw [membersToRaw, ih, List.map_cons]

end Json

namespace Fields

/-- Where names are told apart, a name picks its own member. -/
theorem filter_named {α : Type} {members : List (String × α)}
    (distinct : (members.map Prod.fst).Nodup) {member : String × α} (here : member ∈ members) :
    (members.filter fun other => other.1 == member.1) = [member] := by
  induction members with
  | nil => simp at here
  | cons first rest ih =>
      obtain ⟨apart, others⟩ := List.nodup_cons.mp distinct
      rcases List.mem_cons.mp here with rfl | later
      · have none_left : (rest.filter fun other => other.1 == member.1) = [] := by
          apply List.filter_eq_nil_iff.mpr
          intro other there named
          apply apart
          rw [← beq_iff_eq.mp named]
          exact List.mem_map_of_mem there
        simp [none_left]
      · have unlike : first.1 ≠ member.1 := by
          intro named
          apply apart
          rw [named]
          exact List.mem_map_of_mem later
        simpa [unlike] using ih others later

/-- An object whose members are the declared fields in their order gives each field its member. -/
theorem of_named {α : Type} {members : List (String × α)} (distinct : (members.map Prod.fst).Nodup)
    (said : α → Raw) :
    ofMembers? (members.map Prod.fst) (members.map fun member => (some member.1, said member.2)) =
      some ⟨false, members.map fun member => some (said member.2)⟩ := by
  have found : ((members.map Prod.fst).map fun name =>
      ((members.map fun member => (some member.1, said member.2)).filter fun member =>
        member.1 == some name).map (·.2)) = members.map fun member => [said member.2] := by
    rw [List.map_map]
    apply List.map_congr_left
    intro member here
    have own := filter_named distinct here
    simp [List.filter_map, Function.comp_def, own]
  have named : ((members.map fun member => (some member.1, said member.2)).any fun member =>
      member.1.isNone) = false := by
    simp
  simp [ofMembers?, named, found]

theorem of_members {members : List (String × Json)} (distinct : (members.map Prod.fst).Nodup) :
    ofMembers? (members.map Prod.fst) (Json.membersToRaw members) =
      some ⟨false, members.map fun member => some member.2.toRaw⟩ := by
  rw [Json.members_to_raw]
  exact of_named distinct Json.toRaw

theorem of_object {members : List (String × Json)} (distinct : (members.map Prod.fst).Nodup) :
    of? (members.map Prod.fst) (Json.object members).toRaw =
      some ⟨false, members.map fun member => some member.2.toRaw⟩ :=
  of_members distinct

end Fields

namespace Raw

variable {α : Type} {read : Raw → Option α} {write : α → Json} {back : α → α}

/-- A list is read back if each item is. -/
theorem list_of_items (each : ∀ value, read (write value).toRaw = some (back value))
    (values : List α) :
    list? read (Json.list (values.map write)).toRaw = some (values.map back) := by
  change (Json.itemsToRaw (values.map write)).mapM read = some (values.map back)
  induction values with
  | nil => rfl
  | cons value rest ih =>
      rw [List.map_cons, Json.itemsToRaw, List.mapM_cons, each value, ih]
      rfl

/-- A map is read back if each value is. -/
theorem keyed_of_members (each : ∀ value, read (write value).toRaw = some (back value))
    (dictionary : Dictionary α) :
    keyed? read
        (Json.object (dictionary.entries.map fun entry => (entry.1, write entry.2))).toRaw =
      some (dictionary.map back) := by
  have pairs : ∀ entries : List (String × α),
      (Json.membersToRaw (entries.map fun entry => (entry.1, write entry.2))).mapM
          (fun member => do
            let name ← member.1
            let value ← read member.2
            pure (name, value)) =
        some (entries.map fun entry => (entry.1, back entry.2)) := by
    intro entries
    induction entries with
    | nil => rfl
    | cons entry rest ih =>
        rw [List.map_cons, Json.membersToRaw, List.mapM_cons, ih]
        simp [each]
  simp only [Json.toRaw, keyed?]
  rw [pairs dictionary.entries]
  exact congrArg some (Dictionary.of_pairs_entries (dictionary.map back))

theorem nullable_text (value : Option String) :
    nullable? text? (Json.nullableText value).toRaw = some value := by
  cases value with
  | none => rfl
  | some letters => rfl

end Raw

namespace Json

/-- A document that is a list says what its items say. -/
theorem list_readable {items : List Json} {room : Nat}
    (each : ∀ item ∈ items, item.toRaw.isReadable room = true) :
    (Json.list items).toRaw.isReadable (room + 1) = true := by
  have all : (Raw.jsonItems? room (itemsToRaw items)).isSome = true := by
    induction items with
    | nil => rfl
    | cons item rest ih =>
        obtain ⟨first, readable⟩ := Option.isSome_iff_exists.mp (each item (by simp))
        obtain ⟨others, later⟩ := Option.isSome_iff_exists.mp
          (ih (by intro other member; exact each other (by simp [member])))
        simp [itemsToRaw, Raw.jsonItems?, readable, later]
  simpa [toRaw, Raw.isReadable, Raw.json?] using all

theorem object_readable {members : List (String × Json)} {room : Nat}
    (each : ∀ member ∈ members, member.2.toRaw.isReadable room = true) :
    (Json.object members).toRaw.isReadable (room + 1) = true := by
  have all : (Raw.jsonMembers? room (membersToRaw members)).isSome = true := by
    induction members with
    | nil => rfl
    | cons member rest ih =>
        obtain ⟨first, readable⟩ := Option.isSome_iff_exists.mp (each member (by simp))
        obtain ⟨others, later⟩ := Option.isSome_iff_exists.mp
          (ih (by intro other there; exact each other (by simp [there])))
        simp [membersToRaw, Raw.jsonMembers?, readable, later]
  simpa [toRaw, Raw.isReadable, Raw.json?] using all

end Json

end Narrative
