import Narrative.Elementary
import Narrative.Player.Save
import Narrative.Proofs.Json.Records
import Narrative.Proofs.Json.RoundTrip
import Narrative.Proofs.Number.Doubles

/-!
# Saved states

A state that was written and read again is the state that it was, except that infinite numbers have
become not-a-number. What a document needs of the numbers in it is said by `Survives`; the documents
themselves come back whatever the numbers are.
-/

namespace Narrative

set_option autoImplicit false

namespace Number

/-- A number as it comes back from a document. -/
def saved (amount : Float) : Float :=
  if isFinite amount then amount else quietNan

def IsInfinite (amount : Float) : Prop :=
  ∃ negative, Binary.ofFloat amount = .infinite negative

/-- The text of the number is read as the same number. -/
def Survives (amount : Float) : Prop :=
  Json.figure? (Json.realText amount) = some (.inr amount)

instance (amount : Float) : Decidable (IsInfinite amount) :=
  inferInstanceAs (Decidable (∃ negative, Binary.ofFloat amount = .infinite negative))

instance (amount : Float) : Decidable (Survives amount) :=
  inferInstanceAs (Decidable (Json.figure? (Json.realText amount) = some (.inr amount)))

theorem saved_eq_iff {amount : Float} : saved amount = amount ↔ ¬IsInfinite amount := by
  cases meaning : Binary.ofFloat amount with
  | finite negative significand exponent => simp [saved, isFinite, IsInfinite, meaning]
  | nan =>
      have quiet := quiet_nan_of_nan meaning
      simp [saved, isFinite, IsInfinite, meaning, quiet.symm]
  | infinite negative =>
      have apart : quietNan ≠ amount := by
        intro same
        have nan : Binary.ofFloat quietNan = .nan := by decide
        rw [same, meaning] at nan
        simp at nan
      simp [saved, isFinite, IsInfinite, meaning, apart]

/-- What is read for a number that was saved. -/
theorem saved_cases (amount : Float) :
    saved amount = if IsInfinite amount then quietNan else amount := by
  split
  · rename_i infinite
    obtain ⟨negative, meaning⟩ := infinite
    simp [saved, isFinite, meaning]
  · rename_i finite
    exact saved_eq_iff.mpr finite

end Number

open Number

/-- Every finite number among these survives being written and read. -/
def Lasting (numbers : List Float) : Prop :=
  ∀ amount ∈ numbers, isFinite amount = true → Survives amount

instance (numbers : List Float) : Decidable (Lasting numbers) :=
  inferInstanceAs (Decidable (∀ amount ∈ numbers, isFinite amount = true → Survives amount))

theorem lasting_parts_iff {α : Type} {values : List α} {numbers : α → List Float} :
    Lasting (values.flatMap numbers) ↔ ∀ value ∈ values, Lasting (numbers value) :=
  List.forall_mem_flatMap

theorem saved_number_float (amount : Float) :
    (savedNumber amount).toRaw.float? = some (saved amount) := by
  cases finite : isFinite amount <;>
    simp [savedNumber, saved, finite, Json.toRaw, Raw.float?]

theorem saved_number_legible {amount : Float} (survives : isFinite amount = true → Survives amount) :
    (savedNumber amount).Legible := by
  cases finite : isFinite amount with
  | true =>
      simp only [savedNumber, finite, if_true]
      exact survives finite
  | false => simp [savedNumber, finite, Json.Legible]

namespace Scalar

def numbers : Scalar → List Float
  | .boolean _ => []
  | .number amount => [amount]
  | .text _ => []

def saved : Scalar → Scalar
  | .boolean flag => .boolean flag
  | .number amount => .number (Number.saved amount)
  | .text letters => .text letters

theorem read_saved (scalar : Scalar) : read? scalar.toJson.toRaw = some scalar.saved := by
  cases scalar with
  | boolean flag => rfl
  | text letters => rfl
  | number amount =>
      cases finite : isFinite amount <;>
        simp [toJson, savedNumber, finite, Json.toRaw, read?, saved, Number.saved, Raw.float?]

theorem legible {scalar : Scalar} (lasting : Lasting scalar.numbers) : scalar.toJson.Legible := by
  cases scalar with
  | boolean flag => trivial
  | text letters => trivial
  | number amount => exact saved_number_legible (lasting amount (by simp [numbers]))

theorem readable (scalar : Scalar) (room : Nat) : scalar.toJson.toRaw.isReadable room = true := by
  cases scalar with
  | boolean flag => rfl
  | text letters => rfl
  | number amount =>
      cases finite : isFinite amount <;>
        simp [toJson, savedNumber, finite, Json.toRaw, Raw.isReadable, Raw.json?]

theorem saved_eq_iff {scalar : Scalar} :
    scalar.saved = scalar ↔ ∀ amount ∈ scalar.numbers, ¬IsInfinite amount := by
  cases scalar with
  | boolean flag => simp [saved, numbers]
  | text letters => simp [saved, numbers]
  | number amount => simp [saved, numbers, Number.saved_eq_iff]

end Scalar

theorem ScalarKind.read_name (kind : ScalarKind) :
    ScalarKind.read? (Json.text kind.name).toRaw = some kind := by
  cases kind <;> rfl

namespace Entry

def numbers (entry : Entry) : List Float :=
  entry.value.numbers

def saved (entry : Entry) : Entry :=
  { entry with value := entry.value.saved }

theorem read_saved (entry : Entry) : read? entry.toJson.toRaw = some entry.saved := by
  have fields : Fields.of? ["type", "value"] entry.toJson.toRaw =
      some ⟨false, [some (Json.text entry.kind.name).toRaw, some entry.value.toJson.toRaw]⟩ :=
    Fields.of_object (by simp)
  simp [read?, fields, Fields.required?, Fields.at?, ScalarKind.read_name, Scalar.read_saved, saved]

theorem legible {entry : Entry} (lasting : Lasting entry.numbers) : entry.toJson.Legible := by
  simpa [toJson, Json.Legible, Json.LegibleMembers] using Scalar.legible lasting

theorem readable (entry : Entry) (room : Nat) :
    entry.toJson.toRaw.isReadable (room + 1) = true := by
  have kind : (Json.text entry.kind.name).toRaw.isReadable room = true := rfl
  exact Json.object_readable (by simp [kind, entry.value.readable room])

theorem saved_eq_iff {entry : Entry} :
    entry.saved = entry ↔ ∀ amount ∈ entry.numbers, ¬IsInfinite amount := by
  obtain ⟨kind, value⟩ := entry
  simp [saved, numbers, Scalar.saved_eq_iff]

end Entry

theorem Kind.read_name (kind : Kind) :
    (Json.text kind.name).toRaw.heldAlternative?.bind Kind.ofName? = some kind := by
  cases kind <;> rfl

theorem Dictionary.map_eq_self_iff {α : Type} {change : α → α} {dictionary : Dictionary α} :
    dictionary.map change = dictionary ↔
      ∀ entry ∈ dictionary.entries, change entry.2 = entry.2 := by
  have entries : dictionary.map change = dictionary ↔
      dictionary.entries.map (fun entry => (entry.1, change entry.2)) = dictionary.entries :=
    ⟨fun same => congrArg Dictionary.entries same, fun same => Dictionary.ext same⟩
  rw [entries, Narrative.map_eq_self_iff]
  simp [Prod.ext_iff]

namespace Stored

def numbers : Stored → List Float
  | .boolean _ => []
  | .number amount => [amount]
  | .text _ => []
  | .list _ elements => elements.flatMap Scalar.numbers
  | .object members => members.entries.flatMap fun entry => entry.2.numbers

def saved : Stored → Stored
  | .boolean flag => .boolean flag
  | .number amount => .number (Number.saved amount)
  | .text letters => .text letters
  | .list elementKind elements => .list elementKind (elements.map Scalar.saved)
  | .object members => .object (members.map Entry.saved)

theorem read_saved (stored : Stored) :
    read? stored.kind stored.toJson.toRaw = some stored.saved := by
  cases stored with
  | boolean flag => rfl
  | text letters => rfl
  | number amount => simp [kind, toJson, read?, saved, saved_number_float]
  | list elementKind elements =>
      have fields : Fields.of? ["elementType", "elements"] (Stored.list elementKind elements).toJson.toRaw =
          some ⟨false, [some (Json.text elementKind.name).toRaw,
            some (Json.list (elements.map Scalar.toJson)).toRaw]⟩ :=
        Fields.of_object (by simp)
      simp [kind, read?, fields, Fields.required?, Fields.defaulted?, Fields.at?,
        ScalarKind.read_name, Raw.list_of_items Scalar.read_saved, saved]
  | object members =>
      have fields : Fields.of? ["keys"] (Stored.object members).toJson.toRaw =
          some ⟨false, [some (Json.object
            (members.entries.map fun entry => (entry.1, entry.2.toJson))).toRaw]⟩ :=
        Fields.of_object (by simp)
      simp [kind, read?, fields, Fields.defaulted?, Fields.at?,
        Raw.keyed_of_members Entry.read_saved, saved]

theorem legible {stored : Stored} (lasting : Lasting stored.numbers) : stored.toJson.Legible := by
  cases stored with
  | boolean flag => trivial
  | text letters => trivial
  | number amount => exact saved_number_legible (lasting amount (by simp [numbers]))
  | list elementKind elements =>
      have items : Json.LegibleItems (elements.map Scalar.toJson) := by
        apply Json.legible_items_map
        intro element here
        exact Scalar.legible (lasting_parts_iff.mp lasting element here)
      simpa [toJson, Json.Legible, Json.LegibleMembers] using items
  | object members =>
      have entries : Json.LegibleMembers
          (members.entries.map fun entry => (entry.1, entry.2.toJson)) := by
        apply Json.legible_members_iff.mpr
        intro member there
        obtain ⟨entry, here, rfl⟩ := List.mem_map.mp there
        exact Entry.legible (lasting_parts_iff.mp lasting entry here)
      simpa [toJson, Json.Legible, Json.LegibleMembers] using entries

/-- Values nest at most three deep. -/
theorem readable (stored : Stored) (room : Nat) :
    stored.toJson.toRaw.isReadable (room + 3) = true := by
  cases stored with
  | boolean flag => rfl
  | text letters => rfl
  | number amount => exact (Scalar.number amount).readable _
  | list elementKind elements =>
      have kind : (Json.text elementKind.name).toRaw.isReadable (room + 2) = true := rfl
      have items : (Json.list (elements.map Scalar.toJson)).toRaw.isReadable (room + 2) = true := by
        apply Json.list_readable
        intro item member
        obtain ⟨element, -, rfl⟩ := List.mem_map.mp member
        exact element.readable _
      exact Json.object_readable (by simp [kind, items])
  | object members =>
      have entries : (Json.object (members.entries.map fun entry =>
          (entry.1, entry.2.toJson))).toRaw.isReadable (room + 2) = true := by
        apply Json.object_readable
        intro member there
        obtain ⟨entry, -, rfl⟩ := List.mem_map.mp there
        exact entry.2.readable _
      exact Json.object_readable (by simp [entries])

theorem saved_eq_iff {stored : Stored} :
    stored.saved = stored ↔ ∀ amount ∈ stored.numbers, ¬IsInfinite amount := by
  cases stored with
  | boolean flag => simp [saved, numbers]
  | text letters => simp [saved, numbers]
  | number amount => simp [saved, numbers, Number.saved_eq_iff]
  | list elementKind elements =>
      simp only [saved, numbers, Stored.list.injEq, true_and, map_eq_self_iff, Scalar.saved_eq_iff,
        List.forall_mem_flatMap]
  | object members =>
      simp only [saved, numbers, Stored.object.injEq, Dictionary.map_eq_self_iff, Entry.saved_eq_iff,
        List.forall_mem_flatMap]

end Stored

namespace Variable

def saved (known : Variable) : Variable :=
  { known with value := known.value.saved }

/-- A variable is read back where there is room for the levels of its value. -/
theorem read_saved (known : Variable) (room : Nat) :
    read? (room + 3) known.toJson.toRaw = some known.saved := by
  have fields : Fields.ofMembers? ["id", "name", "type", "value"]
      (Json.membersToRaw [("id", .text known.id), ("name", .text known.name),
        ("type", .text known.value.kind.name), ("value", known.value.toJson)]) =
      some ⟨false, [some (Json.text known.id).toRaw, some (Json.text known.name).toRaw,
        some (Json.text known.value.kind.name).toRaw, some known.value.toJson.toRaw]⟩ :=
    Fields.of_members (by simp)
  have kind : (Json.text known.value.kind.name).toRaw.isReadable (room + 3) = true := rfl
  have held : heldMembers (room + 3)
      (Json.membersToRaw [("id", .text known.id), ("name", .text known.name),
        ("type", .text known.value.kind.name), ("value", known.value.toJson)]) = true := by
    simp [heldMembers, Json.members_to_raw, kind, known.value.readable room]
  have id : Raw.text? (Json.text known.id).toRaw = some known.id := rfl
  have name : Raw.text? (Json.text known.name).toRaw = some known.name := rfl
  rw [toJson, Json.toRaw, read?]
  simp [fields, held, Fields.required?, Fields.at?, id, name, Kind.read_name, Stored.read_saved, saved]

theorem legible {known : Variable} (lasting : Lasting known.value.numbers) :
    known.toJson.Legible := by
  simpa [toJson, Json.Legible, Json.LegibleMembers] using Stored.legible lasting

theorem saved_eq_iff {known : Variable} :
    known.saved = known ↔ ∀ amount ∈ known.value.numbers, ¬IsInfinite amount := by
  obtain ⟨id, name, value⟩ := known
  simp [saved, Stored.saved_eq_iff]

end Variable

namespace Store

def numbers (store : Store) : List Float :=
  store.flatMap fun known => known.value.numbers

def saved (store : Store) : Store :=
  store.map Variable.saved

theorem read_saved (store : Store) (room : Nat) :
    read? (room + 3) store.toJson.toRaw = some store.saved :=
  Raw.list_of_items (fun known => known.read_saved room) store

theorem legible {store : Store} (lasting : Lasting store.numbers) : store.toJson.Legible := by
  apply Json.legible_items_map
  intro known here
  exact Variable.legible (lasting_parts_iff.mp lasting known here)

theorem saved_eq_iff {store : Store} :
    store.saved = store ↔ ∀ amount ∈ store.numbers, ¬IsInfinite amount := by
  simp only [saved, numbers, map_eq_self_iff, Variable.saved_eq_iff, List.forall_mem_flatMap]

end Store

namespace Story

namespace Moment

def saved (moment : Moment) : Moment :=
  { moment with store := moment.store.saved }

theorem read_saved (moment : Moment) (room : Nat) :
    read? (room + 3) moment.toJson.toRaw = some moment.saved := by
  have fields : Fields.of? ["nodeId", "variables"] moment.toJson.toRaw =
      some ⟨false, [some (Json.text moment.node).toRaw, some moment.store.toJson.toRaw]⟩ :=
    Fields.of_object (by simp)
  have node : Raw.text? (Json.text moment.node).toRaw = some moment.node := rfl
  simp [read?, fields, Fields.required?, Fields.at?, node, Store.read_saved, saved]

theorem legible {moment : Moment} (lasting : Lasting moment.store.numbers) :
    moment.toJson.Legible := by
  simpa [toJson, Json.Legible, Json.LegibleMembers] using Store.legible lasting

theorem saved_eq_iff {moment : Moment} :
    moment.saved = moment ↔ ∀ amount ∈ moment.store.numbers, ¬IsInfinite amount := by
  obtain ⟨node, store⟩ := moment
  simp [saved, Store.saved_eq_iff]

end Moment

theorem Status.read_name (status : Status) :
    (Json.text status.name).toRaw.alternative?.bind Status.ofName? = some status := by
  cases status <;> rfl

namespace State

/-- The numbers that the variables hold now or held at a moment of the history. -/
def numbers (state : State) : List Float :=
  state.store.numbers ++ state.history.flatMap fun moment => moment.store.numbers

def saved (state : State) : State :=
  { state with
    store := state.store.saved
    history := state.history.map Moment.saved }

/-- A state is read back where there is room for its levels. -/
theorem read_saved (state : State) (room : Nat) :
    read? (room + 8) state.toJson.toRaw = some state.saved := by
  have fields : Fields.of? ["entryNodeId", "currentNodeId", "status", "variables", "history",
        "lastVisitedNodeId"] state.toJson.toRaw =
      some ⟨false, [some (Json.nullableText state.entry).toRaw,
        some (Json.nullableText state.current).toRaw, some (Json.text state.status.name).toRaw,
        some state.store.toJson.toRaw,
        some (Json.list (state.history.reverse.map Moment.toJson)).toRaw,
        some (Json.nullableText state.lastVisited).toRaw]⟩ :=
    Fields.of_object (by simp)
  have store := state.store.read_saved (room + 2)
  have history := Raw.list_of_items (fun moment => Moment.read_saved moment room)
    state.history.reverse
  simp [read?, fields, Fields.required?, Fields.nullable?, Fields.at?, Raw.nullable_text,
    Status.read_name, store, history, saved, ← List.map_reverse]

theorem legible {state : State} (lasting : Lasting state.numbers) : state.toJson.Legible := by
  obtain ⟨store, history⟩ := List.forall_mem_append.mp lasting
  have moments : Json.LegibleItems (state.history.reverse.map Moment.toJson) := by
    apply Json.legible_items_map
    intro moment here
    exact Moment.legible (lasting_parts_iff.mp history moment (List.mem_reverse.mp here))
  have nullable : ∀ value, (Json.nullableText value).Legible := by
    intro value
    cases value <;> trivial
  have now := Store.legible store
  simp [toJson, Json.Legible, Json.LegibleMembers, nullable, moments, now, -List.map_reverse]

theorem saved_eq_iff {state : State} :
    state.saved = state ↔ ∀ amount ∈ state.numbers, ¬IsInfinite amount := by
  obtain ⟨entry, current, status, store, history, lastVisited⟩ := state
  rw [numbers, List.forall_mem_append, List.forall_mem_flatMap]
  simp [saved, Store.saved_eq_iff, map_eq_self_iff, Moment.saved_eq_iff]

/-- The text of a state is read as that state, its infinite numbers turned into not-a-number. -/
theorem of_text {state : State} (lasting : Lasting state.numbers) :
    ofText? state.text.toList = some state.saved := by
  have raw := Json.raw_compact (legible lasting)
  rw [ofText?, text, Json.compactText, String.toList_ofList, raw]
  exact state.read_saved 119

end State

end Story

namespace Save

theorem read_saved (save : Save) :
    read? save.toJson.toRaw = some { save with state := save.state.saved } := by
  have fields : Fields.of? ["schemaVersion", "projectPath", "state"] save.toJson.toRaw =
      some ⟨false, [some (Json.text save.schema).toRaw, some (Json.text save.project).toRaw,
        some save.state.toJson.toRaw]⟩ :=
    Fields.of_object (by simp)
  have schema : Raw.text? (Json.text save.schema).toRaw = some save.schema := rfl
  have project : Raw.text? (Json.text save.project).toRaw = some save.project := rfl
  have state : Story.State.read? (Raw.deepest - 1) save.state.toJson.toRaw = some save.state.saved :=
    save.state.read_saved 118
  simp [read?, fields, Fields.required?, Fields.at?, schema, project, state]

theorem legible {save : Save} (lasting : Lasting save.state.numbers) : save.toJson.Legible := by
  simpa [toJson, Json.Legible, Json.LegibleMembers] using Story.State.legible lasting

/-- The text of a save is read as that save, its infinite numbers turned into not-a-number. -/
theorem parse_text {project : String} {state : Story.State} (lasting : Lasting state.numbers)
    (named : (Text.trim project.toList).isEmpty = false) (path : String) :
    parse path (ofState project state).text = .ok (ofState project state.saved) := by
  have raw := Json.raw_indented (@legible (ofState project state) lasting)
  have read : (Json.raw? (ofState project state).text.toList).bind read? =
      some (ofState project state.saved) := by
    rw [text, Json.indentedText, String.toList_ofList, raw]
    exact read_saved (ofState project state)
  have schema : (ofState project state.saved).schema = currentSaveSchema := rfl
  have same : (ofState project state.saved).project = project := rfl
  simp [parse, read, schema, same, named]

end Save

end Narrative
