import Narrative.Proofs.SaveFiles

/-!
# The way of a saved run

Whatever becomes of its numbers, a save that can be read at all says the same project and the same way:
where the run began, where it is and how it stands there, and which nodes it left.
-/

namespace Narrative

set_option autoImplicit false

namespace Json

theorem heard_items (items : List Json) : heardItems items = items.map heard := by
  induction items with
  | nil => rfl
  | cons item rest ih => rw [heardItems, ih, List.map_cons]

theorem heard_members (members : List (String × Json)) :
    heardMembers members = members.map fun member => (some member.1, member.2.heard) := by
  induction members with
  | nil => rfl
  | cons member rest ih => rw [heardMembers, ih, List.map_cons]

end Json

theorem Fields.of_heard {members : List (String × Json)} (distinct : (members.map Prod.fst).Nodup) :
    of? (members.map Prod.fst) (Json.object members).heard =
      some ⟨false, members.map fun member => some member.2.heard⟩ := by
  rw [Json.heard, of?, Json.heard_members]
  exact of_named distinct Json.heard

namespace Story

/-- What a state says beside its variables. -/
structure Way where
  entry : Option String
  current : Option String
  status : Status
  /-- The nodes behind the current one, the latest first. -/
  nodes : List String
  deriving DecidableEq, Repr

def State.way (state : State) : Way :=
  ⟨state.entry, state.current, state.status, state.history.map Moment.node⟩

theorem Moment.node_of_heard {moment found : Moment} {room : Nat}
    (read : read? room moment.toJson.heard = some found) : found.node = moment.node := by
  have fields : Fields.of? ["nodeId", "variables"] moment.toJson.heard =
      some ⟨false, [some (Json.text moment.node).heard, some moment.store.toJson.heard]⟩ :=
    Fields.of_heard (by simp)
  have node : Raw.text? (Json.text moment.node).heard = some moment.node := rfl
  obtain ⟨store, -, rfl⟩ : ∃ store, Store.read? room moment.store.toJson.heard = some store ∧
      ⟨moment.node, store⟩ = found := by
    simpa [read?, fields, Fields.required?, Fields.at?, node, Option.bind_eq_some_iff] using read
  rfl

theorem nodes_of_heard {history found : List Moment} {room : Nat}
    (read : (history.map fun moment => moment.toJson.heard).mapM (Moment.read? room) = some found) :
    found.map Moment.node = history.map Moment.node := by
  induction history generalizing found with
  | nil =>
      obtain rfl : [] = found := by simpa using read
      rfl
  | cons moment earlier induction =>
      obtain ⟨first, here, others, later, rfl⟩ : ∃ first,
          Moment.read? room moment.toJson.heard = some first ∧ ∃ others,
            (earlier.map fun moment => moment.toJson.heard).mapM (Moment.read? room) = some others ∧
              first :: others = found := by
        simpa [List.mapM_cons, Option.bind_eq_some_iff] using read
      rw [List.map_cons, List.map_cons, Moment.node_of_heard here, induction later]

theorem State.way_of_heard {state found : State} {room : Nat}
    (read : read? room state.toJson.heard = some found) : found.way = state.way := by
  have fields : Fields.of? ["entryNodeId", "currentNodeId", "status", "variables", "history",
        "lastVisitedNodeId"] state.toJson.heard =
      some ⟨false, [some (Json.nullableText state.entry).heard,
        some (Json.nullableText state.current).heard, some (Json.text state.status.name).heard,
        some state.store.toJson.heard,
        some (Json.list (state.history.reverse.map Moment.toJson)).heard,
        some (Json.nullableText state.lastVisited).heard]⟩ :=
    Fields.of_heard (by simp)
  have nullable : ∀ value, Raw.nullable? Raw.text? (Json.nullableText value).heard = some value := by
    intro value
    cases value <;> rfl
  have status : (Json.text state.status.name).heard.alternative?.bind Status.ofName? =
      some state.status := Status.read_name state.status
  have moments : (Json.list (state.history.reverse.map Moment.toJson)).heard =
      .list (state.history.reverse.map fun moment => moment.toJson.heard) := by
    rw [Json.heard, Json.heard_items, List.map_map]
    rfl
  obtain ⟨store, -, history, back, rfl⟩ : ∃ store,
      Store.read? (room - 3) state.store.toJson.heard = some store ∧ ∃ history,
        (state.history.reverse.map fun moment => moment.toJson.heard).mapM
            (Moment.read? (room - 5)) = some history ∧
          { state with store := store, history := history.reverse } = found := by
    simpa [read?, fields, Fields.required?, Fields.nullable?, Fields.at?, nullable, status, moments,
      Raw.list?, Option.bind_eq_some_iff, -List.map_reverse] using read
  have nodes := nodes_of_heard back
  simp [way, List.map_reverse, nodes]

end Story

namespace Save

theorem way_of_heard {save found : Save} (read : read? save.toJson.heard = some found) :
    found.project = save.project ∧ found.state.way = save.state.way := by
  have fields : Fields.of? ["schemaVersion", "projectPath", "state"] save.toJson.heard =
      some ⟨false, [some (Json.text save.schema).heard, some (Json.text save.project).heard,
        some save.state.toJson.heard]⟩ :=
    Fields.of_heard (by simp)
  have text : ∀ letters, Raw.text? (Json.text letters).heard = some letters := fun _ => rfl
  obtain ⟨state, back, rfl⟩ : ∃ state,
      Story.State.read? (Raw.deepest - 1) save.state.toJson.heard = some state ∧
        ⟨save.schema, save.project, state⟩ = found := by
    simpa [read?, fields, Fields.required?, Fields.at?, text, Option.bind_eq_some_iff] using read
  exact ⟨rfl, Story.State.way_of_heard back⟩

/-- What is read from the text of a save, if it can be read, says the same way. -/
theorem way_of_parsed {path : String} {save found : Save} (parsed : parse path save.text = .ok found) :
    found.project = save.project ∧ found.state.way = save.state.way := by
  have raw : Json.raw? save.text.toList = some save.toJson.heard := by
    rw [text, Json.indentedText, String.toList_ofList, Json.raw_of_indented]
  unfold parse at parsed
  rw [raw, Option.bind_some] at parsed
  split at parsed
  · cases parsed
  · rename_i held read
    split at parsed
    · cases parsed
    · split at parsed
      · cases parsed
      · obtain rfl := Except.ok.inj parsed
        exact way_of_heard read

end Save

end Narrative
