import Narrative.Proofs.Disks
import Narrative.Proofs.Saving

/-!
# Files of saved runs

What was saved is what is read, as a text and as a file on a disk: the schema, the path of the project
and the state, where infinite numbers have become not-a-number. A file is first written under another
name and then moved, so what is read is what was read at that other name, and this is what was written.
-/

namespace Narrative

set_option autoImplicit false

open Number

namespace Save

variable {disk after : Disk}

theorem on_or_fault_ok_iff {α : Type} {cause : Fault → PlayerError} {plan : Plan (Except Fault α)}
    {value : α} :
    (PlayerPlan.orFault cause plan).run.on disk = (.ok value, after) ↔
      plan.on disk = (.ok value, after) := by
  change (plan >>= fun answer => pure (answer.mapError cause)).on disk = _ ↔ _
  rw [Plan.on_bind]
  cases done : plan.on disk with
  | mk answer middle =>
      cases answer with
      | error fault =>
          change (Except.error (cause fault), middle) = _ ↔ _
          simp
      | ok found =>
          change (Except.ok found, middle) = _ ↔ _
          simp

theorem replace_file_parts (path : Path) (name text : String) :
    replaceFile path name text = ExceptT.run (m := Plan) (do
      ExceptT.mk (Plan.makeFolders path.parent)
      ExceptT.mk (Plan.write (path.withName (name ++ ".tmp")) text)
      ExceptT.mk (Plan.move (path.withName (name ++ ".tmp")) path)) := by
  unfold replaceFile
  apply bind_congr
  intro made
  cases made with
  | error fault => rfl
  | ok =>
      apply bind_congr
      intro written
      cases written <;> rfl

theorem read_of_replaced {path : Path} {name text : String}
    (replaced : (replaceFile path name text).on disk = (.ok (), after)) :
    after.read path = .ok text.toUTF8 := by
  rw [replace_file_parts] at replaced
  obtain ⟨_, around, -, rest⟩ := Plan.on_bind_ok_iff.mp replaced
  obtain ⟨_, staged, written, moved⟩ := Plan.on_bind_ok_iff.mp rest
  have held := Disk.read_of_write (Disk.changed_ok_iff.mp written)
  exact Disk.read_of_move (Disk.changed_ok_iff.mp moved) held

theorem read_from_of_read {path text : String} {save : Save}
    (held : disk.read (Path.ofText path) = .ok text.toUTF8) (parsed : parse path text = .ok save) :
    (readFrom path).run.on disk = (.ok save, disk) := by
  have found : (Plan.isFile (Path.ofText path)).on disk = (true, disk) := by
    change (disk.kind (Path.ofText path) == some .file, disk) = _
    rw [Disk.kind_of_read held]
    rfl
  have read : (Plan.readText (Path.ofText path)).on disk = (.ok text, disk) := by
    change (disk.read (Path.ofText path) >>= Plan.decoded, disk) = _
    rw [held]
    exact congrArg (·, disk) (Plan.decoded_of_text text)
  unfold readFrom
  refine Plan.on_bind_ok_iff.mpr ⟨true, disk, Plan.on_lift_ok_iff.mpr found, ?_⟩
  refine Plan.on_bind_ok_iff.mpr ⟨text, disk, on_or_fault_ok_iff.mpr read, ?_⟩
  change (parse path text, disk) = _
  rw [parsed]

theorem read_of_written {path project : String} {state : Story.State}
    (written : (writeTo path project state).run.on disk = (.ok (), after)) :
    after.read (Path.ofText path) = .ok (ofState project state).text.toUTF8 := by
  unfold writeTo at written
  split at written
  · cases written
  · exact read_of_replaced (on_or_fault_ok_iff.mp written)

/-- What the file of a save holds. -/
def held (path : String) (disk : Disk) : Except PlayerError Save :=
  if disk.kind (Path.ofText path) == some .file then do
    let text ← (disk.read (Path.ofText path) >>= Plan.decoded).mapError .unreadSave
    parse path text
  else .error (.saveMissing path)

theorem on_read_from (path : String) (disk : Disk) :
    (readFrom path).run.on disk = (held path disk, disk) := by
  unfold readFrom held
  rw [ExceptT.run_bind, Plan.on_bind]
  change (if disk.kind (Path.ofText path) == some .file then _ else _ : PlayerPlan Save).run.on disk = _
  split
  · exact Plan.on_bind_of_steady rfl fun text => rfl
  · rfl

theorem to_option_held (path : String) (disk : Disk) : (held path disk).toOption =
    (disk.read (Path.ofText path)).toOption.bind fun bytes =>
      (String.fromUTF8? bytes).bind fun text => (parse path text).toOption := by
  unfold held
  split
  · rw [to_option_bind, to_option_map_error, to_option_bind, Option.bind_assoc]
    simp only [Plan.to_option_decoded]
  · rename_i missing
    cases found : disk.read (Path.ofText path) with
    | error fault => rfl
    | ok bytes => exact absurd (by rw [Disk.kind_of_read found]; rfl) missing

theorem on_load_for (path : String) (loaded : LoadedProject) (disk : Disk) :
    (loadFor path loaded).run.on disk =
      (do
        let save ← held path disk
        if save.project = loaded.path then
          (Session.resume Story.Options.standard save.state loaded.project).mapError .session
        else .error (.otherProject loaded.path save.project), disk) := by
  refine Plan.on_bind_of_steady (on_read_from path disk) fun save => ?_
  split <;> rfl

/-- What a saved run says comes back from its text and from a file where writing it succeeded, whether or
not the file has to be one of the same project. -/
theorem reading_undoes_writing {project : String} {state : Story.State}
    (named : (Text.trim project.toList).isEmpty = false) (lasting : Lasting state.numbers) :
    (∀ path, parse path (ofState project state).text =
      .ok { ofState project state with state := state.saved }) ∧
    (∀ path disk after, (writeTo path project state).run.on disk = (.ok (), after) →
      (readFrom path).run.on after =
        (.ok { ofState project state with state := state.saved }, after) ∧
      ∀ loaded : LoadedProject, loaded.path = project →
        (loadFor path loaded).run.on after = (loaded.resume state.saved).run.on after) ∧
    ∀ amount, Number.saved amount = if IsInfinite amount then quietNan else amount := by
  refine ⟨parse_text lasting named, ?_, Number.saved_cases⟩
  · intro path disk after written
    have back := read_from_of_read (read_of_written written) (parse_text lasting named path)
    refine ⟨back, ?_⟩
    intro loaded same
    unfold loadFor
    rw [ExceptT.run_bind, Plan.on_bind, back]
    simp [ofState, same]

def keepsake : Story.State where
  entry := some "hall"
  current := none
  status := .missing
  store := [
    ⟨"v1", "score \"\n", .number (withSign true infinityBits)⟩,
    ⟨"v2", "seen", .boolean true⟩,
    ⟨"v3", "", .text "Bär\t☃"⟩,
    ⟨"v4", "bag", .list .number [.text "hat", .number quietNan, .boolean false, .number 2]⟩,
    ⟨"v5", "doors", .object (Dictionary.ofPairs
      [("a/b", ⟨.boolean, .number 1⟩), ("", ⟨.text, .text "x"⟩)])⟩]
  history := [⟨"hall", [⟨"v1", "score", .number 1⟩]⟩, ⟨"", []⟩]
  lastVisited := some "hall"

theorem keepsake_read_back :
    (Text.trim "fair.json".toList).isEmpty = false ∧ Lasting keepsake.numbers ∧
    parse "save.json" (ofState "fair.json" keepsake).text =
      .ok ⟨currentSaveSchema, "fair.json", keepsake.saved⟩ ∧
    ∃ after, (writeTo "saves/save.json" "fair.json" keepsake).run.on
        ⟨"/home", [(["home"], .folder)]⟩ = (.ok (), after) ∧
      (readFrom "saves/save.json").run.on after =
        (.ok ⟨currentSaveSchema, "fair.json", keepsake.saved⟩, after) := by
  have named : (Text.trim "fair.json".toList).isEmpty = false := by decide
  have lasting : Lasting keepsake.numbers := by decide +kernel
  have back := reading_undoes_writing named lasting
  have written : (writeTo "saves/save.json" "fair.json" keepsake).run.on
      ⟨"/home", [(["home"], .folder)]⟩ = (.ok (), _) := rfl
  exact ⟨named, lasting, back.1 "save.json", _, written, (back.2.1 _ _ _ written).1⟩

end Save

end Narrative
