import Narrative.Elementary
import Narrative.Files.Disk

/-!
# Reading what was written

A path that leads somewhere goes on to lead there while folders stay folders. Writing and moving touch
files only, so what they put at the end of a path is read at that path.
-/

namespace Narrative

set_option autoImplicit false

namespace Disk

variable {disk after : Disk}

theorem find_erase_of_ne {place other : Place} (different : other ≠ place)
    (entries : List (Place × DiskEntry)) :
    find? other (erase place entries) = find? other entries := by
  induction entries with
  | nil => rfl
  | cons known rest ih =>
      unfold erase at ih ⊢
      by_cases same : known.1 = place
      · have apart : known.1 ≠ other := by
          rw [same]
          exact different.symm
        rw [List.filter_cons_of_neg (by simp [same]), ih, find?, if_neg apart]
      · rw [List.filter_cons_of_pos (by simp [same]), find?, find?, ih]

theorem entry_put_self {place : Place} (below : place ≠ []) (entry : DiskEntry) :
    entry? (disk.put place entry) place = some entry := by
  simp [put, below, find?_insert_self, entry?]

theorem entry_put_of_ne {place other : Place} (different : other ≠ place) (entry : DiskEntry) :
    entry? (disk.put place entry) other = disk.entry? other := by
  unfold entry? put
  rw [find?_insert_of_ne entry disk.entries different]

theorem entry_take_of_ne {place other : Place} (different : other ≠ place) :
    entry? (disk.take place) other = disk.entry? other := by
  unfold entry? take
  rw [find_erase_of_ne different]

theorem below_root {place : Place} (free : disk.entry? place ≠ some .folder) : place ≠ [] := by
  rintro rfl
  exact free rfl

/-- Folders stay, and relative paths begin where they began. -/
structure KeepsFolders (disk after : Disk) : Prop where
  here : after.here = disk.here
  folders : ∀ place, disk.entry? place = some .folder → after.entry? place = some .folder

theorem apart_of_folder {place other : Place} (free : disk.entry? place ≠ some .folder)
    (folder : disk.entry? other = some .folder) : other ≠ place := by
  rintro rfl
  exact free folder

theorem keeps_folders_of_put {place : Place} (free : disk.entry? place ≠ some .folder)
    (entry : DiskEntry) : KeepsFolders disk (disk.put place entry) := by
  refine ⟨rfl, ?_⟩
  intro other folder
  rw [entry_put_of_ne (apart_of_folder free folder)]
  exact folder

theorem keeps_folders_of_take_put {origin place : Place}
    (taken : disk.entry? origin ≠ some .folder) (free : disk.entry? place ≠ some .folder)
    (entry : DiskEntry) : KeepsFolders disk ((disk.take origin).put place entry) := by
  refine ⟨rfl, ?_⟩
  intro other folder
  rw [entry_put_of_ne (apart_of_folder free folder), entry_take_of_ne (apart_of_folder taken folder)]
  exact folder

theorem step_fault_none_iff {place : Place} :
    disk.stepFault? place = none ↔ disk.entry? place = some .folder := by
  unfold stepFault?
  cases stands : disk.entry? place with
  | none => simp
  | some entry => cases entry <;> simp

namespace KeepsFolders

/-- Every step but the last is taken in a folder, and that stands where it stood. -/
theorem follow (keeps : KeepsFolders disk after) {steps : List String} {start place : Place}
    (leads : disk.follow start steps = .ok place) : after.follow start steps = .ok place := by
  induction steps generalizing start with
  | nil => exact leads
  | cons step rest ih =>
      cases stands : disk.stepFault? start with
      | some fault => simp [Disk.follow, stands] at leads
      | none =>
          have stays : after.stepFault? start = none :=
            step_fault_none_iff.mpr (keeps.folders start (step_fault_none_iff.mp stands))
          cases taken : stepFrom start step with
          | error fault => simp [Disk.follow, stands, taken] at leads
          | ok next =>
              have onward : disk.follow next rest = .ok place := by
                simpa only [Disk.follow, stands, taken] using leads
              simpa only [Disk.follow, stays, taken] using ih onward

theorem place_of (keeps : KeepsFolders disk after) {path : Path} {place : Place}
    (leads : disk.placeOf path = .ok place) : after.placeOf path = .ok place := by
  unfold Disk.placeOf at leads ⊢
  rw [keeps.here]
  exact keeps.follow leads

end KeepsFolders

theorem lookup_file_iff {path : Path} {place : Place} {bytes : ByteArray} :
    disk.lookup path = .ok (place, .file bytes) ↔
      disk.placeOf path = .ok place ∧ disk.entry? place = some (.file bytes) ∧
        path.ending = .name := by
  unfold lookup
  rw [bind_ok_iff]
  constructor
  · rintro ⟨found, leads, looked⟩
    split at looked
    · cases looked
    · rename_i held stands ending
      cases looked
      exact ⟨leads, stands, ending⟩
    · cases looked
    · cases looked
  · rintro ⟨leads, stands, ending⟩
    refine ⟨place, leads, ?_⟩
    rw [stands, ending]
    rfl

theorem read_iff {path : Path} {bytes : ByteArray} :
    disk.read path = .ok bytes ↔
      ∃ place, disk.placeOf path = .ok place ∧ disk.entry? place = some (.file bytes) ∧
        path.ending = .name := by
  unfold read
  rw [bind_ok_iff]
  constructor
  · rintro ⟨⟨place, entry⟩, looked, held⟩
    cases entry with
    | folder => cases held
    | file there =>
        cases held
        exact ⟨place, lookup_file_iff.mp looked⟩
  · rintro ⟨place, stands⟩
    exact ⟨(place, .file bytes), lookup_file_iff.mpr stands, rfl⟩

theorem kind_of_read {path : Path} {bytes : ByteArray} (held : disk.read path = .ok bytes) :
    disk.kind path = some .file := by
  obtain ⟨place, stands⟩ := read_iff.mp held
  rw [kind, lookup_file_iff.mpr stands]
  rfl

theorem write_parts {path : Path} {bytes : ByteArray} (written : disk.write path bytes = .ok after) :
    ∃ place, disk.placeOf path = .ok place ∧ disk.entry? place ≠ some .folder ∧
      path.ending = .name ∧ after = disk.put place (.file bytes) := by
  obtain ⟨place, leads, put⟩ := bind_ok_iff.mp written
  refine ⟨place, leads, ?_⟩
  split at put
  · cases put
  · rename_i free
    split at put
    · rename_i ending
      cases put
      exact ⟨free, ending, rfl⟩
    · cases put

theorem move_fault_none_iff {place : Place} {ending : PathEnding} :
    disk.moveFault? place ending = none ↔ ending = .name ∧ disk.entry? place ≠ some .folder := by
  cases ending with
  | slash => simp [moveFault?]
  | dot => cases fault : disk.stepFault? place <;> simp [moveFault?, fault]
  | name =>
      cases stands : disk.entry? place with
      | none => simp [moveFault?, stands]
      | some entry => cases entry <;> simp [moveFault?, stands]

theorem move_parts {source target : Path} {bytes : ByteArray}
    (moved : disk.move source target = .ok after) (held : disk.read source = .ok bytes) :
    ∃ origin place, disk.placeOf source = .ok origin ∧ disk.entry? origin = some (.file bytes) ∧
      disk.placeOf target = .ok place ∧ disk.entry? place ≠ some .folder ∧
      target.ending = .name ∧ after = (disk.take origin).put place (.file bytes) := by
  obtain ⟨origin, leads, stands, -⟩ := read_iff.mp held
  unfold move at moved
  rw [held, leads] at moved
  obtain ⟨place, lands, put⟩ := bind_ok_iff.mp (show disk.placeOf target >>= _ = .ok after from moved)
  refine ⟨origin, place, leads, stands, lands, ?_⟩
  split at put
  · cases put
  · rename_i allowed
    obtain ⟨ending, free⟩ := move_fault_none_iff.mp allowed
    cases put
    exact ⟨free, ending, rfl⟩

theorem read_of_write {path : Path} {bytes : ByteArray}
    (written : disk.write path bytes = .ok after) : after.read path = .ok bytes := by
  obtain ⟨place, leads, free, ending, rfl⟩ := write_parts written
  have leads := (keeps_folders_of_put free (.file bytes)).place_of leads
  exact read_iff.mpr ⟨place, leads, entry_put_self (below_root free) _, ending⟩

theorem read_of_move {source target : Path} {bytes : ByteArray}
    (moved : disk.move source target = .ok after) (held : disk.read source = .ok bytes) :
    after.read target = .ok bytes := by
  obtain ⟨origin, place, -, stands, leads, free, ending, rfl⟩ := move_parts moved held
  have taken : disk.entry? origin ≠ some .folder := by simp [stands]
  have leads := (keeps_folders_of_take_put taken free (.file bytes)).place_of leads
  exact read_iff.mpr ⟨place, leads, entry_put_self (below_root free) _, ending⟩

theorem changed_ok_iff {change : Except Fault Disk} :
    disk.changed change = (.ok (), after) ↔ change = .ok after := by
  cases change <;> simp [changed]

end Disk

namespace Plan

variable {ε α β : Type} {disk after : Disk}

/-- A plan of two parts succeeds where the second succeeds on the disk that the first leaves. -/
theorem on_bind_ok_iff {first : ExceptT ε Plan α} {next : α → ExceptT ε Plan β} {result : β} :
    (first >>= next).run.on disk = (.ok result, after) ↔
      ∃ value middle, first.run.on disk = (.ok value, middle) ∧
        (next value).run.on middle = (.ok result, after) := by
  rw [ExceptT.run_bind, on_bind]
  cases done : first.run.on disk with
  | mk answer middle =>
      cases answer with
      | error fault => simp
      | ok value =>
          constructor
          · intro rest
            exact ⟨value, middle, rfl, rest⟩
          · rintro ⟨_, _, same, rest⟩
            cases same
            exact rest

theorem on_lift_ok_iff {plan : Plan α} {value : α} :
    (liftM plan : ExceptT ε Plan α).run.on disk = (.ok value, after) ↔
      plan.on disk = (value, after) := by
  change (plan >>= fun value => pure (Except.ok value) : Plan (Except ε α)).on disk = _ ↔ _
  rw [on_bind]
  simp [Prod.ext_iff]

theorem from_bytes_of_text (text : String) : String.fromUTF8? text.toUTF8 = some text := by
  have valid : text.toUTF8.IsValidUTF8 := text.isValidUTF8
  unfold String.fromUTF8?
  rw [dif_pos valid]
  rfl

theorem decoded_of_text (text : String) : decoded text.toUTF8 = .ok text := by
  rw [decoded, from_bytes_of_text]

theorem to_option_decoded (bytes : ByteArray) :
    (decoded bytes).toOption = String.fromUTF8? bytes := by
  unfold decoded
  split
  · rename_i found
    rw [found]
    rfl
  · rename_i missing
    rw [missing]
    rfl

/-- Parts that leave the disk as it is make a plan that does. -/
theorem on_bind_of_steady {first : ExceptT ε Plan α}
    {next : α → ExceptT ε Plan β} {result : Except ε α} {onward : α → Except ε β}
    (start : first.run.on disk = (result, disk))
    (rest : ∀ value, (next value).run.on disk = (onward value, disk)) :
    (first >>= next).run.on disk = (result >>= onward, disk) := by
  rw [ExceptT.run_bind, on_bind, start]
  cases result with
  | error fault => rfl
  | ok value => exact rest value

end Plan

end Narrative
