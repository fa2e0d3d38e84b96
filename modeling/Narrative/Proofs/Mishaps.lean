import Narrative.Proofs.Disks

/-!
# Plans where requests go wrong

A request may fail for reasons that no disk shows: a file cannot be opened, or there is no room left. Main
fact: whatever goes wrong, a plan changes no files but those that its requests name
(`Plan.Runs.leaves`).
-/

namespace Narrative

set_option autoImplicit false

namespace Disk

variable {disk after : Disk}

/-- What can come of a request: the answer of the disk, or some fault. Where a file cannot be written to
its end, it may be left with any bytes. -/
inductive Meets (disk : Disk) : (request : Request) → request.Answer → Disk → Prop where
  | served (request : Request) : Meets disk request (disk.answer request).1 (disk.answer request).2
  | lost (fault : Fault) : Meets disk .currentFolder (.error fault) disk
  | unseen (path : Path) : Meets disk (.kind path) none disk
  | unread (path : Path) (fault : Fault) : Meets disk (.read path) (.error fault) disk
  | unlisted (path : Path) (fault : Fault) : Meets disk (.list path) (.error fault) disk
  | unmade (path : Path) (fault : Fault) : Meets disk (.makeFolder path) (.error fault) disk
  | unwritten (path : Path) (bytes : ByteArray) (fault : Fault) :
      Meets disk (.write path bytes) (.error fault) disk
  | torn {path : Path} {part : ByteArray} {after : Disk} (bytes : ByteArray) (fault : Fault)
      (written : disk.write path part = .ok after) : Meets disk (.write path bytes) (.error fault) after
  | unmoved (source target : Path) (fault : Fault) : Meets disk (.move source target) (.error fault) disk

/-- Folders stay, and so do all files but those at these paths; no others are made. -/
structure Leaves (disk after : Disk) (paths : List Path) : Prop where
  folders : KeepsFolders disk after
  files : ∀ place, (∀ path ∈ paths, after.placeOf path ≠ .ok place) → ∀ bytes,
    after.entry? place = some (.file bytes) ↔ disk.entry? place = some (.file bytes)

theorem Leaves.refl (disk : Disk) (paths : List Path) : disk.Leaves disk paths :=
  ⟨⟨rfl, fun _ folder => folder⟩, fun _ _ _ => Iff.rfl⟩

theorem Leaves.trans {middle : Disk} {paths : List Path} (first : disk.Leaves middle paths)
    (second : middle.Leaves after paths) : disk.Leaves after paths := by
  constructor
  · constructor
    · exact second.folders.here.trans first.folders.here
    · intro place folder
      exact second.folders.folders place (first.folders.folders place folder)
  · intro place apart bytes
    have earlier : ∀ path ∈ paths, middle.placeOf path ≠ .ok place := by
      intro path member leads
      exact apart path member (second.folders.place_of leads)
    exact (second.files place apart bytes).trans (first.files place earlier bytes)

theorem Leaves.mono {few many : List Path} (leaves : disk.Leaves after few)
    (within : ∀ path ∈ few, path ∈ many) : disk.Leaves after many := by
  constructor
  · exact leaves.folders
  · intro place apart
    exact leaves.files place fun path member => apart path (within path member)

theorem leaves_of_make {path : Path} (made : disk.makeFolder path = .ok after) :
    disk.Leaves after [] := by
  obtain ⟨place, -, put⟩ := bind_ok_iff.mp made
  split at put
  · cases put
  · rename_i free
    have vacant : disk.entry? place ≠ some .folder := by simp [free]
    split at put
    · cases put
    · cases put
      constructor
      · exact keeps_folders_of_put vacant .folder
      · intro other _ bytes
        by_cases same : other = place
        · rw [same, entry_put_self (below_root vacant), free]
          simp
        · rw [entry_put_of_ne same]

theorem leaves_of_write {path : Path} {bytes : ByteArray} (written : disk.write path bytes = .ok after) :
    disk.Leaves after [path] := by
  obtain ⟨place, leads, free, -, rfl⟩ := write_parts written
  have folders := keeps_folders_of_put free (.file bytes)
  constructor
  · exact folders
  · intro other apart held
    have different : other ≠ place := by
      rintro rfl
      exact apart path (by simp) (folders.place_of leads)
    rw [entry_put_of_ne different]

theorem leaves_of_move {source target : Path} (moved : disk.move source target = .ok after) :
    disk.Leaves after [source, target] := by
  obtain ⟨bytes, held, -⟩ := bind_ok_iff.mp moved
  obtain ⟨origin, place, leads, stands, lands, free, -, rfl⟩ := move_parts moved held
  have taken : disk.entry? origin ≠ some .folder := by simp [stands]
  have folders := keeps_folders_of_take_put taken free (.file bytes)
  constructor
  · exact folders
  · intro other apart content
    have target_apart : other ≠ place := by
      rintro rfl
      exact apart target (by simp) (folders.place_of lands)
    have source_apart : other ≠ origin := by
      rintro rfl
      exact apart source (by simp) (folders.place_of leads)
    rw [entry_put_of_ne target_apart, entry_take_of_ne source_apart]

end Disk

namespace Request

/-- The files that a request may change. -/
def files : Request → List Path
  | .write path _ => [path]
  | .move source target => [source, target]
  | _ => []

/-- Whether a request changes nothing. -/
def looks : Request → Bool
  | .makeFolder _ => false
  | .write _ _ => false
  | .move _ _ => false
  | _ => true

end Request

namespace Disk

variable {disk after : Disk}

theorem changed_leaves {change : Except Fault Disk} {paths : List Path}
    (leaves : ∀ changed, change = .ok changed → disk.Leaves changed paths) :
    disk.Leaves (disk.changed change).2 paths := by
  cases change with
  | error fault => exact Leaves.refl disk paths
  | ok changed => exact leaves changed rfl

theorem Meets.leaves {request : Request} {answer : request.Answer}
    (meets : disk.Meets request answer after) : disk.Leaves after request.files := by
  cases meets with
  | served request =>
      cases request with
      | currentFolder => exact Leaves.refl _ _
      | kind path => exact Leaves.refl _ _
      | read path => exact Leaves.refl _ _
      | list path => exact Leaves.refl _ _
      | makeFolder path => exact changed_leaves fun _ made => leaves_of_make made
      | write path bytes => exact changed_leaves fun _ written => leaves_of_write written
      | move source target => exact changed_leaves fun _ moved => leaves_of_move moved
  | torn bytes fault written => exact leaves_of_write written
  | _ => exact Leaves.refl _ _

theorem Meets.same_of_looks {request : Request} {answer : request.Answer}
    (meets : disk.Meets request answer after) (looks : request.looks = true) : after = disk := by
  cases meets with
  | served request => cases request <;> first | rfl | cases looks
  | torn bytes fault written => cases looks
  | _ => rfl

theorem Meets.written {path : Path} {bytes : ByteArray} {answer : Except Fault Unit}
    (meets : disk.Meets (.write path bytes) answer after) (done : answer = .ok ()) :
    disk.write path bytes = .ok after := by
  cases meets with
  | served _ =>
      cases written : disk.write path bytes with
      | error fault => simp [answer, changed, written] at done
      | ok changed => simp [answer, Disk.changed, written]
  | unwritten _ _ fault => cases done
  | torn bytes fault written => cases done

theorem Meets.moved {source target : Path} {answer : Except Fault Unit}
    (meets : disk.Meets (.move source target) answer after) :
    answer = .ok () ∧ disk.move source target = .ok after ∨
      (∃ fault, answer = .error fault) ∧ after = disk := by
  cases meets with
  | served _ =>
      cases moved : disk.move source target with
      | error fault => exact .inr (by simp [answer, changed, moved])
      | ok changed => exact .inl (by simp [answer, Disk.changed, moved])
  | unmoved _ _ fault => exact .inr ⟨⟨fault, rfl⟩, rfl⟩

end Disk

namespace Plan

variable {ε α β : Type} {disk after : Disk}

/-- A plan carried out, whatever comes of its requests: its result and the disk it leaves. -/
inductive Runs : Plan α → Disk → α → Disk → Prop where
  | done (value : α) (disk : Disk) : Runs (.done value) disk value disk
  | ask {request : Request} {next : request.Answer → Plan α} {answer : request.Answer}
      {disk middle after : Disk} {value : α} (meets : disk.Meets request answer middle)
      (later : Runs (next answer) middle value after) : Runs (.ask request next) disk value after

/-- Nothing needs to go wrong. -/
theorem runs_on (plan : Plan α) (disk : Disk) : plan.Runs disk (plan.on disk).1 (plan.on disk).2 := by
  induction plan generalizing disk with
  | done value => exact .done value disk
  | ask request next induction => exact .ask (.served request) (induction _ _)

theorem runs_pure_iff {value result : α} :
    (pure value : Plan α).Runs disk result after ↔ result = value ∧ after = disk := by
  constructor
  · intro ran
    cases ran
    exact ⟨rfl, rfl⟩
  · rintro ⟨rfl, rfl⟩
    exact .done result after

theorem runs_bind_iff {first : Plan α} {next : α → Plan β} {result : β} :
    (first >>= next).Runs disk result after ↔
      ∃ value middle, first.Runs disk value middle ∧ (next value).Runs middle result after := by
  constructor
  · intro ran
    induction first generalizing disk with
    | done value => exact ⟨value, disk, .done value disk, ran⟩
    | ask request rest induction =>
        cases ran with
        | ask meets later =>
            obtain ⟨value, middle, earlier, last⟩ := induction _ later
            exact ⟨value, middle, .ask meets earlier, last⟩
  · rintro ⟨value, middle, earlier, later⟩
    induction earlier with
    | done value => exact later
    | ask meets _ induction => exact .ask meets (induction later)

theorem runs_request_iff {wanted : Request} {answer : wanted.Answer} :
    (request wanted).Runs disk answer after ↔ disk.Meets wanted answer after := by
  constructor
  · intro ran
    cases ran with
    | ask meets later =>
        cases later
        exact meets
  · intro meets
    exact .ask meets (.done answer after)

/-- A plan of two parts ends as the second does, or with the error of the first. -/
theorem runs_except_bind_iff {first : ExceptT ε Plan α} {next : α → ExceptT ε Plan β}
    {result : Except ε β} : (first >>= next).run.Runs disk result after ↔
      (∃ value middle, first.run.Runs disk (.ok value) middle ∧
        (next value).run.Runs middle result after) ∨
      ∃ error, first.run.Runs disk (.error error) after ∧ result = .error error := by
  rw [ExceptT.run_bind, runs_bind_iff]
  constructor
  · rintro ⟨answer, middle, earlier, later⟩
    cases answer with
    | error fault =>
        obtain ⟨same, rfl⟩ := runs_pure_iff.mp later
        exact .inr ⟨fault, earlier, same⟩
    | ok value => exact .inl ⟨value, middle, earlier, later⟩
  · rintro (⟨value, middle, earlier, later⟩ | ⟨fault, earlier, rfl⟩)
    · exact ⟨.ok value, middle, earlier, later⟩
    · exact ⟨.error fault, after, earlier, runs_pure_iff.mpr ⟨rfl, rfl⟩⟩

theorem exists_runs_of_ok {first : ExceptT ε Plan α} {next : α → ExceptT ε Plan β} {result : β}
    (ran : (first >>= next).run.Runs disk (.ok result) after) :
    ∃ value middle, first.run.Runs disk (.ok value) middle ∧
      (next value).run.Runs middle (.ok result) after := by
  rcases runs_except_bind_iff.mp ran with parts | ⟨_, -, wrong⟩
  · exact parts
  · cases wrong

/-- A plan all of whose requests are allowed, whatever they are answered with. -/
inductive Makes (allowed : Request → Prop) : Plan α → Prop where
  | done (value : α) : Makes allowed (.done value)
  | ask {request : Request} {next : request.Answer → Plan α} (here : allowed request)
      (later : ∀ answer, Makes allowed (next answer)) : Makes allowed (.ask request next)

section Making

variable {allowed : Request → Prop}

theorem makes_request {wanted : Request} (here : allowed wanted) : Makes allowed (request wanted) :=
  .ask here fun answer => .done answer

theorem Makes.bind {first : Plan α} {next : α → Plan β} (here : Makes allowed first)
    (later : ∀ value, Makes allowed (next value)) : Makes allowed (first >>= next) := by
  induction here with
  | done value => exact later value
  | ask here _ induction => exact .ask here induction

theorem Makes.except {first : ExceptT ε Plan α} {next : α → ExceptT ε Plan β}
    (here : Makes allowed first.run) (later : ∀ value, Makes allowed (next value).run) :
    Makes allowed (first >>= next).run := by
  rw [ExceptT.run_bind]
  apply here.bind
  intro answer
  cases answer with
  | error fault => exact .done _
  | ok value => exact later value

theorem Makes.lift {plan : Plan α} (here : Makes allowed plan) :
    Makes allowed (liftM plan : ExceptT ε Plan α).run :=
  here.bind fun value => .done (Except.ok value)

/-- What the allowed requests do, one after the other, is what a plan does. -/
theorem Runs.all {plan : Plan α} {value : α} {holds : Disk → Disk → Prop}
    (ran : plan.Runs disk value after) (makes : Makes allowed plan) (refl : ∀ disk, holds disk disk)
    (trans : ∀ first second third, holds first second → holds second third → holds first third)
    (step : ∀ before next request (answer : request.Answer), allowed request →
      before.Meets request answer next → holds before next) : holds disk after := by
  induction ran with
  | done value disk => exact refl disk
  | ask meets _ induction =>
      cases makes with
      | ask here later => exact trans _ _ _ (step _ _ _ _ here meets) (induction (later _))

end Making

theorem Runs.leaves {plan : Plan α} {value : α} {paths : List Path} (ran : plan.Runs disk value after)
    (makes : Makes (fun request => ∀ path ∈ request.files, path ∈ paths) plan) :
    disk.Leaves after paths := by
  apply ran.all makes
  · exact fun disk => Disk.Leaves.refl disk paths
  · exact fun _ _ _ first second => first.trans second
  · exact fun _ _ _ _ within meets => meets.leaves.mono within

theorem Runs.same {plan : Plan α} {value : α} (ran : plan.Runs disk value after)
    (makes : Makes (fun request => request.looks = true) plan) : disk = after := by
  apply ran.all makes
  · exact fun _ => rfl
  · exact fun _ _ _ first second => first.trans second
  · exact fun _ _ _ _ looks meets => (meets.same_of_looks looks).symm

end Plan

end Narrative
