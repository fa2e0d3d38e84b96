import Narrative.Proofs.AgentRuns
import Narrative.Proofs.Mishaps

/-!
# Commands that disturb no other file

A command that takes a run up only looks until it saves the run. Saving writes a file beside the one that
is asked for and then puts it in its place. Main fact: whatever goes wrong on the way, no other file
changes, and the file itself only where the command succeeds.
-/

namespace Narrative

set_option autoImplicit false

variable {disk after : Disk}

namespace PlayerPlan

variable {α : Type}

theorem runs_or_fault_iff {cause : Fault → PlayerError} {plan : Plan (Except Fault α)}
    {result : Except PlayerError α} : (orFault cause plan).run.Runs disk result after ↔
      ∃ answer, plan.Runs disk answer after ∧ result = answer.mapError cause := by
  change (plan >>= fun answer => pure (answer.mapError cause)).Runs disk result after ↔ _
  rw [Plan.runs_bind_iff]
  constructor
  · intro ⟨answer, middle, ran, last⟩
    obtain ⟨same, rfl⟩ := Plan.runs_pure_iff.mp last
    exact ⟨answer, ran, same⟩
  · intro ⟨answer, ran, same⟩
    exact ⟨answer, after, ran, Plan.runs_pure_iff.mpr ⟨same, rfl⟩⟩

theorem runs_of_except_iff {result answer : Except PlayerError α} :
    (ofExcept result).run.Runs disk answer after ↔ answer = result ∧ after = disk :=
  Plan.runs_pure_iff

theorem makes_or_fault {allowed : Request → Prop} {plan : Plan (Except Fault α)}
    (cause : Fault → PlayerError) (makes : plan.Makes allowed) :
    (orFault cause plan).run.Makes allowed :=
  makes.bind fun answer => .done (answer.mapError cause)

theorem makes_of_except (allowed : Request → Prop) (result : Except PlayerError α) :
    (ofExcept result).run.Makes allowed :=
  .done result

end PlayerPlan

abbrev Plan.Looks {α : Type} (plan : Plan α) : Prop :=
  plan.Makes fun request => request.looks = true

theorem Plan.kind_looks (path : Path) : (Plan.kind path).Looks :=
  Plan.makes_request rfl

theorem Plan.is_file_looks (path : Path) : (Plan.isFile path).Looks :=
  (Plan.kind_looks path).bind fun _ => .done _

theorem Plan.is_folder_looks (path : Path) : (Plan.isFolder path).Looks :=
  (Plan.kind_looks path).bind fun _ => .done _

theorem Plan.read_text_looks (path : Path) : (Plan.readText path).Looks :=
  Plan.Makes.bind (Plan.makes_request rfl) fun _ => .done _

theorem Save.read_from_looks (path : String) : (Save.readFrom path).run.Looks := by
  apply Plan.Makes.except
  · exact (Plan.is_file_looks _).lift
  · intro isFile
    split
    · apply Plan.Makes.except
      · exact PlayerPlan.makes_or_fault _ (Plan.read_text_looks _)
      · exact fun text => PlayerPlan.makes_of_except _ _
    · exact .done _

theorem LoadedProject.present_looks (file : String) : (LoadedProject.present file).run.Looks := by
  apply Plan.Makes.except
  · exact (Plan.is_file_looks _).lift
  · intro isFile
    split
    · exact .done _
    · exact .done _

theorem LoadedProject.locate_from_looks (folder text : String) :
    (LoadedProject.locateFrom folder text).run.Looks := by
  apply Plan.Makes.except
  · exact (Plan.is_folder_looks _).lift
  · exact fun isFolder => LoadedProject.present_looks _

theorem LoadedProject.locate_looks (text : String) : (LoadedProject.locate text).run.Looks := by
  unfold locate
  split
  · exact LoadedProject.locate_from_looks "" text
  · apply Plan.Makes.except
    · exact PlayerPlan.makes_or_fault _ (Plan.makes_request rfl)
    · exact fun folder => LoadedProject.locate_from_looks folder text

theorem LoadedProject.load_looks (text : String) : (LoadedProject.load text).run.Looks := by
  apply Plan.Makes.except
  · exact LoadedProject.locate_looks text
  · intro path
    apply Plan.Makes.except
    · exact PlayerPlan.makes_or_fault _ (Plan.read_text_looks _)
    · intro document
      apply Plan.Makes.except
      · exact PlayerPlan.makes_of_except _ _
      · exact fun project => .done _

theorem Save.load_looks (path : String) : (Save.load path).run.Looks := by
  apply Plan.Makes.except
  · exact Save.read_from_looks path
  · intro save
    apply Plan.Makes.except
    · exact LoadedProject.load_looks save.project
    · intro loaded
      apply Plan.Makes.except
      · exact PlayerPlan.makes_of_except _ _
      · exact fun session => .done _

/-- A plan that changes no files but these. -/
abbrev Plan.Names {α : Type} (paths : List Path) (plan : Plan α) : Prop :=
  plan.Makes fun request => ∀ path ∈ request.files, path ∈ paths

theorem Plan.make_last_folder_names (path : Path) : (Plan.makeLastFolder path).Names [] := by
  apply Plan.Makes.bind
  · exact Plan.makes_request (by simp [Request.files])
  · intro made
    cases made with
    | ok _ => exact .done _
    | error fault =>
        apply Plan.Makes.bind
        · apply Plan.Makes.bind
          · exact Plan.makes_request (by simp [Request.files])
          · exact fun found => .done _
        · intro isFolder
          split
          · exact .done _
          · exact .done _

theorem Plan.make_folders_names (path : Path) : (Plan.makeFolders path).Names [] := by
  unfold Plan.makeFolders
  induction path.steps.reverse with
  | nil => exact .done _
  | cons step outer induction =>
      apply Plan.Makes.bind
      · exact Plan.make_last_folder_names _
      · intro made
        split
        · apply Plan.Makes.bind induction
          intro around
          cases around with
          | ok _ => exact Plan.make_last_folder_names _
          | error fault => exact .done _
        · exact .done _

namespace Save

def staging (path : Path) (name : String) : Path :=
  path.withName (name ++ ".tmp")

/-- A file is replaced, or it stays as it was. -/
theorem replace_file_runs {path : Path} {name text : String} {result : Except Fault Unit}
    (ran : (replaceFile path name text).Runs disk result after) :
    (∃ fault, result = .error fault ∧ disk.Leaves after [staging path name]) ∨
      result = .ok () ∧ disk.Leaves after [staging path name, path] ∧
        after.read path = .ok text.toUTF8 := by
  rw [replace_file_parts] at ran
  rcases Plan.runs_except_bind_iff.mp ran with ⟨_, around, made, rest⟩ | ⟨fault, made, rfl⟩
  · have folders : disk.Leaves around [] := Plan.Runs.leaves made (Plan.make_folders_names _)
    have before : disk.Leaves around [staging path name] := folders.mono (by simp)
    rcases Plan.runs_except_bind_iff.mp rest with ⟨_, staged, wrote, last⟩ | ⟨fault, wrote, rfl⟩
    · have meets := Plan.runs_request_iff.mp wrote
      have beside := before.trans meets.leaves
      rcases (Plan.runs_request_iff.mp last).moved with ⟨rfl, moved⟩ | ⟨⟨fault, rfl⟩, rfl⟩
      · right
        refine ⟨rfl, ?_, ?_⟩
        · exact (beside.mono (by simp)).trans (Disk.leaves_of_move moved)
        · exact Disk.read_of_move moved (Disk.read_of_write (meets.written rfl))
      · exact .inl ⟨fault, rfl, beside⟩
    · exact .inl ⟨fault, rfl, before.trans (Plan.runs_request_iff.mp wrote).leaves⟩
  · left
    have folders : disk.Leaves after [] := Plan.Runs.leaves made (Plan.make_folders_names _)
    exact ⟨fault, rfl, folders.mono (by simp)⟩

/-- The path where a save is written before it is put in its place. -/
def staging? (save : String) : Option Path :=
  (Path.ofText save).fileName?.map (staging (Path.ofText save))

/-- What a command that ends with an error leaves: no file has changed but that beside the save, and none at
all where the save was not to be written yet. -/
structure Harmless (save : String) (disk after : Disk) (error : PlayerError) : Prop where
  files : disk.Leaves after (staging? save).toList
  early : (∀ fault, error ≠ .unwrittenSave fault) → after = disk

theorem Harmless.unchanged (save : String) (disk : Disk) (error : PlayerError) :
    Harmless save disk disk error :=
  ⟨Disk.Leaves.refl _ _, fun _ => rfl⟩

/-- The files that a command changes where it succeeds. -/
def files (save : String) : List Path :=
  (staging? save).toList ++ [Path.ofText save]

theorem write_to_runs {save project : String} {state : Story.State} {result : Except PlayerError Unit}
    (ran : (writeTo save project state).run.Runs disk result after) :
    (∃ error, result = .error error ∧ Harmless save disk after error) ∨
      result = .ok () ∧ disk.Leaves after (files save) ∧
        after.read (Path.ofText save) = .ok (ofState project state).text.toUTF8 := by
  unfold writeTo at ran
  split at ran
  · obtain ⟨rfl, rfl⟩ := Plan.runs_pure_iff.mp ran
    exact .inl ⟨_, rfl, Harmless.unchanged _ _ _⟩
  · rename_i name named
    have beside : staging? save = some (staging (Path.ofText save) name) := by
      rw [staging?, named]
      rfl
    obtain ⟨answer, replaced, rfl⟩ := PlayerPlan.runs_or_fault_iff.mp ran
    rcases replace_file_runs replaced with ⟨fault, rfl, leaves⟩ | ⟨rfl, leaves, held⟩
    · left
      refine ⟨.unwrittenSave fault, rfl, ?_, fun early => absurd rfl (early fault)⟩
      rw [beside]
      exact leaves
    · right
      refine ⟨rfl, ?_, held⟩
      rw [files, beside]
      exact leaves

end Save

/-! ## The path of a project -/

theorem Path.joined_ends (folder text : String) :
    ∃ front, (Path.joined folder text).toList = front ++ text.toList := by
  unfold Path.joined
  split
  · exact ⟨[], rfl⟩
  · split
    · exact ⟨folder.toList, by simp⟩
    · exact ⟨folder.toList ++ ['/'], by simp⟩

theorem Text.trim_append_named {front text : List Char} (named : (Text.trim text).isEmpty = false) :
    (Text.trim (front ++ text)).isEmpty = false := by
  cases trimmed : Text.trim (front ++ text) with
  | cons letter rest => rfl
  | nil =>
      have blank : ∀ letter ∈ text, Text.isBlank letter = true :=
        fun letter member => Text.blank_of_trim_nil trimmed letter (List.mem_append_right front member)
      have nothing : Text.trim text = [] := Text.trim_append_blanks [] blank
      rw [nothing] at named
      exact named

namespace LoadedProject

theorem present_same {file path : String} (ran : (present file).run.Runs disk (.ok path) after) :
    path = file := by
  obtain ⟨isFile, _, -, last⟩ := Plan.exists_runs_of_ok ran
  split at last
  · obtain ⟨same, -⟩ := Plan.runs_pure_iff.mp last
    exact Except.ok.inj same
  · obtain ⟨wrong, -⟩ := Plan.runs_pure_iff.mp last
    cases wrong

theorem locate_from_named {folder text path : String} (named : (Text.trim text.toList).isEmpty = false)
    (ran : (locateFrom folder text).run.Runs disk (.ok path) after) :
    (Text.trim path.toList).isEmpty = false := by
  obtain ⟨isFolder, _, -, last⟩ := Plan.exists_runs_of_ok ran
  rw [present_same last]
  split
  · obtain ⟨front, whole⟩ := Path.joined_ends (Path.joined folder text) "project.json"
    rw [whole]
    exact Text.trim_append_named (by decide)
  · obtain ⟨front, whole⟩ := Path.joined_ends folder text
    rw [whole]
    exact Text.trim_append_named named

/-- The path of a project that is found ends as it was asked for, or with the name of a document. -/
theorem locate_named {text path : String} (named : (Text.trim text.toList).isEmpty = false)
    (ran : (locate text).run.Runs disk (.ok path) after) :
    (Text.trim path.toList).isEmpty = false := by
  unfold locate at ran
  split at ran
  · exact locate_from_named named ran
  · obtain ⟨folder, _, -, rest⟩ := Plan.exists_runs_of_ok ran
    exact locate_from_named named rest

theorem load_named {text : String} {loaded : LoadedProject}
    (named : (Text.trim text.toList).isEmpty = false)
    (ran : (load text).run.Runs disk (.ok loaded) after) :
    (Text.trim loaded.path.toList).isEmpty = false := by
  obtain ⟨path, _, found, rest⟩ := Plan.exists_runs_of_ok ran
  obtain ⟨document, _, -, rest⟩ := Plan.exists_runs_of_ok rest
  obtain ⟨project, _, -, last⟩ := Plan.exists_runs_of_ok rest
  obtain ⟨same, -⟩ := Plan.runs_pure_iff.mp last
  obtain rfl := Except.ok.inj same
  exact locate_named named found

end LoadedProject

namespace Save

theorem parse_named {path text : String} {save : Save} (parsed : parse path text = .ok save) :
    (Text.trim save.project.toList).isEmpty = false := by
  unfold parse at parsed
  split at parsed
  · cases parsed
  · split at parsed
    · cases parsed
    · split at parsed
      · cases parsed
      · rename_i named
        obtain rfl := Except.ok.inj parsed
        simpa using named

theorem read_from_named {path : String} {save : Save}
    (ran : (readFrom path).run.Runs disk (.ok save) after) :
    (Text.trim save.project.toList).isEmpty = false := by
  obtain ⟨isFile, _, -, rest⟩ := Plan.exists_runs_of_ok ran
  split at rest
  · obtain ⟨text, _, -, last⟩ := Plan.exists_runs_of_ok rest
    obtain ⟨parsed, -⟩ := PlayerPlan.runs_of_except_iff.mp last
    exact parse_named parsed.symm
  · obtain ⟨wrong, -⟩ := Plan.runs_pure_iff.mp rest
    cases wrong

theorem load_named {path : String} {loaded : LoadedProject} {session : Session}
    (ran : (load path).run.Runs disk (.ok (loaded, session)) after) :
    (Text.trim loaded.path.toList).isEmpty = false := by
  obtain ⟨save, _, read, rest⟩ := Plan.exists_runs_of_ok ran
  obtain ⟨found, _, opened, rest⟩ := Plan.exists_runs_of_ok rest
  obtain ⟨taken, _, -, last⟩ := Plan.exists_runs_of_ok rest
  obtain ⟨same, -⟩ := Plan.runs_pure_iff.mp last
  obtain ⟨rfl, -⟩ := Prod.mk.inj (Except.ok.inj same)
  exact LoadedProject.load_named (read_from_named read) opened

end Save

namespace Agent

theorem finish_runs {session : Session} {project save : String}
    {result : Except PlayerError (List String)}
    (ran : (finish session project save).run.Runs disk result after) :
    (∃ error, result = .error error ∧ Save.Harmless save disk after error) ∨
      result = .ok (session.view.report (if isWorthSaving session then some save else none)) ∧
        disk.Leaves after (Save.files save) ∧
        (isWorthSaving session = false → after = disk) ∧
        (isWorthSaving session = true → after.read (Path.ofText save) =
          .ok (Save.ofState project session.state).text.toUTF8) := by
  unfold finish at ran
  cases worth : isWorthSaving session with
  | false =>
      rw [worth, if_neg (by simp)] at ran
      obtain ⟨rfl, rfl⟩ := Plan.runs_pure_iff.mp ran
      exact .inr ⟨rfl, Disk.Leaves.refl _ _, fun _ => rfl, nofun⟩
  | true =>
      rw [worth, if_pos rfl] at ran
      rcases Plan.runs_except_bind_iff.mp ran with ⟨_, middle, wrote, last⟩ | ⟨error, wrote, rfl⟩
      · obtain ⟨rfl, rfl⟩ := Plan.runs_pure_iff.mp last
        rcases Save.write_to_runs wrote with ⟨_, wrong, -⟩ | ⟨-, leaves, held⟩
        · cases wrong
        · exact .inr ⟨rfl, leaves, nofun, fun _ => held⟩
      · rcases Save.write_to_runs wrote with ⟨error, same, harmless⟩ | ⟨wrong, -⟩
        · exact .inl ⟨error, by rw [Except.error.inj same], harmless⟩
        · cases wrong

/-- What a move leaves that was made in a saved run: its report, and the file of the run. -/
structure Moved (source save : String) (move : Session → Except PlayerError Session) (disk after : Disk)
    (report : List String) (loaded : LoadedProject) (session next : Session) : Prop where
  loads : (Save.load source).run.Runs disk (.ok (loaded, session)) disk
  moves : move session = .ok next
  reported : report = next.view.report (if isWorthSaving next then some save else none)
  files : disk.Leaves after (Save.files save)
  unsaved : isWorthSaving next = false → after = disk
  saved : isWorthSaving next = true → Lasting next.state.numbers →
    (Save.readFrom save).run.on after = (.ok (Save.ofState loaded.path next.state.saved), after)

theorem transition_runs {source save : String} {move : Session → Except PlayerError Session}
    {result : Except PlayerError (List String)}
    (ran : (transition source save move).run.Runs disk result after) :
    (∃ error, result = .error error ∧ Save.Harmless save disk after error) ∨
      ∃ report loaded session next, result = .ok report ∧
        Moved source save move disk after report loaded session next := by
  rcases Plan.runs_except_bind_iff.mp ran with ⟨⟨loaded, session⟩, middle, loads, rest⟩ | ⟨error, loads, rfl⟩
  · obtain rfl := loads.same (Save.load_looks source)
    rcases Plan.runs_except_bind_iff.mp rest with ⟨next, middle, moving, last⟩ | ⟨error, moving, rfl⟩
    · obtain ⟨moved, rfl⟩ := PlayerPlan.runs_of_except_iff.mp moving
      rcases finish_runs last with failed | ⟨rfl, leaves, unsaved, held⟩
      · exact .inl failed
      · right
        refine ⟨_, loaded, session, next, rfl, loads, moved.symm, rfl, leaves, unsaved, ?_⟩
        intro worth lasting
        have named := Save.load_named loads
        exact Save.read_from_of_read (held worth) (Save.parse_text lasting named save)
    · obtain ⟨-, rfl⟩ := PlayerPlan.runs_of_except_iff.mp moving
      exact .inl ⟨error, rfl, Save.Harmless.unchanged _ _ _⟩
  · obtain rfl := loads.same (Save.load_looks source)
    exact .inl ⟨error, rfl, Save.Harmless.unchanged _ _ _⟩

end Agent

theorem Player.carry_out_of_move {command : Command} {plan : PlayerPlan (List String)}
    (moves : Player.move? command = some plan) (input : List UInt8) :
    Player.carryOut command input = plan.run >>= fun result => pure (Player.moved result) := by
  cases command with
  | play project board entry save => cases moves
  | start project board entry save =>
      obtain rfl := Option.some.inj moves
      rfl
  | choose source index save =>
      obtain rfl := Option.some.inj moves
      rfl
  | back source save =>
      obtain rfl := Option.some.inj moves
      rfl
  | restart source save =>
      obtain rfl := Option.some.inj moves
      rfl

namespace Command

/-- A command that takes a run up and fails changes no file but that beside its save, whatever went wrong.
One that succeeds changes the file of its save besides; if it names that file in its report, the file holds
the state that the move led to, with the path of the project. -/
theorem others_stay_undisturbed {command : Command} {source : String}
    (taken : command.source? = some source) :
    (∃ save move, command.save? = some save ∧
      Player.move? command = some (Agent.transition source save move) ∧
      ∀ input disk outcome after, (Player.carryOut command input).Runs disk outcome after →
        (∃ error, outcome = Player.failed "" error ∧ Save.Harmless save disk after error) ∨
        ∃ report loaded session next, outcome = ⟨0, linesText report⟩ ∧
          Agent.Moved source save move disk after report loaded session next) ∧
    ∀ amount, Number.saved amount = if Number.IsInfinite amount then Number.quietNan else amount := by
  obtain ⟨save, move, saves, moves, -⟩ := transition_of_source taken
  refine ⟨⟨save, move, saves, moves, ?_⟩, Number.saved_cases⟩
  intro input disk outcome after ran
  rw [Player.carry_out_of_move moves] at ran
  obtain ⟨result, _, moving, last⟩ := Plan.runs_bind_iff.mp ran
  obtain ⟨rfl, rfl⟩ := Plan.runs_pure_iff.mp last
  rcases Agent.transition_runs moving with ⟨error, rfl, harmless⟩ | ⟨report, loaded, session, next, rfl, done⟩
  · exact .inl ⟨error, rfl, harmless⟩
  · exact .inr ⟨report, loaded, session, next, rfl, done⟩

end Command

namespace Deed

/-- The run of the hall begun again: the files that it names are the only ones that differ. -/
theorem hall_restart_undisturbed :
    hallRestart.command.source? = some "a.json" ∧
    (Player.carryOut hallRestart.command []).Runs hallStart.after
      ⟨0, linesText (hallReport "NONE")⟩ hallRestart.after ∧
    hallStart.after.Leaves hallRestart.after
      [⟨false, ["NONE.tmp"], .name⟩, ⟨false, ["NONE"], .name⟩] := by
  have taken : hallRestart.command.source? = some "a.json" := rfl
  have ran : (Player.carryOut hallRestart.command []).Runs hallStart.after
      ⟨0, linesText (hallReport "NONE")⟩ hallRestart.after := by
    obtain ⟨move, moves, done⟩ := hall_restart_succeeded
    rw [Player.carry_out_of_move moves]
    apply Plan.runs_bind_iff.mpr
    refine ⟨.ok (hallReport "NONE"), hallRestart.after, ?_, .done _ _⟩
    have on := Plan.runs_on move.run hallRestart.before
    rw [done] at on
    exact on
  refine ⟨taken, ran, ?_⟩
  obtain ⟨⟨save, move, saves, -, undisturbed⟩, -⟩ := Command.others_stay_undisturbed taken
  obtain rfl : "NONE" = save := Option.some.inj saves
  rcases undisturbed _ _ _ _ ran with ⟨error, wrong, -⟩ | ⟨_, _, _, _, -, moved⟩
  · cases congrArg Player.Outcome.code wrong
  · have named : Save.files "NONE" = [⟨false, ["NONE.tmp"], .name⟩, ⟨false, ["NONE"], .name⟩] := by
      decide
    rw [← named]
    exact moved.files

end Deed

end Narrative
