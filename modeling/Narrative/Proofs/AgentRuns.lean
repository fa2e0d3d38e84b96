import Narrative.Player
import Narrative.Proofs.Resumption
import Narrative.Proofs.Steady

/-!
# Runs of agents

Commands that each take a run up from the file that an earlier one left. As long as the project is what it
was, a run whose beginning was saved is saved by every command that succeeds.
-/

namespace Narrative

set_option autoImplicit false

variable {disk after : Disk}

theorem Path.absolute_joined {folder : String} (absolute : Path.isAbsolute folder = true)
    (text : String) : Path.isAbsolute (Path.joined folder text) = true := by
  have lead : folder.toList.head? = some '/' := by simpa [Path.isAbsolute] using absolute
  unfold Path.joined
  split
  · rename_i alone
    rcases Bool.or_eq_true_iff.mp alone with own | empty
    · exact own
    · rw [String.isEmpty_iff.mp empty] at lead
      simp at lead
  · split <;> simp [Path.isAbsolute, String.toList_append, List.head?_append, lead]

theorem Path.joined_of_absolute {text : String} (absolute : Path.isAbsolute text = true)
    (folder : String) : Path.joined folder text = text := by
  simp [Path.joined, absolute]

namespace Plan

theorem on_is_folder (path : Path) :
    (isFolder path).on disk = (disk.kind path == some .folder, disk) := rfl

theorem on_is_file (path : Path) :
    (isFile path).on disk = (disk.kind path == some .file, disk) := rfl

theorem on_current_folder : currentFolder.on disk = (.ok disk.here, disk) := rfl

theorem on_read_text (path : Path) :
    (readText path).on disk = (disk.read path >>= decoded, disk) := rfl

end Plan

namespace PlayerPlan

theorem on_of_except_ok_iff {α : Type} {result : Except PlayerError α} {value : α} :
    (ofExcept result).run.on disk = (.ok value, after) ↔ result = .ok value ∧ disk = after := by
  change (result, disk) = _ ↔ _
  simp

theorem on_of_session_ok_iff {α : Type} {result : Except SessionError α} {value : α} :
    (ofSession result).run.on disk = (.ok value, after) ↔ result = .ok value ∧ disk = after := by
  rw [ofSession, on_of_except_ok_iff, map_error_ok_iff]

end PlayerPlan

namespace LoadedProject

/-- Where a document is looked for, once it is known where relative paths begin. -/
def place (disk : Disk) (folder text : String) : String :=
  if disk.kind (Path.ofText (Path.joined folder text)) == some .folder then
    Path.joined (Path.joined folder text) "project.json"
  else Path.joined folder text

theorem on_present_ok {file path : String} (found : (present file).run.on disk = (.ok path, after)) :
    after = disk ∧ path = file := by
  obtain ⟨isFile, middle, looked, last⟩ := Plan.on_bind_ok_iff.mp found
  rw [Plan.on_lift_ok_iff, Plan.on_is_file] at looked
  obtain ⟨rfl, rfl⟩ := Prod.mk.inj looked
  split at last
  · rw [ExceptT.run_pure, Plan.on_pure] at last
    obtain ⟨here, same⟩ := Prod.mk.inj last
    exact ⟨same.symm, (Except.ok.inj here).symm⟩
  · rw [ExceptT.run_throw, Plan.on_pure] at last
    simp at last

theorem located_from {folder text path : String}
    (found : (locateFrom folder text).run.on disk = (.ok path, after)) :
    after = disk ∧ path = place disk folder text := by
  obtain ⟨isFolder, middle, asked, last⟩ := Plan.on_bind_ok_iff.mp found
  rw [Plan.on_lift_ok_iff, Plan.on_is_folder] at asked
  obtain ⟨rfl, rfl⟩ := Prod.mk.inj asked
  exact on_present_ok last

theorem located {text path : String} (found : (locate text).run.on disk = (.ok path, after)) :
    after = disk ∧ path = place disk (if Path.isAbsolute text then "" else disk.here) text := by
  unfold locate at found
  cases absolute : Path.isAbsolute text with
  | true =>
      simp only [absolute, if_true] at found
      exact located_from found
  | false =>
      simp only [absolute] at found
      obtain ⟨folder, middle, asked, rest⟩ := Plan.on_bind_ok_iff.mp found
      rw [Save.on_or_fault_ok_iff, Plan.on_current_folder] at asked
      obtain ⟨here, rfl⟩ := Prod.mk.inj asked
      obtain rfl := Except.ok.inj here
      exact located_from rest

/-- The path of a project that was loaded leads from the root, if that of the current folder does. -/
theorem located_absolute {text path : String} (rooted : Path.isAbsolute disk.here = true)
    (found : (locate text).run.on disk = (.ok path, after)) : Path.isAbsolute path = true := by
  obtain ⟨-, rfl⟩ := located found
  have start : Path.isAbsolute
      (Path.joined (if Path.isAbsolute text then "" else disk.here) text) = true := by
    cases absolute : Path.isAbsolute text with
    | true =>
        rw [Path.joined_of_absolute absolute]
        exact absolute
    | false => exact Path.absolute_joined rooted text
  unfold place
  generalize Path.joined (if Path.isAbsolute text then "" else disk.here) text = target at start
  split
  · exact Path.absolute_joined start "project.json"
  · exact start

/-- What is loaded is what the file says. -/
theorem load_parts {text : String} {loaded : LoadedProject}
    (done : (load text).run.on disk = (.ok loaded, after)) :
    after = disk ∧ (locate text).run.on disk = (.ok loaded.path, disk) ∧
      ∃ document, disk.read (Path.ofText loaded.path) >>= Plan.decoded = .ok document ∧
        Project.parse document = .ok loaded.project := by
  obtain ⟨path, middle, found, rest⟩ := Plan.on_bind_ok_iff.mp done
  obtain ⟨rfl, -⟩ := located found
  obtain ⟨document, middle, read, rest⟩ := Plan.on_bind_ok_iff.mp rest
  rw [Save.on_or_fault_ok_iff, Plan.on_read_text] at read
  obtain ⟨told, rfl⟩ := Prod.mk.inj read
  obtain ⟨project, middle, parsed, last⟩ := Plan.on_bind_ok_iff.mp rest
  obtain ⟨holds, rfl⟩ := PlayerPlan.on_of_session_ok_iff.mp parsed
  rw [ExceptT.run_pure, Plan.on_pure] at last
  obtain ⟨same, rfl⟩ := Prod.mk.inj last
  obtain rfl := Except.ok.inj same
  exact ⟨rfl, found, document, told, holds⟩

/-- Where the file of a project is as it was, the same project is loaded from its path. -/
theorem load_again {text : String} {first again : LoadedProject} {earlier later : Disk}
    (rooted : Path.isAbsolute earlier.here = true)
    (begun : (load text).run.on earlier = (.ok first, later))
    (unchanged : disk.read (Path.ofText first.path) = earlier.read (Path.ofText first.path))
    (done : (load first.path).run.on disk = (.ok again, after)) : again = first := by
  obtain ⟨-, found, document, told, parsed⟩ := load_parts begun
  obtain ⟨-, foundAgain, documentAgain, toldAgain, parsedAgain⟩ := load_parts done
  have absolute := located_absolute rooted found
  obtain ⟨bytes, held, -⟩ := bind_ok_iff.mp told
  -- A file stands at the path, so no folder does, and the document is not looked for inside.
  have path : again.path = first.path := by
    rw [(located foundAgain).2, place, if_pos absolute, Path.joined_of_absolute absolute,
      Disk.kind_of_read (unchanged.trans held)]
    rfl
  rw [path, unchanged, told] at toldAgain
  obtain rfl := Except.ok.inj toldAgain
  have project := Except.ok.inj (parsedAgain.symm.trans parsed)
  cases again
  cases first
  simp_all

/-- A project is loaded from an absolute path where its document stands. -/
theorem load_of_read {path document : String} {project : Project}
    (absolute : Path.isAbsolute path = true)
    (held : disk.read (Path.ofText path) = .ok document.toUTF8)
    (parsed : Project.parse document = .ok project) :
    (load path).run.on disk = (.ok ⟨path, project⟩, disk) := by
  have stands := Disk.kind_of_read held
  have found : (locate path).run.on disk = (.ok path, disk) := by
    unfold locate
    rw [if_pos absolute]
    refine Plan.on_bind_ok_iff.mpr ⟨"", disk, rfl, ?_⟩
    refine Plan.on_bind_ok_iff.mpr ⟨false, disk, Plan.on_lift_ok_iff.mpr ?_, ?_⟩
    · rw [Path.joined_of_absolute absolute, Plan.on_is_folder, stands]
      rfl
    · rw [Path.joined_of_absolute absolute]
      refine Plan.on_bind_ok_iff.mpr ⟨true, disk, Plan.on_lift_ok_iff.mpr ?_, rfl⟩
      rw [if_neg (by simp), Plan.on_is_file, stands]
      rfl
  have read : (Plan.readText (Path.ofText path)).on disk = (.ok document, disk) := by
    rw [Plan.on_read_text, held]
    exact congrArg (·, disk) (Plan.decoded_of_text document)
  refine Plan.on_bind_ok_iff.mpr ⟨path, disk, found, ?_⟩
  refine Plan.on_bind_ok_iff.mpr ⟨document, disk, Save.on_or_fault_ok_iff.mpr read, ?_⟩
  exact Plan.on_bind_ok_iff.mpr
    ⟨project, disk, PlayerPlan.on_of_session_ok_iff.mpr ⟨parsed, rfl⟩, rfl⟩

end LoadedProject

/-- The story of a project as commands take it up. -/
def LoadedProject.story (loaded : LoadedProject) : Story :=
  Story.ofProject Story.Options.standard loaded.project

theorem Session.resume_parts {options : Story.Options} {state : Story.State} {project : Project}
    {session : Session} (resumed : resume options state project = .ok session) :
    storyOf options project = .ok session.story ∧ session.state = state := by
  obtain ⟨story, told, rest⟩ := bind_ok_iff.mp resumed
  split at rest
  · obtain rfl := Except.ok.inj rest
    exact ⟨told, rfl⟩
  · split at rest
    · obtain rfl := Except.ok.inj rest
      exact ⟨told, rfl⟩
    · cases rest

namespace Save

/-- A save that is read says the same way as the save that was written into its file. -/
theorem way_of_read {path : String} {save found : Save}
    (held : disk.read (Path.ofText path) = .ok save.text.toUTF8)
    (read : (readFrom path).run.on disk = (.ok found, after)) :
    after = disk ∧ found.project = save.project ∧ found.state.way = save.state.way := by
  unfold readFrom at read
  obtain ⟨isFile, middle, looked, rest⟩ := Plan.on_bind_ok_iff.mp read
  rw [Plan.on_lift_ok_iff, Plan.on_is_file] at looked
  obtain ⟨rfl, rfl⟩ := Prod.mk.inj looked
  rw [Disk.kind_of_read held] at rest
  obtain ⟨text, middle, taken, last⟩ := Plan.on_bind_ok_iff.mp rest
  rw [on_or_fault_ok_iff, Plan.on_read_text, held] at taken
  obtain ⟨decoded, rfl⟩ := Prod.mk.inj taken
  obtain ⟨bytes, here, decoded⟩ := bind_ok_iff.mp decoded
  obtain rfl := Except.ok.inj here
  rw [Plan.decoded_of_text] at decoded
  obtain rfl := Except.ok.inj decoded
  obtain ⟨parsed, rfl⟩ := PlayerPlan.on_of_except_ok_iff.mp last
  exact ⟨rfl, way_of_parsed parsed⟩

end Save

namespace Agent

theorem worth_saving_iff {session : Session} :
    isWorthSaving session = true ↔ session.story.GoesOn session.state := by
  simp [isWorthSaving, Story.GoesOn, Session.canGoBack]

/-- A session that goes on is saved and reported with its file. -/
theorem finish_saved {session : Session} {project save : String} {report : List String}
    (going : session.story.GoesOn session.state)
    (done : (finish session project save).run.on disk = (.ok report, after)) :
    report = session.view.report (some save) ∧
      after.read (Path.ofText save) = .ok (Save.ofState project session.state).text.toUTF8 := by
  unfold finish at done
  rw [if_pos (worth_saving_iff.mpr going)] at done
  obtain ⟨_, middle, written, last⟩ := Plan.on_bind_ok_iff.mp done
  rw [ExceptT.run_pure, Plan.on_pure] at last
  obtain ⟨same, rfl⟩ := Prod.mk.inj last
  exact ⟨(Except.ok.inj same).symm, Save.read_of_written written⟩

theorem finish_unsaved {session : Session} {project save : String} {report : List String}
    (stuck : ¬session.story.GoesOn session.state)
    (done : (finish session project save).run.on disk = (.ok report, after)) :
    report = session.view.report none := by
  unfold finish at done
  rw [if_neg (fun worth => stuck (worth_saving_iff.mp worth)), ExceptT.run_pure, Plan.on_pure] at done
  exact (Except.ok.inj (Prod.mk.inj done).1).symm

/-- The report names the file, and there stands the state that was reported, in a run that goes on or
back. -/
structure Kept (loaded : LoadedProject) (report : List String) (save : String) (after : Disk)
    (session : Session) : Prop where
  reported : report = session.view.report (some save)
  written : after.read (Path.ofText save) =
    .ok (Save.ofState loaded.path session.state).text.toUTF8
  steady : loaded.story.Steady session.state.way

/-- What a move does with a run that goes on or back: it goes on to be one. -/
def StaysSteady (move : Session → Except PlayerError Session) : Prop :=
  ∀ session next, session.story.Steady session.state.way → move session = .ok next →
    next.story = session.story ∧ next.story.Steady next.state.way ∧ next.story.GoesOn next.state

theorem choose_stays_steady (index : Nat) : StaysSteady (choose index) := by
  intro session next steady moved
  have followed : session.chooseIndex index = .ok next := map_error_ok_iff.mp moved
  obtain ⟨choice, offered, rfl⟩ := Session.choice_of_index followed
  exact ⟨rfl, steady.choose (Session.edge_of_choice offered).1 choice.target⟩

theorem back_stays_steady : StaysSteady back := by
  intro session next steady moved
  unfold back at moved
  split at moved
  · rename_i able
    obtain rfl := Except.ok.inj moved
    exact ⟨rfl, steady.goBack able⟩
  · cases moved

theorem restart_stays_steady : StaysSteady restart := by
  intro session next steady moved
  obtain rfl := Except.ok.inj moved
  exact ⟨rfl, steady.restart⟩

/-- A command takes a kept run up and keeps it. -/
theorem transition_keeps {loaded : LoadedProject} {state : Story.State} {source save : String}
    {move : Session → Except PlayerError Session} {report : List String}
    (steady : loaded.story.Steady state.way) (moves : StaysSteady move)
    (held : disk.read (Path.ofText source) = .ok (Save.ofState loaded.path state).text.toUTF8)
    (same : ∀ again later, (LoadedProject.load loaded.path).run.on disk = (.ok again, later) →
      again = loaded)
    (done : (transition source save move).run.on disk = (.ok report, after)) :
    ∃ session, Kept loaded report save after session := by
  obtain ⟨⟨again, session⟩, middle, took, rest⟩ := Plan.on_bind_ok_iff.mp done
  obtain ⟨found, middle, read, opened⟩ := Plan.on_bind_ok_iff.mp took
  obtain ⟨rfl, project, way⟩ := Save.way_of_read held read
  obtain ⟨other, middle, loads, resumes⟩ := Plan.on_bind_ok_iff.mp opened
  rw [project] at loads
  obtain rfl := same other middle loads
  obtain ⟨rfl, -⟩ := LoadedProject.load_parts loads
  obtain ⟨taken, middle, resuming, last⟩ := Plan.on_bind_ok_iff.mp resumes
  obtain ⟨resumed, rfl⟩ := PlayerPlan.on_of_session_ok_iff.mp resuming
  rw [ExceptT.run_pure, Plan.on_pure] at last
  obtain ⟨pair, rfl⟩ := Prod.mk.inj last
  obtain ⟨rfl, rfl⟩ := Prod.mk.inj (Except.ok.inj pair)
  obtain ⟨next, middle, moving, finished⟩ := Plan.on_bind_ok_iff.mp rest
  obtain ⟨moved, rfl⟩ := PlayerPlan.on_of_except_ok_iff.mp moving
  obtain ⟨told, current⟩ := Session.resume_parts resumed
  have story := Session.story_of_parts told
  have ready : taken.story.Steady taken.state.way := by
    rw [story, current, way]
    exact steady
  obtain ⟨onward, kept, going⟩ := moves taken next ready moved
  obtain ⟨reported, written⟩ := finish_saved going finished
  refine ⟨next, reported, written, ?_⟩
  rw [onward, story] at kept
  exact kept

theorem report_last (view : Story.View) (saved : Option String) :
    (view.report saved).getLast? = some ("STATE_OUT:" ++ saved.getD "NONE") := by
  unfold Story.View.report
  rw [List.getLast?_append]
  rfl

/-- A beginning that was reported with a file is kept. -/
theorem start_keeps {loaded : LoadedProject} {project save : String} {board entry : Option String}
    {report : List String} {later : Disk}
    (opened : (LoadedProject.load project).run.on disk = (.ok loaded, later))
    (persisted : report.getLast? ≠ some "STATE_OUT:NONE")
    (done : (start project board entry save).run.on disk = (.ok report, after)) :
    ∃ session, Kept loaded report save after session := by
  obtain ⟨other, middle, loads, rest⟩ := Plan.on_bind_ok_iff.mp done
  obtain ⟨same, rfl⟩ := Prod.mk.inj (opened.symm.trans loads)
  obtain rfl := Except.ok.inj same
  obtain ⟨session, middle, beginning, finished⟩ := Plan.on_bind_ok_iff.mp rest
  obtain ⟨created, rfl⟩ := PlayerPlan.on_of_session_ok_iff.mp beginning
  obtain ⟨told, begun⟩ := Session.created_parts created
  by_cases going : session.story.GoesOn session.state
  · obtain ⟨reported, written⟩ := finish_saved going finished
    refine ⟨session, reported, written, ?_⟩
    rw [begun] at going
    obtain ⟨id, at_node, waits⟩ := Story.waits_at_start going
    have onBoard : session.story.start (some id) = loaded.story.start (some id) := by
      rw [Session.story_of_parts told]
      exact Session.start_on_board loaded.story _ id
    rw [begun, at_node, onBoard]
    rw [onBoard] at waits
    exact Story.Steady.start waits
  · exfalso
    apply persisted
    rw [finish_unsaved going finished, report_last]
    rfl

end Agent

namespace Command

/-- The file where a command takes a run up. -/
def source? : Command → Option String
  | .choose source _ _ => some source
  | .back source _ => some source
  | .restart source _ => some source
  | .start _ _ _ _ => none
  | .play _ _ _ _ => none

/-- The file where a command saves a run. -/
def save? : Command → Option String
  | .start _ _ _ save => some save
  | .choose _ _ save => some save
  | .back _ save => some save
  | .restart _ save => some save
  | .play _ _ _ save => save

/-- A command that takes a run up makes one move in it and saves it. -/
theorem transition_of_source {command : Command} {source : String}
    (taken : command.source? = some source) :
    ∃ save move, command.save? = some save ∧
      Player.move? command = some (Agent.transition source save move) ∧ Agent.StaysSteady move := by
  cases command with
  | choose file index save =>
      obtain rfl : file = source := Option.some.inj taken
      exact ⟨save, Agent.choose index, rfl, rfl, Agent.choose_stays_steady index⟩
  | back file save =>
      obtain rfl : file = source := Option.some.inj taken
      exact ⟨save, Agent.back, rfl, rfl, Agent.back_stays_steady⟩
  | restart file save =>
      obtain rfl : file = source := Option.some.inj taken
      exact ⟨save, Agent.restart, rfl, rfl, Agent.restart_stays_steady⟩
  | start project board entry save => cases taken
  | play project board entry save => cases taken

end Command

/-- A command that was carried out, with the disk that it met, its report, and the disk that it left. -/
structure Deed where
  command : Command
  before : Disk
  report : List String
  after : Disk

namespace Deed

/-- The command is a move of an agent that succeeded. -/
def Succeeded (deed : Deed) : Prop :=
  ∃ move, Player.move? deed.command = some move ∧
    move.run.on deed.before = (.ok deed.report, deed.after)

/-- The deeds of a run: the first one, and each that takes up what an earlier one left, while the
document of the project is as it was. Other files may change in any way in between. -/
inductive InRun (document : String) (first : Deed) : Deed → Prop where
  | first : InRun document first first
  | next {earlier deed : Deed} {save source : String} (prior : InRun document first earlier)
      (left : earlier.command.save? = some save) (taken : deed.command.source? = some source)
      (untouched : deed.before.read (Path.ofText source) = earlier.after.read (Path.ofText save))
      (unchanged : deed.before.read (Path.ofText document) =
        first.before.read (Path.ofText document))
      (succeeded : deed.Succeeded) : InRun document first deed

/-- A run whose beginning was saved is saved by every command of it that succeeds. -/
theorem runs_stay_saved {first : Deed} {project save : String} {board entry : Option String}
    {loaded : LoadedProject} {later : Disk}
    (begins : first.command = .start project board entry save) (succeeded : first.Succeeded)
    (rooted : Path.isAbsolute first.before.here = true)
    (opened : (LoadedProject.load project).run.on first.before = (.ok loaded, later))
    (persisted : first.report.getLast? ≠ some "STATE_OUT:NONE") {deed : Deed}
    (run : InRun loaded.path first deed) :
    ∃ (target : String) (session : Session), deed.command.save? = some target ∧
      deed.report = session.view.report (some target) ∧
      deed.report.getLast? = some ("STATE_OUT:" ++ target) ∧
      deed.after.read (Path.ofText target) =
        .ok (Save.ofState loaded.path session.state).text.toUTF8 := by
  have kept : ∃ target session, deed.command.save? = some target ∧
      Agent.Kept loaded deed.report target deed.after session := by
    induction run with
    | first =>
        obtain ⟨move, asked, done⟩ := succeeded
        rw [begins] at asked
        obtain rfl := Option.some.inj asked
        obtain ⟨session, kept⟩ := Agent.start_keeps opened persisted done
        exact ⟨save, session, by rw [begins]; rfl, kept⟩
    | @next earlier deed save source prior left taken untouched unchanged again induction =>
        obtain ⟨target, session, saved, kept⟩ := induction
        obtain rfl : save = target := Option.some.inj (left.symm.trans saved)
        have held := untouched.trans kept.written
        have same : ∀ other after,
            (LoadedProject.load loaded.path).run.on deed.before = (.ok other, after) →
              other = loaded :=
          fun other after loads => LoadedProject.load_again rooted opened unchanged loads
        obtain ⟨move, asked, done⟩ := again
        obtain ⟨place, step, saves, moves, steady⟩ := Command.transition_of_source taken
        obtain rfl : Agent.transition source place step = move :=
          Option.some.inj (moves.symm.trans asked)
        obtain ⟨next, keeps⟩ := Agent.transition_keeps kept.steady steady held same done
        exact ⟨place, next, saves, keeps⟩
  obtain ⟨target, session, saved, reported, written, -⟩ := kept
  refine ⟨target, session, saved, reported, ?_, written⟩
  rw [reported, Agent.report_last]
  rfl

/-- The document of a hall with a way back into itself. -/
def hallText : String :=
  "\x7b\"boards\":[\x7b\"id\":\"b\",\"nodes\":[\x7b\"id\":\"hall\",\"type\":\"content\"\x7d]," ++
    "\"edges\":[\x7b\"source\":\"hall\",\"target\":\"hall\"\x7d]\x7d]\x7d"

def hall : LoadedProject where
  path := "/home/fair.json"
  project :=
    ⟨[], [⟨"b", "", [⟨"hall", .content, none, none, [], [], none⟩], [⟨"", "hall", none, "hall"⟩]⟩],
      none⟩

def hallSession : Session :=
  ⟨hall.story, hall.story.start none⟩

/-- What is reported of the hall, with the file where the run is saved. -/
def hallReport (save : String) : List String :=
  ["RESULT:OK", "EVENT:CHOICES", "NODE:hall", "LABEL_JSON:\"\"", "CONTENT_JSON:\"\"",
    "CHOICE:0|\"\"|hall", "CAN_GO_BACK:false", "STATE_OUT:" ++ save]

def hallDisk : Disk :=
  ⟨"/home", [(["home"], .folder), (["home", "fair.json"], .file hallText.toUTF8)]⟩

/-- The disk after the hall was saved in a file. -/
def hallSaved (disk : Disk) (save : String) : Disk :=
  ((Agent.finish hallSession hall.path save).run.on disk).2

def hallStart : Deed :=
  ⟨.start hall.path none none "a.json", hallDisk, hallReport "a.json", hallSaved hallDisk "a.json"⟩

/-- The run begun again, saved in a file with the name that stands for no file. -/
def hallRestart : Deed :=
  ⟨.restart "a.json" "NONE", hallStart.after, hallReport "NONE", hallSaved hallStart.after "NONE"⟩

theorem hall_loads {disk : Disk}
    (held : disk.read (Path.ofText hall.path) = .ok hallText.toUTF8) :
    (LoadedProject.load hall.path).run.on disk = (.ok hall, disk) := by
  have parsed : Project.parse hallText = .ok hall.project := by rfl
  exact LoadedProject.load_of_read (by decide) held parsed

theorem hall_start_succeeded : hallStart.Succeeded := by
  have finished : (Agent.finish hallSession hall.path "a.json").run.on hallDisk =
      (.ok (hallReport "a.json"), hallSaved hallDisk "a.json") := by rfl
  refine ⟨Agent.start hall.path none none "a.json", rfl, ?_⟩
  refine Plan.on_bind_ok_iff.mpr ⟨hall, hallDisk, hall_loads rfl, ?_⟩
  exact Plan.on_bind_ok_iff.mpr
    ⟨hallSession, hallDisk, PlayerPlan.on_of_session_ok_iff.mpr ⟨rfl, rfl⟩, finished⟩

theorem hall_restart_succeeded : hallRestart.Succeeded := by
  have finished : (Agent.finish hallSession hall.path "NONE").run.on hallStart.after =
      (.ok (hallReport "NONE"), hallSaved hallStart.after "NONE") := by rfl
  have lasting : Lasting hallSession.state.numbers := by
    have none_held : hallSession.state.numbers = [] := rfl
    simp [none_held, Lasting]
  have parsed := Save.parse_text lasting (show (Text.trim hall.path.toList).isEmpty = false by decide)
    "a.json"
  have read := Save.read_from_of_read
    (show hallStart.after.read (Path.ofText "a.json") = .ok _ from rfl) parsed
  have resumed : (hall.resume hallSession.state.saved).run.on hallStart.after =
      (.ok hallSession, hallStart.after) :=
    PlayerPlan.on_of_session_ok_iff.mpr ⟨rfl, rfl⟩
  have loaded : (Save.load "a.json").run.on hallStart.after =
      (.ok (hall, hallSession), hallStart.after) := by
    refine Plan.on_bind_ok_iff.mpr ⟨_, hallStart.after, read, ?_⟩
    refine Plan.on_bind_ok_iff.mpr ⟨hall, hallStart.after, hall_loads rfl, ?_⟩
    exact Plan.on_bind_ok_iff.mpr ⟨hallSession, hallStart.after, resumed, rfl⟩
  refine ⟨Agent.transition "a.json" "NONE" Agent.restart, rfl, ?_⟩
  refine Plan.on_bind_ok_iff.mpr ⟨(hall, hallSession), hallStart.after, loaded, ?_⟩
  exact Plan.on_bind_ok_iff.mpr
    ⟨hallSession, hallStart.after, PlayerPlan.on_of_except_ok_iff.mpr ⟨rfl, rfl⟩, finished⟩

theorem hall_run : InRun hall.path hallStart hallRestart :=
  InRun.first.next rfl rfl rfl rfl hall_restart_succeeded

theorem hall_stays_saved :
    hallStart.command = .start hall.path none none "a.json" ∧ hallStart.Succeeded ∧
      Path.isAbsolute hallStart.before.here = true ∧
      (LoadedProject.load hall.path).run.on hallStart.before = (.ok hall, hallDisk) ∧
      hallStart.report.getLast? ≠ some "STATE_OUT:NONE" ∧ InRun hall.path hallStart hallRestart ∧
      ∃ (target : String) (session : Session), hallRestart.command.save? = some target ∧
        hallRestart.report = session.view.report (some target) ∧
        hallRestart.report.getLast? = some ("STATE_OUT:" ++ target) ∧
        hallRestart.after.read (Path.ofText target) =
          .ok (Save.ofState hall.path session.state).text.toUTF8 := by
  have rooted : Path.isAbsolute hallStart.before.here = true := by decide
  have opened : (LoadedProject.load hall.path).run.on hallStart.before = (.ok hall, hallDisk) :=
    hall_loads rfl
  have persisted : hallStart.report.getLast? ≠ some "STATE_OUT:NONE" := by decide
  exact ⟨rfl, hall_start_succeeded, rooted, opened, persisted, hall_run,
    runs_stay_saved rfl hall_start_succeeded rooted opened persisted hall_run⟩

/-- A run that was saved in a file reports `STATE_OUT:NONE` where it is saved in a file of that name. -/
theorem hall_saved_as_none :
    hallStart.Succeeded ∧ hallStart.report.getLast? = some "STATE_OUT:a.json" ∧
      InRun hall.path hallStart hallRestart ∧ hallRestart.Succeeded ∧
      hallRestart.report.getLast? = some "STATE_OUT:NONE" :=
  ⟨hall_start_succeeded, by decide, hall_run, hall_restart_succeeded, by decide⟩

end Deed

end Narrative
