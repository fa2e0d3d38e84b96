import Narrative.Files.Plan

/-!
# Disks

A model of what plans are carried out on: files and folders by their places, and the folder where
relative paths begin. A path is followed step by step, and each step is taken in a folder that is there.
Main fact: carrying out a plan with a second one after it is carrying out the one and then the other.
-/

namespace Narrative

set_option autoImplicit false

/-- Names from the root on. The root itself is always a folder. -/
abbrev Place := List String

inductive DiskEntry where
  | file (bytes : ByteArray)
  | folder

def DiskEntry.kind : DiskEntry → EntryKind
  | .file _ => .file
  | .folder => .folder

structure Disk where
  /-- The path of the current folder. -/
  here : String
  entries : List (Place × DiskEntry)

namespace Disk

/-- The entry at a place of a list of entries. -/
def find? (place : Place) : List (Place × DiskEntry) → Option DiskEntry
  | [] => none
  | known :: rest => if known.1 = place then some known.2 else find? place rest

/-- Puts an entry at a place, instead of the one that is there. -/
def insert (place : Place) (entry : DiskEntry) : List (Place × DiskEntry) → List (Place × DiskEntry)
  | [] => [(place, entry)]
  | known :: rest =>
    if known.1 = place then (place, entry) :: rest else known :: insert place entry rest

/-- Takes away what is at a place. -/
def erase (place : Place) (entries : List (Place × DiskEntry)) : List (Place × DiskEntry) :=
  entries.filter fun known => known.1 ≠ place

theorem find?_insert_self (place : Place) (entry : DiskEntry) (entries : List (Place × DiskEntry)) :
    find? place (insert place entry entries) = some entry := by
  induction entries with
  | nil => simp [insert, find?]
  | cons known rest ih => by_cases same : known.1 = place <;> simp [insert, find?, same, ih]

theorem find?_insert_of_ne {place other : Place} (entry : DiskEntry) (entries : List (Place × DiskEntry))
    (different : other ≠ place) :
    find? other (insert place entry entries) = find? other entries := by
  induction entries with
  | nil => simp [insert, find?, Ne.symm different]
  | cons known rest ih =>
    by_cases same : known.1 = place
    · subst same
      simp [insert, find?, Ne.symm different]
    · simp [insert, find?, same, ih]

/-- What stands at a place. -/
def entry? (disk : Disk) (place : Place) : Option DiskEntry :=
  if place = [] then some .folder else find? place disk.entries

/-- The same disk with an entry at a place. -/
def put (disk : Disk) (place : Place) (entry : DiskEntry) : Disk :=
  { disk with entries := insert place entry disk.entries }

def take (disk : Disk) (place : Place) : Disk :=
  { disk with entries := erase place disk.entries }

/-- The fault of taking a step at a place where no folder stands. -/
def stepFault? (disk : Disk) (place : Place) : Option Fault :=
  match disk.entry? place with
  | none => some .missing
  | some (.file _) => some .notFolder
  | some .folder => none

/-- Names have at most this many bytes. -/
def longestName : Nat := 255

/-- The place where one step from a folder leads. -/
def stepFrom (place : Place) (step : String) : Except Fault Place :=
  if step = ".." then .ok place.dropLast
  else if longestName < step.utf8ByteSize then .error .longName
  else .ok (place ++ [step])

/-- The place where steps lead. Only the last of them may lead where nothing stands. -/
def follow (disk : Disk) : Place → List String → Except Fault Place
  | place, [] => .ok place
  | place, step :: rest =>
    match disk.stepFault? place with
    | some fault => .error fault
    | none =>
      match stepFrom place step with
      | .error fault => .error fault
      | .ok next => follow disk next rest

/-- The place that a path means. -/
def placeOf (disk : Disk) (path : Path) : Except Fault Place :=
  follow disk (if path.absolute then [] else (Path.ofText disk.here).steps) path.steps

/-- The place of a path and what stands there. -/
def lookup (disk : Disk) (path : Path) : Except Fault (Place × DiskEntry) := do
  let place ← disk.placeOf path
  match disk.entry? place, path.ending with
  | none, _ => throw .missing
  | some (.file bytes), .name => pure (place, .file bytes)
  | some (.file _), _ => throw .notFolder
  | some .folder, _ => pure (place, .folder)

def kind (disk : Disk) (path : Path) : Option EntryKind :=
  match disk.lookup path with
  | .ok found => some (found.2.kind)
  | .error _ => none

def read (disk : Disk) (path : Path) : Except Fault ByteArray := do
  let found ← disk.lookup path
  match found.2 with
  | .file bytes => pure bytes
  | .folder => throw .isFolder

/-- What stands in a folder itself. -/
def membersOf (disk : Disk) (folder : Place) : List (String × EntryKind) :=
  disk.entries.filterMap fun known =>
    if known.1.dropLast = folder then known.1.getLast?.map fun name => (name, known.2.kind)
    else none

def list (disk : Disk) (path : Path) : Except Fault (List (String × EntryKind)) := do
  let found ← disk.lookup path
  match found.2 with
  | .file _ => throw .notFolder
  | .folder => pure (disk.membersOf found.1)

def makeFolder (disk : Disk) (path : Path) : Except Fault Disk := do
  let place ← disk.placeOf path
  match disk.entry? place with
  | some _ => throw .taken
  | none => if path.ending = .dot then throw .missing else pure (disk.put place .folder)

def write (disk : Disk) (path : Path) (bytes : ByteArray) : Except Fault Disk := do
  let place ← disk.placeOf path
  match disk.entry? place with
  | some .folder => throw .isFolder
  | _ => if path.ending = .name then pure (disk.put place (.file bytes)) else throw .isFolder

/-- Whether a file may be put where a path leads. -/
def moveFault? (disk : Disk) (place : Place) : PathEnding → Option Fault
  | .slash => some .notFolder
  | .dot =>
    match disk.stepFault? place with
    | some fault => some fault
    | none => some .busy
  | .name =>
    match disk.entry? place with
    | some .folder => some .isFolder
    | _ => none

def move (disk : Disk) (source target : Path) : Except Fault Disk := do
  let bytes ← disk.read source
  let origin ← disk.placeOf source
  let place ← disk.placeOf target
  match disk.moveFault? place target.ending with
  | some fault => throw fault
  | none => pure ((disk.take origin).put place (.file bytes))

/-- The disk after a change, and whether it took place. -/
def changed (disk : Disk) : Except Fault Disk → Except Fault Unit × Disk
  | .ok after => (.ok (), after)
  | .error fault => (.error fault, disk)

/-- The answer to a request, and the disk after it. -/
def answer (disk : Disk) : (request : Request) → request.Answer × Disk
  | .currentFolder => (Except.ok disk.here, disk)
  | .kind path => (disk.kind path, disk)
  | .read path => (disk.read path, disk)
  | .list path => (disk.list path, disk)
  | .makeFolder path => disk.changed (disk.makeFolder path)
  | .write path bytes => disk.changed (disk.write path bytes)
  | .move source target => disk.changed (disk.move source target)

end Disk

/-- Carries a plan out on a disk. -/
def Plan.on {α : Type} : Plan α → Disk → α × Disk
  | .done value, disk => (value, disk)
  | .ask request next, disk =>
    let (answer, after) := disk.answer request
    (next answer).on after

@[simp] theorem Plan.on_pure {α : Type} (value : α) (disk : Disk) :
    (pure value : Plan α).on disk = (value, disk) := rfl

theorem Plan.on_bind {α β : Type} (plan : Plan α) (next : α → Plan β) (disk : Disk) :
    (plan >>= next).on disk = (next (plan.on disk).1).on (plan.on disk).2 := by
  induction plan generalizing disk with
  | done value => rfl
  | ask request rest ih => exact ih _ _

end Narrative
