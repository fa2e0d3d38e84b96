import Narrative.Files.Plan
import Narrative.Json.Agreement
import Narrative.Json.Writer
import Narrative.Session
import Narrative.TestCase.Document

/-!
# Checking test cases

A test case is checked against the one project in a folder: its actions are taken in a session, and
what is seen is compared with what is expected.
-/

namespace Narrative

set_option autoImplicit false

/-- Why a test case cannot be checked, or does not hold. -/
inductive TestFailure where
  | unread (path : String) (fault : Fault)
  | malformed (path : String)
  | wrongSchema (found : String)
  | projectMissing (folder : String)
  | severalProjects (folder : String) (count : Nat)
  | session (error : SessionError)
  | noWayBack (stop : Nat)
  | stopCount (expected : Nat) (seen : List Stop)
  | wrongStop (index : Nat) (expected seen : Stop)
  | unknownVariable (name : String)
  | wrongValue (name : String) (expected found : Json)

/-- The schema of test cases. -/
def TestCase.currentSchema : String := "sb-tool-case.v1"

/-- Stops as an indented list. -/
def Stop.listing (stops : List Stop) : String :=
  (Json.list (stops.map Stop.toJson)).indentedText

def TestFailure.message : TestFailure → String
  | .unread path fault => "Failed to read file " ++ path ++ ": " ++ fault.message
  | .malformed path => "Failed to parse testcase " ++ path ++ ": " ++ readerComplaint
  | .wrongSchema found =>
    "Invalid testcase schema version \"" ++ found ++ "\", expected \"" ++ TestCase.currentSchema ++
      "\"."
  | .projectMissing folder => "No project.json under " ++ folder ++ "."
  | .severalProjects folder count =>
    "Found " ++ Nat.repr count ++ " project documents under " ++ folder ++ "; expected exactly one."
  | .session error => "Engine error: " ++ error.display
  | .noWayBack stop =>
    "Back action at event index " ++ Nat.repr stop ++ " has no content node to return to."
  | .stopCount expected seen =>
    "Expected event count " ++ Nat.repr expected ++ ", actual " ++ Nat.repr seen.length ++
      ". observed=" ++ Stop.listing seen
  | .wrongStop index expected seen =>
    "Event mismatch at index " ++ Nat.repr index ++ ". expected=" ++ expected.toJson.compactText ++
      " actual=" ++ seen.toJson.compactText
  | .unknownVariable name => "Expected variable \"" ++ name ++ "\" is not declared by the project."
  | .wrongValue name expected found =>
    "Variable \"" ++ name ++ "\" mismatch. expected=" ++ expected.compactText ++ " actual=" ++
      found.compactText

/-- Whether a file's name is that of a project document. -/
def isProjectName (name : String) : Bool :=
  name == "project.json" || ".project.json".toList.isSuffixOf name.toList

/-- The path of the only project document in a folder. -/
def findProject (folder : String) : Plan (Except TestFailure String) := do
  let members := (← Plan.list (Path.ofText folder)).toOption.getD []
  match members.filter fun member => member.2 == .file && isProjectName member.1 with
  | [] => pure (.error (.projectMissing folder))
  | [member] => pure (.ok (Path.joined folder member.1))
  | several => pure (.error (.severalProjects folder several.length))

/-- The text of a file that has to be there. -/
def readFile (path : String) : Plan (Except TestFailure String) := do
  let text ← Plan.readText (Path.ofText path)
  pure (text.mapError fun fault => .unread path fault)

/-- The only project in a folder. -/
def readProject (folder : String) : Plan (Except TestFailure Project) := do
  match ← findProject folder with
  | .error failure => pure (.error failure)
  | .ok path =>
    let text ← readFile path
    pure (text.bind fun text => (Project.parse text).mapError .session)

namespace TestCase

/-- The test case that the text of a file holds. -/
def parse (path text : String) : Except TestFailure TestCase :=
  match ofText? text with
  | none => .error (.malformed path)
  | some test => if test.schema = currentSchema then .ok test else .error (.wrongSchema test.schema)

/-- The test case of a file. -/
def readFrom (path : String) : Plan (Except TestFailure TestCase) := do
  let text ← readFile path
  pure (text.bind (parse path))

/-- What was seen of a run. -/
structure Report where
  stops : List Stop
  actions : Nat
  values : Keyed Json

/-- The session after an action at a stop. -/
def act (session : Session) (stop : Nat) : Action → Except TestFailure Session
  | .choose index => (session.chooseIndex index).mapError .session
  | .back => if session.canGoBack then .ok session.goBack else .error (.noWayBack stop)
  | .restart => .ok session.restart

/-- The stops after each action, and the session after the last; `stop` counts the stops before. -/
def actAll (session : Session) (stop : Nat) : List Action → Except TestFailure (List Stop × Session)
  | [] => .ok ([], session)
  | action :: rest => do
    let next ← act session stop action
    let (stops, last) ← actAll next (stop + 1) rest
    pure (Stop.ofView next.view :: stops, last)

/-- The values of variables by name. Of several variables with one name the last counts. -/
def valuesOf (store : Store) : Keyed Json :=
  Keyed.ofPairs (store.map fun known => (known.name, known.value.toValue.toJson))

/-- Takes the actions of a test case in a project. -/
def runIn (project : Project) (test : TestCase) : Except TestFailure Report := do
  let session ← (Session.create Story.Options.standard test.entry project).mapError .session
  let (stops, last) ← actAll session 0 test.actions
  pure ⟨Stop.ofView session.view :: stops, test.actions.length, valuesOf last.state.store⟩

/-- Takes the actions of a test case in the project of a folder. -/
def run (folder : String) (test : TestCase) : Plan (Except TestFailure Report) := do
  let project ← readProject folder
  pure (project.bind fun project => runIn project test)

/-- Compares stops one by one; `index` is that of the first. -/
def compareStops (index : Nat) : List Stop → List Stop → Except TestFailure Unit
  | expected :: rest, seen :: others =>
    if expected = seen then compareStops (index + 1) rest others
    else .error (.wrongStop index expected seen)
  | _, _ => .ok ()

/-- Compares what is expected of variables with what they hold. -/
def compareValues (found : Keyed Json) : Keyed Json → Except TestFailure Unit
  | [] => .ok ()
  | (name, expected) :: rest =>
    match Keyed.find? name found with
    | none => .error (.unknownVariable name)
    | some value =>
      if expected.agrees value then compareValues found rest
      else .error (.wrongValue name expected value)

/-- Whether a report is what a test case expects. -/
def compare (test : TestCase) (report : Report) : Except TestFailure Unit :=
  if report.stops.length = test.stops.length then do
    compareStops 0 test.stops report.stops
    compareValues report.values test.values
  else .error (.stopCount test.stops.length report.stops)

/-- Checks the test case of a file against the project of a folder. -/
def check (folder path : String) : Plan (Except TestFailure Unit) := do
  match ← readFrom path with
  | .error failure => pure (.error failure)
  | .ok test =>
    let report ← run folder test
    pure (report.bind (compare test))

end TestCase

end Narrative
