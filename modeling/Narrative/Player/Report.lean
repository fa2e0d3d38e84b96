import Narrative.Json.Writer
import Narrative.Player.Error
import Narrative.Story.View

/-!
# Reports

What the player tells other programs: one record a line, each with its name before a colon.
-/

namespace Narrative

set_option autoImplicit false

/-- A text in quotes, on one line. -/
def quotedText (text : String) : String :=
  String.ofList (Json.quote text.toList)

/-- What happened, as reports name it. -/
def Story.Status.event : Story.Status → String
  | .paused => "CHOICES"
  | .deadEnd => "END"
  | .closed => "END"
  | .missing => "MISSING"
  | .cycle => "CYCLE"

def Story.Choice.record (choice : Story.Choice) : String :=
  "CHOICE:" ++ Nat.repr choice.index ++ "|" ++ quotedText choice.label ++ "|" ++ choice.target

/-- The records of a view, and of the file where the run was saved. -/
def Story.View.report (view : Story.View) (saved : Option String) : List String :=
  ["RESULT:OK", "EVENT:" ++ view.status.event] ++
    (view.node.map fun node => "NODE:" ++ node).toList ++
    ["LABEL_JSON:" ++ quotedText view.label, "CONTENT_JSON:" ++ quotedText view.content] ++
    view.choices.map Story.Choice.record ++
    ["CAN_GO_BACK:" ++ Value.booleanText view.canGoBack, "STATE_OUT:" ++ saved.getD "NONE"]

/-- The records of an error. -/
def PlayerError.report (error : PlayerError) : List String :=
  ["RESULT:ERROR", "ERROR_CODE:" ++ error.code, "ERROR_MSG_JSON:" ++ quotedText error.message]

/-- Lines, each with its end. -/
def linesText (lines : List String) : String :=
  String.join (lines.map fun line => line ++ "\n")

end Narrative
