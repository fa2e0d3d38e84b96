import Narrative.Json.Basic

/-!
# Agreement of documents

Whether a document is what was expected. Numbers agree by the doubles that they stand for, objects by
their names, whatever the order of their members.
-/

namespace Narrative.Json

set_option autoImplicit false

/-- The double that a number of a document stands for. -/
def float? : Json → Option Float
  | .whole number => some (Number.ofWhole number)
  | .real number => some number
  | _ => none

/-- Whether both are numbers, and equal ones. -/
def numbersAgree (expected found : Json) : Bool :=
  match expected.float?, found.float? with
  | some left, some right => left == right
  | _, _ => false

mutual

def agrees : Json → Json → Bool
  | .null, .null => true
  | .boolean expected, .boolean found => expected == found
  | .text expected, .text found => expected == found
  | .list expected, .list found => itemsAgree expected found
  | .object expected, .object found =>
    expected.length == found.length && membersAgree expected found
  | expected, found => numbersAgree expected found

def itemsAgree : List Json → List Json → Bool
  | [], [] => true
  | expected :: rest, found :: others => agrees expected found && itemsAgree rest others
  | _, _ => false

/-- Whether every member has one of its name that agrees. -/
def membersAgree : List (String × Json) → List (String × Json) → Bool
  | [], _ => true
  | (name, expected) :: rest, found =>
    (match Keyed.find? name found with
      | some member => agrees expected member
      | none => false) && membersAgree rest found

end

end Narrative.Json
