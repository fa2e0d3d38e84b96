import Narrative.Json.Reader

/-!
# Records in documents

Reading what a program expects from what a document spells. A record is an object with named fields,
where other members are skipped and a repeated field is refused, or a list with the fields in their
declared order. A field that a list leaves out must have a default.
-/

namespace Narrative

set_option autoImplicit false

namespace Raw

def text? : Raw → Option String
  | .text letters => letters
  | _ => none

def boolean? : Raw → Option Bool
  | .boolean flag => some flag
  | _ => none

/-- A number, or null for not-a-number. -/
def float? : Raw → Option Float
  | .null => some Number.quietNan
  | .number (some (.inl whole)) => some (Number.ofWhole whole)
  | .number (some (.inr real)) => some real
  | _ => none

/-- A whole number from zero to the greatest 64 bit word. -/
def count? : Raw → Option Nat
  | .number (some (.inl whole)) => if whole < 0 then none else some whole.natAbs
  | _ => none

/-- A value that may be null. -/
def nullable? {α : Type} (read : Raw → Option α) : Raw → Option (Option α)
  | .null => some none
  | value => (read value).map some

def list? {α : Type} (read : Raw → Option α) : Raw → Option (List α)
  | .list items => items.mapM read
  | _ => none

/-- A map: every name counts, and of members with one name the last. -/
def keyed? {α : Type} (read : Raw → Option α) : Raw → Option (Dictionary α)
  | .object members => do
    let pairs ← members.mapM fun member => do
      let name ← member.1
      let value ← read member.2
      pure (name, value)
    pure (Dictionary.ofPairs pairs)
  | _ => none

/-- The name of an alternative without contents: a text, or an object whose only member has that
name and the value null. -/
def alternative? : Raw → Option String
  | .text letters => letters
  | .object [(name, .null)] => name
  | _ => none

/-- The same inside a value that was set aside before, where an empty object stands for null too. -/
def heldAlternative? : Raw → Option String
  | .object [(name, .object [])] => name
  | value => value.alternative?

/-- Whether a value can be set aside: all that it spells stands for something, with `room` for that
many levels of lists and objects. -/
def isReadable (room : Nat) (value : Raw) : Bool :=
  (value.json? room).isSome

/-- An alternative with its fields: an object where one member names the alternative, or a list that
begins with the name. The fields are set aside before the name is looked at; `room` is how many levels
each of them may have. -/
def tagged? (tag : String) (room : Nat) : Raw → Option (String × Raw)
  | .object members =>
    let fields := members.filter fun member => member.1 != some tag
    match members.filter fun member => member.1 == some tag with
    | [(_, .text (some name))] =>
      if fields.all fun member => member.1.isSome && isReadable room member.2 then
        some (name, .object fields)
      else none
    | _ => none
  | .list (.text (some name) :: fields) =>
    if fields.all (isReadable room) then some (name, .list fields) else none
  | _ => none

end Raw

/-- The declared fields of a record, each with what the document gives for it. -/
structure Fields where
  /-- The record is written as a list. -/
  positional : Bool
  values : List (Option Raw)

namespace Fields

/-- What the members say about the declared fields, in declared order. -/
def ofMembers? (names : List String) (members : List (Option String × Raw)) : Option Fields :=
  if members.any fun member => member.1.isNone then none
  else
    let found := names.map fun name => (members.filter fun member => member.1 == some name).map (·.2)
    if found.any fun values => 1 < values.length then none
    else some ⟨false, found.map List.head?⟩

/-- The declared fields of a record. -/
def of? (names : List String) : Raw → Option Fields
  | .object members => ofMembers? names members
  | .list items =>
    if names.length < items.length then none
    else some ⟨true, items.map some ++ List.replicate (names.length - items.length) none⟩
  | _ => none

/-- What stands for the field at a position. -/
def at? (fields : Fields) (position : Nat) : Option Raw :=
  (fields.values[position]?).join

/-- A field that must be there. -/
def required? {α : Type} (fields : Fields) (position : Nat) (read : Raw → Option α) : Option α :=
  (fields.at? position).bind read

/-- A field that has a value when it is left out. -/
def defaulted? {α : Type} (fields : Fields) (position : Nat) (default : α) (read : Raw → Option α) :
    Option α :=
  match fields.at? position with
  | none => some default
  | some value => read value

/-- A field that may be null or, in an object, left out. -/
def nullable? {α : Type} (fields : Fields) (position : Nat) (read : Raw → Option α) :
    Option (Option α) :=
  match fields.at? position with
  | none => if fields.positional then none else some none
  | some value => value.nullable? read

end Fields

end Narrative
