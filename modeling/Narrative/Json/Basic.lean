import Narrative.Keyed
import Narrative.Number.Layout

/-!
# Documents

`Json` is what a document says; `Raw` is what its text spells, where members may be repeated and
where a number may be out of range or a text may hold half a surrogate pair. `Raw.json?` goes from
the second to the first.
-/

namespace Narrative

set_option autoImplicit false

/-- A document. A whole number written without point and exponent is kept apart from a double. -/
inductive Json where
  | null
  | boolean (flag : Bool)
  | whole (number : Int)
  | real (number : Float)
  | text (letters : String)
  | list (items : List Json)
  | object (members : List (String × Json))

/-- What a document's text spells. A leaf that stands for no value is `none`. -/
inductive Raw where
  | null
  | boolean (flag : Bool)
  | number (value : Option (Int ⊕ Float))
  | text (letters : Option String)
  | list (items : List Raw)
  | object (members : List (Option String × Raw))

namespace Raw

/-- Documents nest at most this many lists and objects. -/
def deepest : Nat := 127

mutual

/-- The document that a raw value says, with `room` for that many levels of lists and objects. Every
leaf has to stand for a value, and of members with one name the last counts. -/
def json? (room : Nat) : Raw → Option Json
  | .null => some .null
  | .boolean flag => some (.boolean flag)
  | .number value => value.map fun number =>
      match number with
      | .inl whole => .whole whole
      | .inr real => .real real
  | .text letters => letters.map .text
  | .list items => if room = 0 then none else (jsonItems? (room - 1) items).map .list
  | .object members =>
    if room = 0 then none
    else (jsonMembers? (room - 1) members).map fun pairs => .object (Keyed.ofPairs pairs)

def jsonItems? (room : Nat) : List Raw → Option (List Json)
  | [] => some []
  | item :: rest => do
    let first ← json? room item
    let others ← jsonItems? room rest
    pure (first :: others)

def jsonMembers? (room : Nat) : List (Option String × Raw) → Option (List (String × Json))
  | [] => some []
  | (name, member) :: rest => do
    let key ← name
    let first ← json? room member
    let others ← jsonMembers? room rest
    pure ((key, first) :: others)

end

end Raw

namespace Json

/-- A text, or null. -/
def nullableText (value : Option String) : Json :=
  match value with
  | some letters => .text letters
  | none => .null

mutual

/-- A document as its text would spell it. -/
def toRaw : Json → Raw
  | .null => .null
  | .boolean flag => .boolean flag
  | .whole number => .number (some (.inl number))
  | .real number => .number (some (.inr number))
  | .text letters => .text (some letters)
  | .list items => .list (itemsToRaw items)
  | .object members => .object (membersToRaw members)

def itemsToRaw : List Json → List Raw
  | [] => []
  | item :: rest => toRaw item :: itemsToRaw rest

def membersToRaw : List (String × Json) → List (Option String × Raw)
  | [] => []
  | (name, member) :: rest => (some name, toRaw member) :: membersToRaw rest

end

end Json

end Narrative
