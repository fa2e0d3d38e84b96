import Narrative.Script.Arithmetic

/-!
# Methods, indexes and properties

What can be read from a value, written into it and done with it: items of lists by index, entries of
objects by name, characters of texts by index, and the functions that scripts may call. A negative
index counts from the end. The bits of whole numbers and the parts of texts by ranges, which the script
language has as well, are left out.
-/

namespace Narrative.Script.Datum

set_option autoImplicit false

/-- The position that an index names in a list of some length. -/
def position? (length : Nat) (index : Int) : Option Nat :=
  let place := if index < 0 then Int.ofNat length + index else index
  if place < 0 || Int.ofNat length ≤ place then none else some place.natAbs

/-- The position before which an item is inserted, which is at most the length. -/
def insertionPosition (length : Nat) (index : Int) : Nat :=
  if index < 0 then length - Nat.min length index.natAbs else Nat.min length index.natAbs

/-- An element by index or an entry by name; a missing entry is the unit. -/
def at? (container index : Datum) : Option Datum :=
  match container, index with
  | .list items, .integer number => (position? items.length number).bind fun place => items[place]?
  | .object entries, .text name => some ((Keyed.find? name entries).getD .unit)
  | .text letters, .integer number =>
    let found := letters.toList
    (position? found.length number).bind fun place => found[place]?.map .character
  | _, _ => none

/-- A text with a character written. The index counts from the beginning even if it is negative, and
beyond the end nothing is written. -/
def writtenAt (letters : List Char) (index : Int) (letter : Char) : List Char :=
  letters.set index.natAbs letter

/-- A container with an element or entry written; an object takes new names. -/
def with? (container index item : Datum) : Option Datum :=
  match container, index with
  | .list items, .integer number =>
    (position? items.length number).map fun place => .list (items.set place item)
  | .object entries, .text name => some (.object (Keyed.insert name item entries))
  | .text letters, .integer number =>
    match item with
    | .character letter =>
      (position? letters.length number).map fun _ =>
        .text (String.ofList (writtenAt letters.toList number letter))
    | _ => none
  | _, _ => none

/-- Whether an element or entry is there to be changed in its place. -/
def hasPlace (container index : Datum) : Bool :=
  match container, index with
  | .list items, .integer number => (position? items.length number).isSome
  | .object entries, .text name => (Keyed.find? name entries).isSome
  | _, _ => false

/-- How many elements, entries or characters there are. -/
def length? : Datum → Option Nat
  | .list items => some items.length
  | .object entries => some entries.length
  | .text letters => some letters.length
  | _ => none

/-- Whether there is nothing in a container. -/
def isEmpty? : Datum → Option Bool
  | .range low high closed => some (high < low || (high = low && !closed))
  | container => container.length?.map fun count => count == 0

/-- A property: an entry of an object, or the length of a list or text. -/
def property? (container : Datum) (name : String) : Option Datum :=
  match container with
  | .object entries => some ((Keyed.find? name entries).getD .unit)
  | _ =>
    if name = "len" then container.length?.map fun count => .integer (Int.ofNat count)
    else if name = "is_empty" then container.isEmpty?.map .boolean
    else none

/-- What a function gives, and what becomes of its first argument. -/
structure Effect where
  target : Datum
  result : Datum

/-- A function that leaves its first argument as it is. -/
def pureEffect (target : Datum) (result : Option Datum) : Option Effect :=
  result.map fun found => ⟨target, found⟩

/-- Functions of lists that change them. -/
def listEffect? (name : String) (items : List Datum) (arguments : List Datum) : Option Effect :=
  match arguments with
  | [] =>
    if name = "pop" then
      match items.getLast? with
      | some last => some ⟨.list items.dropLast, last⟩
      | none => some ⟨.list [], .unit⟩
    else if name = "shift" then
      match items with
      | first :: rest => some ⟨.list rest, first⟩
      | [] => some ⟨.list [], .unit⟩
    else if name = "clear" then some ⟨.list [], .unit⟩
    else if name = "reverse" then some ⟨.list items.reverse, .unit⟩
    else none
  | [item] =>
    if name = "push" then some ⟨.list (items ++ [item]), .unit⟩
    else match item with
      | .integer number =>
        if name = "remove" then
          match position? items.length number with
          | some place => some ⟨.list (items.eraseIdx place), items.getD place .unit⟩
          | none => some ⟨.list items, .unit⟩
        else if name = "truncate" then
          some ⟨.list (if number ≤ 0 then [] else items.take number.natAbs), .unit⟩
        else none
      | _ => none
  | [.integer number, item] =>
    if name = "insert" then
      let place := insertionPosition items.length number
      some ⟨.list (items.take place ++ item :: items.drop place), .unit⟩
    else none
  | _ => none

/-- Functions of objects that change them. -/
def objectEffect? (name : String) (entries : List (String × Datum)) (arguments : List Datum) :
    Option Effect :=
  match arguments with
  | [] => if name = "clear" then some ⟨.object [], .unit⟩ else none
  | [.text key] =>
    if name = "remove" then
      some ⟨.object (Keyed.erase key entries), (Keyed.find? key entries).getD .unit⟩
    else none
  | _ => none

/-- Functions of texts that change them. -/
def textEffect? (name : String) (letters : List Char) (arguments : List Datum) : Option Effect :=
  let left := fun (found : List Char) (result : Datum) =>
    some (Effect.mk (.text (String.ofList found)) result)
  match arguments with
  | [] =>
    if name = "clear" then left [] .unit
    else if name = "pop" then left letters.dropLast ((letters.getLast?.map Datum.character).getD .unit)
    else none
  | [.integer number] =>
    let rest := letters.length - number.toNat
    if name = "pop" then left (letters.take rest) (.text (String.ofList (letters.drop rest)))
    else if name = "truncate" then left (letters.take number.toNat) .unit
    else none
  | [.text part] => if name = "remove" then left (without part.toList letters) .unit else none
  | [.character part] => if name = "remove" then left (without [part] letters) .unit else none
  | _ => none

/-- Functions of lists, objects and texts that may change them. -/
def changingEffect? (name : String) (target : Datum) (arguments : List Datum) : Option Effect :=
  match target with
  | .list items => listEffect? name items arguments
  | .object entries => objectEffect? name entries arguments
  | .text letters => textEffect? name letters.toList arguments
  | _ => none

/-- Functions that change what they are called on. -/
def changing : List String :=
  ["push", "pop", "insert", "remove", "shift", "clear", "truncate", "reverse"]

/-- The greater or the less of two doubles: the first of equal ones, and the second if they have no
order. -/
def realExtreme (greater : Bool) (left right : Float) : Float :=
  if greater then (if decide (right ≤ left) then left else right)
  else if decide (left ≤ right) then left else right

/-- The greater or the less of two values of one kind; with a double on either side it is a double. -/
def extreme? (greater : Bool) (left right : Datum) : Option Datum :=
  match left, right with
  | .integer first, .integer second =>
    some (.integer (if decide (second ≤ first) == greater then first else second))
  | .character first, .character second =>
    some (.character (if decide (second ≤ first) == greater then first else second))
  | .text first, .text second =>
    some (.text (if !nameBefore first second == greater then first else second))
  | _, _ =>
    match left.float?, right.float? with
    | some first, some second => some (.real (realExtreme greater first second))
    | _, _ => none

/-- What a function that every script has does with its arguments, of which there is at least one. The
script language has a library of more functions, on texts, numbers, lists, objects and times, and lists
take functions as arguments there. They are left out here: a call of one of them fails. -/
def call? (name : String) (target : Datum) (arguments : List Datum) : Option Effect :=
  if changing.contains name then changingEffect? name target arguments
  else match arguments with
    | [] =>
      if name = "print" || name = "debug" then some ⟨target, .unit⟩
      else if name = "len" then
        pureEffect target (target.length?.map fun count => .integer (Int.ofNat count))
      else if name = "is_empty" then
        pureEffect target (target.isEmpty?.map .boolean)
      else none
    | [item] =>
      if name = "contains" then pureEffect target ((contains? target item).map .boolean)
      else if name = "max" then pureEffect target (extreme? true target item)
      else if name = "min" then pureEffect target (extreme? false target item)
      else none
    | _ => none

end Narrative.Script.Datum
