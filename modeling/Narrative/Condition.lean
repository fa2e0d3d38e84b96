import Narrative.Variable

/-!
# Conditions

A branch condition compares two operands with one operator. Operators inside quotes do not count. An
operand that names a variable stands for its value; any other text is a literal of the kind of the
variable on the other side.
-/

namespace Narrative

set_option autoImplicit false

/-- How two values are compared. -/
inductive Comparison where
  | equal
  | unequal
  | greater
  | less
  | atLeast
  | atMost
  deriving DecidableEq, Repr

namespace Condition

/-- The longest operator that a text begins with, and the text after it. -/
def operatorAt? : List Char → Option (Comparison × List Char)
  | '=' :: '=' :: '=' :: rest => some (.equal, rest)
  | '!' :: '=' :: '=' :: rest => some (.unequal, rest)
  | '=' :: '=' :: rest => some (.equal, rest)
  | '!' :: '=' :: rest => some (.unequal, rest)
  | '>' :: '=' :: rest => some (.atLeast, rest)
  | '<' :: '=' :: rest => some (.atMost, rest)
  | '>' :: rest => some (.greater, rest)
  | '<' :: rest => some (.less, rest)
  | _ => none

/-- The quote that is open after a letter: a mark opens one, and the same mark closes it. -/
def quoteAfter (open? : Option Char) (letter : Char) : Option Char :=
  match open? with
  | some mark => if letter = mark then none else some mark
  | none => if Text.isMark letter then some letter else none

/-- A text cut at its first operator outside quotes. -/
structure Cut where
  left : List Char
  comparison : Comparison
  right : List Char
  deriving DecidableEq, Repr

/-- The first operator outside quotes, given the quote that is open. -/
def firstOperator? (open? : Option Char) : List Char → Option Cut
  | [] => none
  | letter :: rest =>
    match (if open?.isNone then operatorAt? (letter :: rest) else none) with
    | some (comparison, after) => some ⟨[], comparison, after⟩
    | none => (firstOperator? (quoteAfter open? letter) rest).map fun cut =>
        { cut with left := letter :: cut.left }

/-- No operator stands outside quotes, and no quote is open at the end. -/
def isOperand (open? : Option Char) : List Char → Bool
  | [] => open?.isNone
  | letter :: rest =>
    if open?.isNone && (operatorAt? (letter :: rest)).isSome then false
    else isOperand (quoteAfter open? letter) rest

/-- The operands without blanks around them and the operator of a text that has exactly one, all
quotes closed and neither operand blank. -/
def split? (text : List Char) : Option Cut :=
  match firstOperator? none text with
  | none => none
  | some cut =>
    let left := Text.trim cut.left
    let right := Text.trim cut.right
    if isOperand none cut.right && !left.isEmpty && !right.isEmpty then
      some ⟨left, cut.comparison, right⟩
    else none

/-- The value of one operand when the other is a variable's. -/
def literalFor (known : Variable) (letters : List Char) : Stored :=
  known.value.coerceLiteral letters

/-- The values of the two operands, of which one has to name a variable. -/
def operands? (store : Store) (left right : List Char) : Option (Stored × Stored) :=
  match store.find? (String.ofList left), store.find? (String.ofList right) with
  | some first, some second => some (first.value, second.value)
  | some first, none => some (first.value, literalFor first right)
  | none, some second => some (literalFor second left, second.value)
  | none, none => none

/-- A number that is not a number. -/
def isNan : Value → Bool
  | .number amount => amount.isNaN
  | _ => false

/-- Compares two values as numbers; not-a-number is in no order. -/
def ordered (compare : Float → Float → Bool) (left right : Value) : Bool :=
  if left.toNumber.isNaN || right.toNumber.isNaN then false
  else compare left.toNumber right.toNumber

end Condition

/-- Whether a comparison holds. Nothing holds of a number that is not a number. -/
def Comparison.holds (comparison : Comparison) (left right : Value) : Bool :=
  if Condition.isNan left || Condition.isNan right then false
  else match comparison with
    | .equal => Value.equal left right
    | .unequal => !Value.equal left right
    | .greater => Condition.ordered (fun first second => decide (second < first)) left right
    | .less => Condition.ordered (fun first second => decide (first < second)) left right
    | .atLeast => Condition.ordered (fun first second => decide (second ≤ first)) left right
    | .atMost => Condition.ordered (fun first second => decide (first ≤ second)) left right

/-- Whether a condition holds in a store. A blank condition and the word for truth always do; a text
that is no comparison, or that names no variable, never does. -/
def Condition.holds (store : Store) (condition : List Char) : Bool :=
  let text := Text.trim condition
  if text.isEmpty || String.ofList text == "true" then true
  else match Condition.split? text with
    | none => false
    | some cut =>
      match Condition.operands? store cut.left cut.right with
      | none => false
      | some (left, right) => cut.comparison.holds left.toValue right.toValue

end Narrative
