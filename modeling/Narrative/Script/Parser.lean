import Narrative.Script.Token
import Narrative.Script.Tree

/-!
# Scripts from tokens

Tokens put together to a script. A reader takes the tokens that are left and gives what it read with
the tokens after it, or nothing if the script is malformed. `readers` has the readers at each level of
nesting: whatever one of them reads by another is one level deeper. A script has 65 levels and a
function has 32 of its own; what nests deeper is malformed.

The script language has more forms than there are readers here. Closures, functions for values of one
kind, calls that see the variables around them, steps that are skipped where there is no value (`?.` and
`?[`), modules and the names in them are left out, and a script with one of them is malformed here.
-/

namespace Narrative.Script

set_option autoImplicit false

namespace Parser

/-- Takes a sign that must be there. -/
def expect (letters : String) : List Token → Option (List Token)
  | .sign found :: rest => if found = letters then some rest else none
  | _ => none

/-- Whether the next token is a sign. -/
def isNext (letters : String) : List Token → Bool
  | .sign found :: _ => found == letters
  | _ => false

/-- Takes a name that must be there. -/
def nameAt? : List Token → Option (String × List Token)
  | .name letters :: rest => some (letters, rest)
  | _ => none

/-- How strongly an operator binds its operands; others than operators bind none. -/
def strength : Token → Nat
  | .sign letters =>
    if letters = "||" || letters = "|" || letters = "^" then 30
    else if letters = "&&" || letters = "&" then 60
    else if letters = "==" || letters = "!=" then 90
    else if letters = "in" || letters = "!in" then 110
    else if letters = "<" || letters = "<=" || letters = ">" || letters = ">=" then 130
    else if letters = "??" then 135
    else if letters = ".." || letters = "..=" then 140
    else if letters = "+" || letters = "-" then 150
    else if letters = "*" || letters = "/" || letters = "%" then 180
    else if letters = "**" then 190
    else if letters = "<<" || letters = ">>" then 210
    else 0
  | _ => 0

/-- How strongly the next token binds. -/
def nextStrength : List Token → Nat
  | token :: _ => strength token
  | [] => 0

/-- Powers group to the right. -/
def groupsRight : List Token → Bool
  | .sign letters :: _ => letters == "**"
  | _ => false

/-- The operator of a sign between two operands. -/
def operator? (letters : String) : Option Operator :=
  if letters = "+" then some .add
  else if letters = "-" then some .subtract
  else if letters = "*" then some .multiply
  else if letters = "/" then some .divide
  else if letters = "%" then some .remainder
  else if letters = "**" then some .power
  else if letters = "<<" then some .shiftLeft
  else if letters = ">>" then some .shiftRight
  else if letters = "&" then some .bitAnd
  else if letters = "|" then some .bitOr
  else if letters = "^" then some .bitXor
  else if letters = "==" then some .equal
  else if letters = "!=" then some .unequal
  else if letters = "<" then some .less
  else if letters = "<=" then some .atMost
  else if letters = ">" then some .greater
  else if letters = ">=" then some .atLeast
  else if letters = ".." then some .upTo
  else if letters = "..=" then some .through
  else none

/-- The operator of a compound assignment; `some none` for the plain one. -/
def assignment? (letters : String) : Option (Option Operator) :=
  if letters = "=" then some none
  else if letters = "+=" then some (some .add)
  else if letters = "-=" then some (some .subtract)
  else if letters = "*=" then some (some .multiply)
  else if letters = "/=" then some (some .divide)
  else if letters = "%=" then some (some .remainder)
  else if letters = "**=" then some (some .power)
  else if letters = "<<=" then some (some .shiftLeft)
  else if letters = ">>=" then some (some .shiftRight)
  else if letters = "&=" then some (some .bitAnd)
  else if letters = "|=" then some (some .bitOr)
  else if letters = "^=" then some (some .bitXor)
  else none

/-- The assignment that the next sign stands for. -/
def assignmentAt? : List Token → Option (Option Operator)
  | .sign letters :: _ => assignment? letters
  | _ => none

/-- An expression of which it is plain that its value is not true or false. -/
def isNotBoolean : Expr → Bool
  | .constant (.boolean _) => false
  | .constant _ => true
  | .list _ => true
  | .object _ => true
  | .template _ => true
  | _ => false

/-- An expression of which it is plain that nothing can be taken from it item by item. -/
def isNotIterable : Expr → Bool
  | .constant (.text _) => false
  | .constant _ => true
  | .object _ => true
  | _ => false

/-- Whether it is plain that a value has no part at an index: a list or text has parts at whole
numbers, and an object at texts. -/
def isNotIndex (root position : Expr) : Bool :=
  let isNumbered := match root with
    | .list _ => true
    | .template _ => true
    | .constant (.text _) => true
    | .constant (.integer _) => true
    | _ => false
  let isNamed := match root with
    | .object _ => true
    | _ => false
  match position with
  | .constant (.integer _) => isNamed
  | .constant (.text _) => isNumbered
  | .template _ => isNumbered
  | .constant _ => isNumbered || isNamed
  | .both _ _ => isNumbered || isNamed
  | .either _ _ => isNumbered || isNamed
  | _ => false

/-- Whether the first step after a value plainly leads nowhere. -/
def misleads (root : Expr) : List Step → Bool
  | .index position :: _ => isNotIndex root position
  | _ => false

/-- Joins two operands with the operator of a sign. Membership is a call that takes the container
first. -/
def join? (letters : String) (left right : Expr) : Option Expr :=
  if letters = "&&" || letters = "||" then
    if isNotBoolean left || isNotBoolean right then none
    else some (if letters = "&&" then .both left right else .either left right)
  else if letters = "??" then some (.fallback left right)
  else if letters = "in" then some (.call "contains" [right, left])
  else if letters = "!in" then some (.unary .negation (.call "contains" [right, left]))
  else (operator? letters).map fun operator => .binary operator left right

/-- A sign before an operand; that of a number is part of it. -/
def signed (sign : Sign) (operand : Expr) : Expr :=
  match sign, operand with
  | .plus, .constant (.integer number) => .constant (.integer number)
  | .plus, .constant (.real number) => .constant (.real number)
  | .minus, .constant (.integer number) =>
    if Token.isInteger (-number) then .constant (.integer (-number))
    else .constant (.real (-Number.ofWhole number))
  | .minus, .constant (.real number) => .constant (.real (-number))
  | _, _ => .unary sign operand

/-- A value with steps after it. -/
def chained (root : Expr) (steps : List Step) : Expr :=
  if steps.isEmpty then root else .chain root steps

/-- Steps that lead to a part of a value. -/
def isPlace (steps : List Step) : Bool :=
  steps.all fun step =>
    match step with
    | .method _ _ => false
    | _ => true

/-- An assignment. What stands on its left has to be a variable or a part of one. -/
def assign? (operator : Option Operator) (left value : Expr) : Option Stmt :=
  match left with
  | .variable name => some (.assign name [] operator value)
  | .chain (.variable name) steps =>
    if isPlace steps then some (.assign name steps operator value) else none
  | _ => none

mutual

/-- The value that an expression has by what it says. -/
def constant? : Expr → Option Datum
  | .constant value => some value
  | .list items => (constants? items).map .list
  | .object members => (memberConstants? members).map fun entries => .object (Keyed.ofPairs entries)
  | .binary .upTo (.constant (.integer low)) (.constant (.integer high)) =>
    some (.range low high false)
  | .binary .through (.constant (.integer low)) (.constant (.integer high)) =>
    some (.range low high true)
  | _ => none

def constants? : List Expr → Option (List Datum)
  | [] => some []
  | item :: rest =>
    match constant? item, constants? rest with
    | some first, some others => some (first :: others)
    | _, _ => none

def memberConstants? : List (String × Expr) → Option (List (String × Datum))
  | [] => some []
  | (name, value) :: rest =>
    match constant? value, memberConstants? rest with
    | some first, some others => some ((name, first) :: others)
    | _, _ => none

end

/-- The value or range that a case is taken for. -/
def label? (expression : Expr) : Option Label :=
  (constant? expression).map fun value =>
    match value with
    | .range low high closed => .range low high closed
    | _ => .value value

/-- The labels of a case, given whether a range went before them. A range without numbers is no label,
and a number must not follow a range. -/
def arranged? (ranged : Bool) : List Label → Option (Bool × List Label)
  | [] => some (ranged, [])
  | .range low high closed :: rest =>
    if high < low || (high = low && !closed) then arranged? ranged rest
    else (arranged? true rest).map fun found => (found.1, .range low high closed :: found.2)
  | .value value :: rest =>
    let isNumber := value.float?.isSome
    if ranged && isNumber then none
    else (arranged? ranged rest).map fun found => (found.1, .value value :: found.2)

/-- Statements after which no semicolon is needed. -/
def endsItself : Stmt → Bool
  | .branch _ _ _ => true
  | .select _ _ _ => true
  | .whileLoop _ _ => true
  | .forLoop _ _ _ _ => true
  | .block _ => true
  | .attempt _ _ _ => true
  | _ => false

/-- The statements of a part of a script. -/
def bodyOf : Stmt → List Stmt
  | .block body => body
  | other => [other]

/-- A condition must not be followed by an assignment, and must not plainly be something else. -/
def isCondition (condition : Expr) (rest : List Token) : Bool :=
  !isNotBoolean condition && (assignmentAt? rest).isNone

/-- What cannot belong to the statements before it: a closing brace, the next part of a text, or the
end. -/
def isEnd : List Token → Bool
  | [] => true
  | .sign "\x7d" :: _ => true
  | .middlePart _ :: _ => true
  | .lastPart _ :: _ => true
  | _ => false

/-- Whether nothing more belongs to a statement here. -/
def isEndOfStatement (tokens : List Token) : Bool :=
  isNext ";" tokens || isEnd tokens

/-- Reads a part of a script from the tokens that are left. -/
abbrev Reader (α : Type) := List Token → Option (α × List Token)

/-- How the parts of a script are read at one level of nesting. -/
structure Readers where
  expression : Reader Expr
  /-- A label of a case. -/
  label : Reader Expr
  /-- An operand with the signs before it. -/
  operand : Reader Expr
  /-- Goes on from a left operand with operators that bind more strongly than some strength. -/
  climb : Nat → Expr → Reader Expr
  /-- An operand without signs before it, with the steps after it. -/
  primary : Reader Expr
  /-- An expression in round brackets after the opening one. -/
  group : Reader Expr
  /-- The items of a list after the opening sign. -/
  list : Reader (List Expr)
  /-- The members of an object after the opening sign. -/
  object : Reader (List (String × Expr))
  /-- The statements of a value that is inserted into a text. -/
  insertion : Reader (List Stmt)
  /-- Indexes one after another, after the first opening sign. -/
  indexes : Reader (List Step)
  /-- A property or a method after the point, and the steps after it. -/
  member : Reader (List Step)
  block : Reader (List Stmt)
  statement : Reader Stmt
  /-- A statement that is a value as well, with its first word. -/
  worded : Reader Stmt
  /-- A branch after its first word. -/
  branch : Reader Stmt
  /-- A failure that is caught, after its first word. -/
  attempt : Reader Stmt
  /-- A declaration after its first word. -/
  declaration : Bool → Reader Stmt
  /-- An expression by itself or on the left of an assignment. -/
  simple : Reader Stmt
  /-- What is assigned, after the sign. -/
  assigned : Reader Expr

/-- Expressions with commas between them up to a closing sign; a comma may stand before it. Each round
takes a token, so the number of tokens bounds the rounds. -/
def items (expression : Reader Expr) (closing : String) : Nat → Reader (List Expr)
  | 0, _ => none
  | rounds + 1, tokens =>
    if isNext closing tokens then some ([], tokens.drop 1)
    else do
      let (first, after) ← expression tokens
      match after with
      | .sign "," :: rest => do
        let (others, after) ← items expression closing rounds rest
        some (first :: others, after)
      | _ => do
        let after ← expect closing after
        some ([first], after)

/-- The members of an object, each name once. -/
def members (expression : Reader Expr) (taken : List String) :
    Nat → Reader (List (String × Expr))
  | 0, _ => none
  | rounds + 1, tokens =>
    let member := fun (name : String) (tokens : List Token) =>
      if taken.contains name then none
      else do
        let (value, after) ← expression tokens
        match after with
        | .sign "," :: rest => do
          let (others, after) ← members expression (name :: taken) rounds rest
          some ((name, value) :: others, after)
        | _ => do
          let after ← expect "\x7d" after
          some ([(name, value)], after)
    match tokens with
    | .sign "\x7d" :: rest => some ([], rest)
    | .name name :: .sign ":" :: rest => member name rest
    | .text name :: .sign ":" :: rest => member name rest
    | _ => none

/-- Statements up to what cannot belong to them. A statement that does not end itself is ended by a
semicolon, unless it is the last one. -/
def sequence (statement : Reader Stmt) : Nat → Reader (List Stmt)
  | 0, _ => none
  | rounds + 1, tokens =>
    if isEnd tokens then some ([], tokens)
    else if isNext ";" tokens then sequence statement rounds (tokens.drop 1)
    else do
      let (first, after) ← statement tokens
      if isEndOfStatement after || endsItself first then do
        let (others, after) ← sequence statement rounds after
        some (first :: others, after)
      else none

/-- The inserted values of a text and the parts after them. -/
def templateParts (insertion : Reader (List Stmt)) : Nat → Reader (List Expr)
  | 0, _ => none
  | rounds + 1, tokens => do
    let (body, after) ← insertion tokens
    match after with
    | .lastPart letters :: rest =>
      some ([.statement (.block body), .constant (.text letters)], rest)
    | .middlePart letters :: rest => do
      let (others, after) ← templateParts insertion rounds rest
      some (.statement (.block body) :: .constant (.text letters) :: others, after)
    | _ => none

/-- An expression that begins here; `inner` has the readers of the next level, as everywhere below. -/
def expression (inner : Readers) : Reader Expr := fun tokens => do
  let (left, rest) ← inner.operand tokens
  inner.climb 1 left rest

/-- A label of a case. Operators that bind no more than a bar do not belong to it. -/
def label (inner : Readers) : Reader Expr := fun tokens => do
  let (left, rest) ← inner.operand tokens
  inner.climb 31 left rest

/-- The arguments of a call, whose opening sign may be one with the closing one. -/
def arguments? (inner : Readers) : List Token → Option (List Expr × List Token)
  | .sign "()" :: rest => some ([], rest)
  | .sign "(" :: rest => items inner.expression ")" (rest.length + 1) rest
  | _ => none

/-- Whether a call begins here. -/
def isCall (tokens : List Token) : Bool :=
  isNext "(" tokens || isNext "()" tokens

/-- A condition and the block after it. -/
def guarded (inner : Readers) (tokens : List Token) : Option (Expr × List Stmt × List Token) :=
  if isNext "\x7b" tokens then none
  else do
    let (condition, after) ← inner.expression tokens
    if isCondition condition after then do
      let (body, after) ← inner.block after
      some (condition, body, after)
    else none

/-- A branch after its first word. -/
def branch (inner : Readers) : Reader Stmt := fun tokens => do
  let (condition, positive, after) ← guarded inner tokens
  match after with
  | .sign "else" :: .sign "if" :: rest => do
    let (nested, after) ← inner.branch rest
    some (.branch condition positive [nested], after)
  | .sign "else" :: rest => do
    let (negative, after) ← inner.block rest
    some (.branch condition positive negative, after)
  | _ => some (.branch condition positive [], after)

/-- A loop over items after its names. -/
def forLoop (inner : Readers) (name : String) (counter : Option String) : Reader Stmt := fun tokens => do
  let rest ← expect "in" tokens
  if isNext "\x7b" rest then none
  else do
    let (source, after) ← inner.expression rest
    if isNotIterable source then none
    else do
      let (body, after) ← inner.block after
      some (.forLoop name counter source body, after)

/-- A loop with its condition at the end, after its first word. -/
def doLoop (inner : Readers) : Reader Stmt := fun tokens => do
  let (body, after) ← inner.block tokens
  let (continuing, after) ←
    match after with
    | .sign "while" :: rest => some (true, rest)
    | .sign "until" :: rest => some (false, rest)
    | _ => none
  if isNext "\x7b" after then none
  else do
    let (condition, after) ← inner.expression after
    if isCondition condition after then some (.doLoop body continuing condition, after) else none

/-- The labels of a case, with bars between them. -/
def labels (inner : Readers) : Nat → Reader (List Label)
  | 0, _ => none
  | rounds + 1, tokens => do
    let (value, after) ← inner.label tokens
    let first ← label? value
    if isNext "|" after then do
      let (others, after) ← labels inner rounds (after.drop 1)
      some (first :: others, after)
    else some ([first], after)

/-- The condition of a case, if it has one. -/
def guard (inner : Readers) : Reader (Option Expr) := fun tokens =>
  if isNext "if" tokens then do
    let (condition, after) ← inner.expression (tokens.drop 1)
    if isCondition condition after then some (some condition, after) else none
  else some (none, tokens)

/-- The cases of a selection up to its closing brace, and the last case for all other values; `ranged`
tells whether a range was among the labels. -/
def cases (inner : Readers) (ranged : Bool) : Nat → Reader (List Case × Option (List Stmt))
  | 0, _ => none
  | rounds + 1, tokens =>
    match tokens with
    | .sign "\x7d" :: rest => some (([], none), rest)
    | .sign "_" :: .sign "=>" :: rest => do
      let (action, after) ← inner.statement rest
      match after with
      | .sign "," :: .sign "\x7d" :: rest => some (([], some (bodyOf action)), rest)
      | .sign "\x7d" :: rest => some (([], some (bodyOf action)), rest)
      | _ => none
    | _ => do
      let (found, after) ← labels inner (tokens.length + 1) tokens
      let (ranged, found) ← arranged? ranged found
      let (condition, after) ← guard inner after
      let after ← expect "=>" after
      let (action, after) ← inner.statement after
      let after ←
        match after with
        | .sign "," :: rest => some rest
        | .sign "\x7d" :: _ => some after
        | _ => if endsItself action then some after else none
      let ((others, otherwise), after) ← cases inner ranged rounds after
      some ((.mk found condition (bodyOf action) :: others, otherwise), after)

/-- A selection after its first word. -/
def selection (inner : Readers) : Reader Stmt := fun tokens => do
  let (subject, after) ← inner.expression tokens
  let after ← expect "\x7b" after
  let ((found, otherwise), after) ← cases inner false (after.length + 1) after
  some (.select subject found otherwise, after)

/-- Statements that are values as well, and begin with a word of their own. -/
def worded (inner : Readers) : List Token → Option (Stmt × List Token)
  | .sign "if" :: rest => branch inner rest
  | .sign "switch" :: rest => selection inner rest
  | .sign "while" :: rest => do
    let (condition, body, after) ← guarded inner rest
    some (.whileLoop (some condition) body, after)
  | .sign "loop" :: rest => do
    let (body, after) ← inner.block rest
    some (.whileLoop none body, after)
  | .sign "do" :: rest => doLoop inner rest
  | .sign "for" :: .sign "(" :: .name name :: .sign "," :: .name counter :: .sign ")" :: rest =>
    if counter = name then none else forLoop inner name (some counter) rest
  | .sign "for" :: .name name :: rest => forLoop inner name none rest
  | _ => none

/-- Statements between braces. -/
def block (inner : Readers) : Reader (List Stmt) := fun tokens => do
  let rest ← expect "\x7b" tokens
  let (body, after) ← sequence inner.statement (rest.length + 1) rest
  let after ← expect "\x7d" after
  some (body, after)

/-- The statements of an inserted value. -/
def insertion (inner : Readers) : Reader (List Stmt) := fun tokens =>
  sequence inner.statement (tokens.length + 1) tokens

/-- An expression in round brackets after the opening one. -/
def group (inner : Readers) : Reader Expr := fun tokens => do
  let (value, after) ← inner.expression tokens
  let after ← expect ")" after
  some (value, after)

/-- The items of a list after the opening sign. -/
def list (inner : Readers) : Reader (List Expr) := fun tokens =>
  items inner.expression "]" (tokens.length + 1) tokens

/-- The members of an object after the opening sign. -/
def object (inner : Readers) : Reader (List (String × Expr)) := fun tokens =>
  members inner.expression [] (tokens.length + 1) tokens

/-- A value without operators around it and without steps after it. -/
def root (inner : Readers) (tokens : List Token) : Option (Expr × List Token) :=
  match tokens with
  | .integer number :: rest => some (.constant (.integer number), rest)
  | .real number :: rest => some (.constant (.real number), rest)
  | .character letter :: rest => some (.constant (.character letter), rest)
  | .text letters :: rest => some (.constant (.text letters), rest)
  | .firstPart letters :: rest => do
    let (parts, after) ← templateParts inner.insertion (rest.length + 1) rest
    some (.template (.constant (.text letters) :: parts), after)
  | .name letters :: rest =>
    if isCall rest then do
      let (arguments, after) ← arguments? inner rest
      some (.call letters arguments, after)
    else some (.variable letters, rest)
  | .sign "true" :: rest => some (.constant (.boolean true), rest)
  | .sign "false" :: rest => some (.constant (.boolean false), rest)
  | .sign "()" :: rest => some (.constant .unit, rest)
  | .sign "(" :: rest => inner.group rest
  | .sign "[" :: rest => do
    let (found, after) ← inner.list rest
    some (.list found, after)
  | .sign "#\x7b" :: rest => do
    let (found, after) ← inner.object rest
    some (.object found, after)
  | .sign "\x7b" :: _ => do
    let (body, after) ← inner.block tokens
    some (.statement (.block body), after)
  | .sign word :: rest =>
    if Token.callable.contains word then do
      let (arguments, after) ← arguments? inner rest
      some (.call word arguments, after)
    else do
      let (body, after) ← inner.worded tokens
      some (.statement body, after)
  | _ => none

/-- Indexes one after another, after the first opening sign. -/
def indexes (inner : Readers) : Reader (List Step) := fun tokens => do
  let (position, after) ← inner.expression tokens
  let after ← expect "]" after
  if isNext "[" after then do
    let (others, after) ← inner.indexes (after.drop 1)
    some (.index position :: others, after)
  else some ([.index position], after)

/-- The indexes, properties and methods after a value. -/
def steps (inner : Readers) (tokens : List Token) : Option (List Step × List Token) := do
  let (found, after) ← if isNext "[" tokens then inner.indexes (tokens.drop 1) else some ([], tokens)
  if isNext "." after then do
    let (others, after) ← inner.member (after.drop 1)
    some (found ++ others, after)
  else some (found, after)

/-- A property or a method after the point, and the steps after it. -/
def member (inner : Readers) : Reader (List Step) := fun tokens => do
  let (name, rest) ← nameAt? tokens
  if isCall rest then do
    let (arguments, after) ← arguments? inner rest
    let (others, after) ← steps inner after
    some (.method name arguments :: others, after)
  else do
    let (others, after) ← steps inner rest
    some (.property name :: others, after)

/-- A value without operators around it, with the steps after it. -/
def primary (inner : Readers) : Reader Expr := fun tokens => do
  let (value, rest) ← root inner tokens
  let (found, after) ← steps inner rest
  if misleads value found then none else some (chained value found, after)

/-- The sign that stands before an operand. -/
def sign? : List Token → Option Sign
  | .sign "-" :: _ => some .minus
  | .sign "+" :: _ => some .plus
  | .sign "!" :: _ => some .negation
  | _ => none

/-- An operand with the signs before it. -/
def operand (inner : Readers) : Reader Expr := fun tokens =>
  match sign? tokens with
  | some sign => do
    let (value, after) ← inner.operand (tokens.drop 1)
    some (signed sign value, after)
  | none => inner.primary tokens

/-- Goes on with operators that bind more strongly than `level`, or as strongly if they group to the
right. -/
def climb (inner : Readers) (level : Nat) (left : Expr) (tokens : List Token) :
    Option (Expr × List Token) :=
  let current := nextStrength tokens
  if current < level || (current == level && !groupsRight tokens) then some (left, tokens)
  else match tokens with
    | .sign letters :: rest => do
      let (first, afterFirst) ← operand inner rest
      let following := nextStrength afterFirst
      let (right, afterRight) ←
        if current < following || (current == following && letters == "**") then
          inner.climb current first afterFirst
        else some (first, afterFirst)
      let joined ← join? letters left right
      inner.climb level joined afterRight
    | _ => none

/-- A declaration after its first word; without a value the variable has none. -/
def declaration (inner : Readers) (constant : Bool) : Reader Stmt := fun tokens => do
  let (name, rest) ← nameAt? tokens
  if isNext "=" rest then do
    let (value, after) ← inner.expression (rest.drop 1)
    some (.declare name constant value, after)
  else some (.declare name constant (.constant .unit), rest)

/-- An expression, unless the statement or the case that it belongs to ends here. -/
def optional (inner : Readers) : Reader (Option Expr) := fun tokens =>
  if isEndOfStatement tokens || isNext "," tokens then some (none, tokens)
  else do
    let (value, after) ← inner.expression tokens
    some (some value, after)

/-- A failure that is caught, after its first word. -/
def attempt (inner : Readers) : Reader Stmt := fun tokens => do
  let (body, after) ← inner.block tokens
  let after ← expect "catch" after
  let (binder, after) ←
    match after with
    | .sign "(" :: .name name :: .sign ")" :: rest => some (some name, rest)
    | .sign "(" :: _ => none
    | _ => some (none, after)
  let (handler, after) ← inner.block after
  some (.attempt body binder handler, after)

/-- What is assigned, after the sign. -/
def assigned (inner : Readers) : Reader Expr := fun tokens =>
  inner.expression tokens

/-- An expression by itself or on the left of an assignment. -/
def simple (inner : Readers) : Reader Stmt := fun tokens => do
  let (left, after) ← inner.expression tokens
  match assignmentAt? after with
  | none => some (.expression left, after)
  | some operator => do
    let (value, after) ← inner.assigned (after.drop 1)
    let whole ← assign? operator left value
    some (whole, after)

/-- One statement. -/
def statement (inner : Readers) (tokens : List Token) : Option (Stmt × List Token) :=
  match tokens with
  | .sign "\x7b" :: _ => do
    let (body, after) ← inner.block tokens
    some (.block body, after)
  | .sign "continue" :: rest => some (.next, rest)
  | .sign "break" :: rest => do
    let (value, after) ← optional inner rest
    some (.leave value, after)
  | .sign "return" :: rest => do
    let (value, after) ← optional inner rest
    some (.give value, after)
  | .sign "throw" :: rest => do
    let (value, after) ← optional inner rest
    some (.raise value, after)
  | .sign "try" :: rest => inner.attempt rest
  | .sign "let" :: rest => inner.declaration false rest
  | .sign "const" :: rest => inner.declaration true rest
  | .sign word :: _ =>
    if ["if", "switch", "while", "loop", "do", "for"].contains word then inner.worded tokens
    else inner.simple tokens
  | _ => inner.simple tokens

/-- The readers above other ones. -/
def above (inner : Readers) : Readers :=
  { expression := expression inner
    label := label inner
    operand := operand inner
    climb := climb inner
    primary := primary inner
    group := group inner
    list := list inner
    object := object inner
    insertion := insertion inner
    indexes := indexes inner
    member := member inner
    block := block inner
    statement := statement inner
    worded := worded inner
    branch := branch inner
    attempt := attempt inner
    declaration := declaration inner
    simple := simple inner
    assigned := assigned inner }

/-- Readers that can read nothing. -/
def exhausted : Readers :=
  { expression := fun _ => none
    label := fun _ => none
    operand := fun _ => none
    climb := fun _ _ _ => none
    primary := fun _ => none
    group := fun _ => none
    list := fun _ => none
    object := fun _ => none
    insertion := fun _ => none
    indexes := fun _ => none
    member := fun _ => none
    block := fun _ => none
    statement := fun _ => none
    worded := fun _ => none
    branch := fun _ => none
    attempt := fun _ => none
    declaration := fun _ _ => none
    simple := fun _ => none
    assigned := fun _ => none }

/-- The readers where that many levels of nesting are left. -/
def readers : Nat → Readers
  | 0 => exhausted
  | levels + 1 => above (readers levels)

/-- How many levels of nesting a script has, its statements being the first one. -/
def levelsOfScript : Nat := 65

/-- How many levels of nesting a function has, its block being the first one. -/
def levelsOfFunction : Nat := 32

/-- The names of parameters up to the closing sign, each once. -/
def parameters (taken : List String) : List Token → Option (List String × List Token)
  | .sign ")" :: rest => some (taken.reverse, rest)
  | .name name :: .sign "," :: rest =>
    if taken.contains name then none else parameters (name :: taken) rest
  | .name name :: .sign ")" :: rest =>
    if taken.contains name then none else some ((name :: taken).reverse, rest)
  | _ => none

/-- The parameters of a function with the signs around them. -/
def parameterList? : List Token → Option (List String × List Token)
  | .sign "()" :: rest => some ([], rest)
  | .sign "(" :: rest => parameters [] rest
  | _ => none

/-- A function after its first word. -/
def function (inner : Readers) : Reader Function := fun tokens => do
  let (name, rest) ← nameAt? tokens
  let (names, rest) ← parameterList? rest
  let (body, after) ← inner.block rest
  some (⟨name, names, body⟩, after)

/-- Whether a function has the name and the number of parameters of another. -/
def clashes (function : Function) (others : List Function) : Bool :=
  others.any fun other =>
    other.name == function.name && other.parameters.length == function.parameters.length

/-- The tokens after the words that begin a function. -/
def functionStart? : List Token → Option (List Token)
  | .sign "fn" :: rest => some rest
  | .sign "private" :: .sign "fn" :: rest => some rest
  | _ => none

/-- The functions and statements of a script. Each round takes a token, so the number of tokens bounds
the rounds. -/
def program : Nat → List Token → Option Program
  | 0, _ => none
  | rounds + 1, tokens =>
    match tokens with
    | [] => some ⟨[]⟩
    | .sign ";" :: rest => program rounds rest
    | _ =>
      match functionStart? tokens with
      | some rest => do
        let (found, after) ← function (readers levelsOfFunction) rest
        let others ← program rounds after
        if clashes found others.functions then none else some ⟨.function found :: others.items⟩
      | none => do
        let (first, after) ← (readers levelsOfScript).statement tokens
        if after.isEmpty || isNext ";" after || endsItself first then do
          let others ← program rounds after
          some ⟨.statement first :: others.items⟩
        else none

end Parser

/-- The script that tokens form. -/
def program? (tokens : List Token) : Option Program :=
  Parser.program (tokens.length + 1) tokens

end Narrative.Script
