import Narrative.Proofs.Script.Mentions
import Narrative.Script.Parser

/-!
# Names of scripts and names of tokens

A script is put together from its tokens only. Main fact: a name that is no token of a script is
mentioned nowhere in it. Each reader keeps this of what it reads and of the tokens it leaves, if the
readers of the next level do.
-/

namespace Narrative.Script.Parser

set_option autoImplicit false

variable {α β : Type} {name : String}

/-- A result, if there is one, is good. -/
def Gives (good : α → Prop) : Option α → Prop
  | none => True
  | some value => good value

namespace Gives

theorem bind {good : α → Prop} {fine : β → Prop} {first : Option α} {next : α → Option β}
    (start : Gives good first) (later : ∀ value, good value → Gives fine (next value)) :
    Gives fine (first >>= next) := by
  cases first with
  | none => trivial
  | some value => exact later value start

theorem any (result : Option α) : Gives (fun _ => True) result := by
  cases result <;> trivial

theorem mapped {good : α → Prop} {fine : β → Prop} {result : Option α} {change : α → β}
    (start : Gives good result) (later : ∀ value, good value → fine (change value)) :
    Gives fine (result.map change) := by
  cases result with
  | none => trivial
  | some value => exact later value start

theorem imp {good fine : α → Prop} {result : Option α} (start : Gives good result)
    (weaker : ∀ value, good value → fine value) : Gives fine result := by
  cases result with
  | none => trivial
  | some value => exact weaker value start

theorem of_found {good : α → Prop} {result : Option α} {value : α} (gives : Gives good result)
    (found : result = some value) : good value := by
  rw [found] at gives
  exact gives

end Gives

/-- Tokens among which a name is not. -/
def Lacks (name : String) (tokens : List Token) : Prop :=
  .name name ∉ tokens

namespace Lacks

theorem tail {token : Token} {rest : List Token} (lacks : Lacks name (token :: rest)) :
    Lacks name rest :=
  fun member => lacks (List.mem_cons_of_mem token member)

theorem head {other : String} {rest : List Token} (lacks : Lacks name (.name other :: rest)) :
    other ≠ name := by
  rintro rfl
  exact lacks List.mem_cons_self

theorem drop {tokens : List Token} (lacks : Lacks name tokens) (count : Nat) :
    Lacks name (tokens.drop count) :=
  fun member => lacks (List.mem_of_mem_drop member)

end Lacks

/-- What was read is good, and the tokens after it lack a name. -/
def Fine (name : String) (good : α → Prop) (parts : α × List Token) : Prop :=
  good parts.1 ∧ Lacks name parts.2

/-- From tokens that lack a name, a reader reads what is good. -/
def Discreet (name : String) (good : α → Prop) (reader : Reader α) : Prop :=
  ∀ tokens, Lacks name tokens → Gives (Fine name good) (reader tokens)

theorem Gives.read {good : α → Prop} {fine : β → Prop} {first : Option (α × List Token)}
    {next : α × List Token → Option β} (start : Gives (Fine name good) first)
    (later : ∀ value rest, good value → Lacks name rest → Gives fine (next (value, rest))) :
    Gives fine (first >>= next) :=
  start.bind fun parts fine => later parts.1 parts.2 fine.1 fine.2

theorem expect_lacks (letters : String) {tokens : List Token} (lacks : Lacks name tokens) :
    Gives (Lacks name) (expect letters tokens) := by
  unfold expect
  split
  · split
    · exact lacks.tail
    · trivial
  · trivial

theorem name_at_other : Discreet name (· ≠ name) nameAt? := by
  intro tokens lacks
  unfold nameAt?
  split
  · exact ⟨lacks.head, lacks.tail⟩
  · trivial

theorem join_avoids (letters : String) {left right : Expr} (first : left.Avoids name)
    (second : right.Avoids name) : Gives (Expr.Avoids name) (join? letters left right) := by
  unfold join?
  repeat' split
  · trivial
  · exact ⟨first, second⟩
  · exact ⟨first, second⟩
  · exact ⟨first, second⟩
  · exact ⟨second, first, trivial⟩
  · exact ⟨second, first, trivial⟩
  · cases operator? letters with
    | none => trivial
    | some operator => exact ⟨first, second⟩

theorem signed_avoids (sign : Sign) {operand : Expr} (avoids : operand.Avoids name) :
    (signed sign operand).Avoids name := by
  unfold signed
  repeat' split
  all_goals exact avoids

theorem chained_avoids {root : Expr} {steps : List Step} (first : root.Avoids name)
    (second : stepsAvoid name steps) : (chained root steps).Avoids name := by
  unfold chained
  split
  · exact first
  · exact ⟨first, second⟩

theorem assign_avoids (operator : Option Operator) {left value : Expr} (first : left.Avoids name)
    (second : value.Avoids name) : Gives (Stmt.Avoids name) (assign? operator left value) := by
  unfold assign?
  repeat' split
  · exact ⟨first, trivial, second⟩
  · exact ⟨first.1, first.2, second⟩
  · trivial
  · trivial

theorem body_of_avoids {statement : Stmt} (avoids : statement.Avoids name) :
    bodyAvoids name (bodyOf statement) := by
  cases statement with
  | block body => exact avoids
  | _ => exact ⟨avoids, trivial⟩

theorem steps_avoid_append {first second : List Step} (before : stepsAvoid name first)
    (after : stepsAvoid name second) : stepsAvoid name (first ++ second) := by
  induction first with
  | nil => exact after
  | cons step first induction => exact ⟨before.1, induction before.2⟩

theorem items_discreet {expression : Reader Expr} (discreet : Discreet name (Expr.Avoids name) expression)
    (closing : String) (rounds : Nat) :
    Discreet name (itemsAvoid name) (items expression closing rounds) := by
  induction rounds with
  | zero => exact fun _ _ => trivial
  | succ rounds induction =>
      intro tokens lacks
      unfold items
      split
      · exact ⟨trivial, lacks.drop 1⟩
      · apply (discreet tokens lacks).read
        intro first after avoids left
        dsimp only
        split
        · apply (induction _ left.tail).read
          intro others after avoid left
          exact ⟨⟨avoids, avoid⟩, left⟩
        · apply (expect_lacks closing left).bind
          intro after left
          exact ⟨⟨avoids, trivial⟩, left⟩

theorem member_discreet_of_others {expression : Reader Expr}
    (discreet : Discreet name (Expr.Avoids name) expression) {key : String} {taken : List String}
    {rounds : Nat}
    (others : Discreet name (membersAvoid name) (members expression (key :: taken) rounds)) :
    Discreet name (membersAvoid name) (fun tokens =>
      if taken.contains key then none
      else do
        let (value, after) ← expression tokens
        match after with
        | .sign "," :: rest => do
          let (others, after) ← members expression (key :: taken) rounds rest
          some ((key, value) :: others, after)
        | _ => do
          let after ← expect "\x7d" after
          some ([(key, value)], after)) := by
  intro tokens lacks
  dsimp only
  split
  · trivial
  · apply (discreet tokens lacks).read
    intro value after avoids left
    dsimp only
    split
    · apply (others _ left.tail).read
      intro others after avoid left
      exact ⟨⟨avoids, avoid⟩, left⟩
    · apply (expect_lacks "\x7d" left).bind
      intro after left
      exact ⟨⟨avoids, trivial⟩, left⟩

theorem members_discreet {expression : Reader Expr}
    (discreet : Discreet name (Expr.Avoids name) expression) (taken : List String) (rounds : Nat) :
    Discreet name (membersAvoid name) (members expression taken rounds) := by
  induction rounds generalizing taken with
  | zero => exact fun _ _ => trivial
  | succ rounds induction =>
      intro tokens lacks
      unfold members
      split
      · exact ⟨trivial, lacks.tail⟩
      · exact member_discreet_of_others discreet (induction _) _ lacks.tail.tail
      · exact member_discreet_of_others discreet (induction _) _ lacks.tail.tail
      · trivial

theorem sequence_discreet {statement : Reader Stmt}
    (discreet : Discreet name (Stmt.Avoids name) statement) (rounds : Nat) :
    Discreet name (bodyAvoids name) (sequence statement rounds) := by
  induction rounds with
  | zero => exact fun _ _ => trivial
  | succ rounds induction =>
      intro tokens lacks
      unfold sequence
      split
      · exact ⟨trivial, lacks⟩
      · split
        · exact induction _ (lacks.drop 1)
        · apply (discreet tokens lacks).read
          intro first after avoids left
          dsimp only
          split
          · apply (induction after left).read
            intro others after avoid left
            exact ⟨⟨avoids, avoid⟩, left⟩
          · trivial

theorem template_parts_discreet {insertion : Reader (List Stmt)}
    (discreet : Discreet name (bodyAvoids name) insertion) (rounds : Nat) :
    Discreet name (itemsAvoid name) (templateParts insertion rounds) := by
  induction rounds with
  | zero => exact fun _ _ => trivial
  | succ rounds induction =>
      intro tokens lacks
      unfold templateParts
      apply (discreet tokens lacks).read
      intro body after avoid left
      dsimp only
      split
      · exact ⟨⟨avoid, trivial, trivial⟩, left.tail⟩
      · apply (induction _ left.tail).read
        intro others after later left
        exact ⟨⟨avoid, trivial, later⟩, left⟩
      · trivial

/-- The readers of a level keep a name out of what they read. -/
structure Readers.Discreet (name : String) (inner : Readers) : Prop where
  expression : Parser.Discreet name (Expr.Avoids name) inner.expression
  label : Parser.Discreet name (Expr.Avoids name) inner.label
  operand : Parser.Discreet name (Expr.Avoids name) inner.operand
  climb : ∀ level left, left.Avoids name → Parser.Discreet name (Expr.Avoids name) (inner.climb level left)
  primary : Parser.Discreet name (Expr.Avoids name) inner.primary
  group : Parser.Discreet name (Expr.Avoids name) inner.group
  list : Parser.Discreet name (itemsAvoid name) inner.list
  object : Parser.Discreet name (membersAvoid name) inner.object
  insertion : Parser.Discreet name (bodyAvoids name) inner.insertion
  indexes : Parser.Discreet name (stepsAvoid name) inner.indexes
  member : Parser.Discreet name (stepsAvoid name) inner.member
  block : Parser.Discreet name (bodyAvoids name) inner.block
  statement : Parser.Discreet name (Stmt.Avoids name) inner.statement
  worded : Parser.Discreet name (Stmt.Avoids name) inner.worded
  branch : Parser.Discreet name (Stmt.Avoids name) inner.branch
  attempt : Parser.Discreet name (Stmt.Avoids name) inner.attempt
  declaration : ∀ constant, Parser.Discreet name (Stmt.Avoids name) (inner.declaration constant)
  simple : Parser.Discreet name (Stmt.Avoids name) inner.simple
  assigned : Parser.Discreet name (Expr.Avoids name) inner.assigned

/-! ## One level -/

section Level

variable {inner : Readers} (below : inner.Discreet name)

include below

theorem expression_discreet : Discreet name (Expr.Avoids name) (expression inner) := by
  intro tokens lacks
  apply (below.operand tokens lacks).read
  intro left rest avoids lacks
  exact below.climb 1 left avoids rest lacks

theorem label_discreet : Discreet name (Expr.Avoids name) (label inner) := by
  intro tokens lacks
  apply (below.operand tokens lacks).read
  intro left rest avoids lacks
  exact below.climb 31 left avoids rest lacks

theorem arguments_discreet : Discreet name (itemsAvoid name) (arguments? inner) := by
  intro tokens lacks
  unfold arguments?
  split
  · exact ⟨trivial, lacks.tail⟩
  · exact items_discreet below.expression ")" _ _ lacks.tail
  · trivial

theorem guarded_discreet {tokens : List Token} (lacks : Lacks name tokens) :
    Gives (fun parts => parts.1.Avoids name ∧ bodyAvoids name parts.2.1 ∧ Lacks name parts.2.2)
      (guarded inner tokens) := by
  unfold guarded
  split
  · trivial
  · apply (below.expression tokens lacks).read
    intro condition after avoids left
    dsimp only
    split
    · apply (below.block after left).read
      intro body after avoid left
      exact ⟨avoids, avoid, left⟩
    · trivial

theorem branch_discreet : Discreet name (Stmt.Avoids name) (branch inner) := by
  intro tokens lacks
  apply (guarded_discreet below lacks).bind
  rintro ⟨condition, positive, after⟩ ⟨avoids, avoid, left⟩
  dsimp only at avoids avoid left ⊢
  split
  · apply (below.branch _ left.tail.tail).read
    intro nested after inside left
    exact ⟨⟨avoids, avoid, inside, trivial⟩, left⟩
  · apply (below.block _ left.tail).read
    intro negative after other left
    exact ⟨⟨avoids, avoid, other⟩, left⟩
  · exact ⟨⟨avoids, avoid, trivial⟩, left⟩

theorem for_loop_discreet {item : String} {counter : Option String} (apart : item ≠ name)
    (aside : counter ≠ some name) : Discreet name (Stmt.Avoids name) (forLoop inner item counter) := by
  intro tokens lacks
  apply (expect_lacks "in" lacks).bind
  intro rest lacks
  split
  · trivial
  · apply (below.expression rest lacks).read
    intro source after avoids left
    dsimp only
    split
    · trivial
    · apply (below.block after left).read
      intro body after avoid left
      exact ⟨⟨⟨apart, aside⟩, avoids, avoid⟩, left⟩

theorem do_loop_ended (continuing : Bool) {body : List Stmt} (avoid : bodyAvoids name body)
    {tokens : List Token} (lacks : Lacks name tokens) :
    Gives (Fine name (Stmt.Avoids name)) (if isNext "\x7b" tokens then none
      else do
        let (condition, after) ← inner.expression tokens
        if isCondition condition after then some (.doLoop body continuing condition, after)
        else none) := by
  split
  · trivial
  · apply (below.expression tokens lacks).read
    intro condition after avoids left
    dsimp only
    split
    · exact ⟨⟨avoid, avoids⟩, left⟩
    · trivial

theorem do_loop_discreet : Discreet name (Stmt.Avoids name) (doLoop inner) := by
  intro tokens lacks
  apply (below.block tokens lacks).read
  intro body after avoid left
  dsimp only
  split
  · exact do_loop_ended below true avoid left.tail
  · exact do_loop_ended below false avoid left.tail
  · trivial

theorem labels_discreet (rounds : Nat) : Discreet name (fun _ => True) (labels inner rounds) := by
  induction rounds with
  | zero => exact fun _ _ => trivial
  | succ rounds induction =>
      intro tokens lacks
      unfold labels
      apply (below.label tokens lacks).read
      intro value after avoids left
      dsimp only
      apply (Gives.any (label? value)).bind
      intro first _
      split
      · apply (induction _ (left.drop 1)).read
        intro others after _ left
        exact ⟨trivial, left⟩
      · exact ⟨trivial, left⟩

theorem guard_discreet : Discreet name (optionalAvoids name) (guard inner) := by
  intro tokens lacks
  unfold guard
  split
  · apply (below.expression _ (lacks.drop 1)).read
    intro condition after avoids left
    dsimp only
    split
    · exact ⟨avoids, left⟩
    · trivial
  · exact ⟨trivial, lacks⟩

/-- The cases of a selection and what is left to do for all other values. -/
def CasesAvoid (name : String) (parts : List Case × Option (List Stmt)) : Prop :=
  casesAvoid name parts.1 ∧ optionalBodyAvoids name parts.2

omit below in
theorem cases_behind_discreet {found : List Label} {condition : Option Expr} {action : Stmt}
    {ranged : Bool} {rounds : Nat} (guarded : optionalAvoids name condition)
    (avoids : action.Avoids name)
    (others : Discreet name (CasesAvoid name) (cases inner ranged rounds)) :
    Discreet name (CasesAvoid name) (fun tokens => do
      let ((others, otherwise), after) ← cases inner ranged rounds tokens
      some ((.mk found condition (bodyOf action) :: others, otherwise), after)) := by
  intro tokens lacks
  apply (others tokens lacks).read
  intro others after avoid left
  exact ⟨⟨⟨⟨guarded, body_of_avoids avoids⟩, avoid.1⟩, avoid.2⟩, left⟩

theorem cases_discreet (ranged : Bool) (rounds : Nat) :
    Discreet name (CasesAvoid name) (cases inner ranged rounds) := by
  induction rounds generalizing ranged with
  | zero => exact fun _ _ => trivial
  | succ rounds induction =>
      intro tokens lacks
      unfold cases
      split
      · exact ⟨⟨trivial, trivial⟩, lacks.tail⟩
      · apply (below.statement _ lacks.tail.tail).read
        intro action after avoids left
        dsimp only
        split
        · exact ⟨⟨trivial, body_of_avoids avoids⟩, left.tail.tail⟩
        · exact ⟨⟨trivial, body_of_avoids avoids⟩, left.tail⟩
        · trivial
      · apply (labels_discreet below _ tokens lacks).read
        intro found after _ left
        apply (Gives.any (arranged? ranged found)).bind
        intro parts _
        apply (guard_discreet below after left).read
        intro condition after guarded left
        apply (expect_lacks "=>" left).bind
        intro after left
        apply (below.statement after left).read
        intro action after avoids left
        dsimp only
        split
        · exact cases_behind_discreet guarded avoids (induction _) _ left.tail
        · exact cases_behind_discreet guarded avoids (induction _) _ left
        · split
          · exact cases_behind_discreet guarded avoids (induction _) _ left
          · trivial

theorem selection_discreet : Discreet name (Stmt.Avoids name) (selection inner) := by
  intro tokens lacks
  apply (below.expression tokens lacks).read
  intro subject after avoids left
  apply (expect_lacks "\x7b" left).bind
  intro after left
  apply (cases_discreet below false _ after left).read
  intro found after avoid left
  exact ⟨⟨avoids, avoid⟩, left⟩

theorem worded_discreet : Discreet name (Stmt.Avoids name) (worded inner) := by
  intro tokens lacks
  unfold worded
  split
  · exact branch_discreet below _ lacks.tail
  · exact selection_discreet below _ lacks.tail
  · apply (guarded_discreet below lacks.tail).bind
    rintro ⟨condition, body, after⟩ ⟨avoids, avoid, left⟩
    exact ⟨⟨avoids, avoid⟩, left⟩
  · apply (below.block _ lacks.tail).read
    intro body after avoid left
    exact ⟨⟨trivial, avoid⟩, left⟩
  · exact do_loop_discreet below _ lacks.tail
  · have names := lacks.tail.tail
    split
    · trivial
    · exact for_loop_discreet below names.head
        (fun same => names.tail.tail.head (Option.some.inj same)) _ names.tail.tail.tail.tail
  · have aside : (none : Option String) ≠ some name := nofun
    exact for_loop_discreet below lacks.tail.head aside _ lacks.tail.tail
  · trivial

theorem block_discreet : Discreet name (bodyAvoids name) (block inner) := by
  intro tokens lacks
  apply (expect_lacks "\x7b" lacks).bind
  intro rest lacks
  apply (sequence_discreet below.statement _ rest lacks).read
  intro body after avoid left
  apply (expect_lacks "\x7d" left).bind
  intro after left
  exact ⟨avoid, left⟩

theorem insertion_discreet : Discreet name (bodyAvoids name) (insertion inner) :=
  fun tokens lacks => sequence_discreet below.statement _ tokens lacks

theorem group_discreet : Discreet name (Expr.Avoids name) (group inner) := by
  intro tokens lacks
  apply (below.expression tokens lacks).read
  intro value after avoids left
  apply (expect_lacks ")" left).bind
  intro after left
  exact ⟨avoids, left⟩

theorem list_discreet : Discreet name (itemsAvoid name) (list inner) :=
  fun tokens lacks => items_discreet below.expression "]" _ tokens lacks

theorem object_discreet : Discreet name (membersAvoid name) (object inner) :=
  fun tokens lacks => members_discreet below.expression [] _ tokens lacks

theorem root_discreet : Discreet name (Expr.Avoids name) (root inner) := by
  intro tokens lacks
  unfold root
  split
  · exact ⟨trivial, lacks.tail⟩
  · exact ⟨trivial, lacks.tail⟩
  · exact ⟨trivial, lacks.tail⟩
  · exact ⟨trivial, lacks.tail⟩
  · apply (template_parts_discreet below.insertion _ _ lacks.tail).read
    intro parts after avoid left
    exact ⟨⟨trivial, avoid⟩, left⟩
  · split
    · apply (arguments_discreet below _ lacks.tail).read
      intro arguments after avoid left
      exact ⟨avoid, left⟩
    · exact ⟨lacks.head, lacks.tail⟩
  · exact ⟨trivial, lacks.tail⟩
  · exact ⟨trivial, lacks.tail⟩
  · exact ⟨trivial, lacks.tail⟩
  · exact below.group _ lacks.tail
  · apply (below.list _ lacks.tail).read
    intro found after avoid left
    exact ⟨avoid, left⟩
  · apply (below.object _ lacks.tail).read
    intro found after avoid left
    exact ⟨avoid, left⟩
  · apply (below.block _ lacks).read
    intro body after avoid left
    exact ⟨avoid, left⟩
  · split
    · apply (arguments_discreet below _ lacks.tail).read
      intro arguments after avoid left
      exact ⟨avoid, left⟩
    · apply (below.worded _ lacks).read
      intro body after avoids left
      exact ⟨avoids, left⟩
  · trivial

theorem indexes_discreet : Discreet name (stepsAvoid name) (indexes inner) := by
  intro tokens lacks
  apply (below.expression tokens lacks).read
  intro position after avoids left
  apply (expect_lacks "]" left).bind
  intro after left
  split
  · apply (below.indexes _ (left.drop 1)).read
    intro others after avoid left
    exact ⟨⟨avoids, avoid⟩, left⟩
  · exact ⟨⟨avoids, trivial⟩, left⟩

theorem steps_behind_discreet {found : List Step} (along : stepsAvoid name found) :
    Discreet name (stepsAvoid name) (fun tokens =>
      if isNext "." tokens then do
        let (others, after) ← inner.member (tokens.drop 1)
        some (found ++ others, after)
      else some (found, tokens)) := by
  intro tokens lacks
  dsimp only
  split
  · apply (below.member _ (lacks.drop 1)).read
    intro others after avoid left
    exact ⟨steps_avoid_append along avoid, left⟩
  · exact ⟨along, lacks⟩

theorem steps_discreet : Discreet name (stepsAvoid name) (steps inner) := by
  intro tokens lacks
  unfold steps
  split
  · apply (below.indexes _ (lacks.drop 1)).read
    intro found after avoid left
    exact steps_behind_discreet below avoid after left
  · have nothing : stepsAvoid name [] := trivial
    exact steps_behind_discreet below nothing tokens lacks

theorem member_discreet : Discreet name (stepsAvoid name) (member inner) := by
  intro tokens lacks
  apply (name_at_other tokens lacks).read
  intro key rest _ lacks
  dsimp only
  split
  · apply (arguments_discreet below rest lacks).read
    intro arguments after avoid left
    apply (steps_discreet below after left).read
    intro others after later left
    exact ⟨⟨avoid, later⟩, left⟩
  · apply (steps_discreet below rest lacks).read
    intro others after later left
    exact ⟨⟨trivial, later⟩, left⟩

theorem primary_discreet : Discreet name (Expr.Avoids name) (primary inner) := by
  intro tokens lacks
  apply (root_discreet below tokens lacks).read
  intro value rest avoids lacks
  apply (steps_discreet below rest lacks).read
  intro found after along left
  dsimp only
  split
  · trivial
  · exact ⟨chained_avoids avoids along, left⟩

theorem operand_discreet : Discreet name (Expr.Avoids name) (operand inner) := by
  intro tokens lacks
  unfold operand
  split
  · apply (below.operand _ (lacks.drop 1)).read
    intro value after avoids left
    exact ⟨signed_avoids _ avoids, left⟩
  · exact below.primary tokens lacks

theorem climb_discreet (level : Nat) {left : Expr} (avoids : left.Avoids name) :
    Discreet name (Expr.Avoids name) (climb inner level left) := by
  intro tokens lacks
  have following (letters : String) {right : Expr} (second : right.Avoids name) {tokens : List Token}
      (lacks : Lacks name tokens) : Gives (Fine name (Expr.Avoids name)) (do
        let joined ← join? letters left right
        inner.climb level joined tokens) := by
    apply (join_avoids letters avoids second).bind
    intro joined avoids
    exact below.climb level joined avoids tokens lacks
  unfold climb
  dsimp only
  split
  · exact ⟨avoids, lacks⟩
  · split
    · rename_i letters rest _
      apply (operand_discreet below rest lacks.tail).read
      intro first after second left
      dsimp only
      split
      · apply (below.climb _ first second after left).read
        intro right after second left
        exact following letters second left
      · exact following letters second left
    · trivial

theorem declaration_discreet (constant : Bool) :
    Discreet name (Stmt.Avoids name) (declaration inner constant) := by
  intro tokens lacks
  apply (name_at_other tokens lacks).read
  intro other rest apart lacks
  dsimp only
  split
  · apply (below.expression _ (lacks.drop 1)).read
    intro value after avoids left
    exact ⟨⟨apart, avoids⟩, left⟩
  · exact ⟨⟨apart, trivial⟩, lacks⟩

theorem optional_discreet : Discreet name (optionalAvoids name) (optional inner) := by
  intro tokens lacks
  unfold optional
  split
  · exact ⟨trivial, lacks⟩
  · apply (below.expression tokens lacks).read
    intro value after avoids left
    exact ⟨avoids, left⟩

theorem handler_discreet {body : List Stmt} (avoid : bodyAvoids name body) {binder : Option String}
    (apart : binder ≠ some name) : Discreet name (Stmt.Avoids name) (fun tokens => do
      let (handler, after) ← inner.block tokens
      some (.attempt body binder handler, after)) := by
  intro tokens lacks
  apply (below.block tokens lacks).read
  intro handler after later left
  exact ⟨⟨apart, avoid, later⟩, left⟩

theorem attempt_discreet : Discreet name (Stmt.Avoids name) (attempt inner) := by
  intro tokens lacks
  apply (below.block tokens lacks).read
  intro body after avoid left
  apply (expect_lacks "catch" left).bind
  intro after left
  dsimp only
  split
  · have apart := fun same => left.tail.head (Option.some.inj same)
    exact handler_discreet below avoid apart _ left.tail.tail.tail
  · trivial
  · exact handler_discreet below avoid (Option.some_ne_none name).symm _ left

theorem simple_discreet : Discreet name (Stmt.Avoids name) (simple inner) := by
  intro tokens lacks
  apply (below.expression tokens lacks).read
  intro left after avoids lacks
  dsimp only
  split
  · exact ⟨avoids, lacks⟩
  · apply (below.assigned _ (lacks.drop 1)).read
    intro value after second lacks
    apply (assign_avoids _ avoids second).bind
    intro whole avoids
    exact ⟨avoids, lacks⟩

theorem statement_discreet : Discreet name (Stmt.Avoids name) (statement inner) := by
  intro tokens lacks
  unfold statement
  split
  · apply (below.block _ lacks).read
    intro body after avoid left
    exact ⟨avoid, left⟩
  · exact ⟨trivial, lacks.tail⟩
  · apply (optional_discreet below _ lacks.tail).read
    intro value after avoids left
    exact ⟨avoids, left⟩
  · apply (optional_discreet below _ lacks.tail).read
    intro value after avoids left
    exact ⟨avoids, left⟩
  · apply (optional_discreet below _ lacks.tail).read
    intro value after avoids left
    exact ⟨avoids, left⟩
  · exact below.attempt _ lacks.tail
  · exact below.declaration false _ lacks.tail
  · exact below.declaration true _ lacks.tail
  · split
    · exact below.worded _ lacks
    · exact below.simple _ lacks
  · exact below.simple _ lacks

theorem above_discreet : (above inner).Discreet name where
  expression := expression_discreet below
  label := label_discreet below
  operand := operand_discreet below
  climb level _ avoids := climb_discreet below level avoids
  primary := primary_discreet below
  group := group_discreet below
  list := list_discreet below
  object := object_discreet below
  insertion := insertion_discreet below
  indexes := indexes_discreet below
  member := member_discreet below
  block := block_discreet below
  statement := statement_discreet below
  worded := worded_discreet below
  branch := branch_discreet below
  attempt := attempt_discreet below
  declaration := declaration_discreet below
  simple := simple_discreet below
  assigned := below.expression

end Level

/-! ## All levels -/

theorem exhausted_discreet : exhausted.Discreet name := by
  constructor <;> intros <;> exact fun _ _ => trivial

theorem readers_discreet (levels : Nat) : (readers levels).Discreet name := by
  induction levels with
  | zero => exact exhausted_discreet
  | succ levels induction => exact above_discreet induction

theorem parameters_lack (taken : List String) (tokens : List Token) (lacks : Lacks name tokens) :
    Gives (fun parts => Lacks name parts.2) (parameters taken tokens) := by
  fun_induction parameters taken tokens with
  | case1 taken rest => exact lacks.tail
  | case2 taken other rest again => trivial
  | case3 taken other rest fresh induction => exact induction lacks.tail.tail
  | case4 taken other rest again => trivial
  | case5 taken other rest fresh => exact lacks.tail.tail
  | case6 => trivial

theorem parameter_list_lacks {tokens : List Token} (lacks : Lacks name tokens) :
    Gives (fun parts => Lacks name parts.2) (parameterList? tokens) := by
  unfold parameterList?
  split
  · exact lacks.tail
  · exact parameters_lack [] _ lacks.tail
  · trivial

/-- What a function mentions counts for nothing outside. -/
theorem function_lacks {inner : Readers} (below : inner.Discreet name) {tokens : List Token}
    (lacks : Lacks name tokens) : Gives (fun parts => Lacks name parts.2) (function inner tokens) := by
  apply (name_at_other tokens lacks).read
  intro called rest _ lacks
  apply (parameter_list_lacks lacks).bind
  intro parts lacks
  apply (below.block parts.2 lacks).read
  intro body after _ left
  exact left

theorem function_start_lacks {tokens rest : List Token} (lacks : Lacks name tokens)
    (start : functionStart? tokens = some rest) : Lacks name rest := by
  unfold functionStart? at start
  split at start
  · cases start
    exact lacks.tail
  · cases start
    exact lacks.tail.tail
  · cases start

theorem program_avoids (rounds : Nat) {tokens : List Token} (lacks : Lacks name tokens) :
    Gives (fun program => bodyAvoids name program.body) (program rounds tokens) := by
  induction rounds generalizing tokens with
  | zero => trivial
  | succ rounds induction =>
      unfold program
      split
      · trivial
      · exact induction lacks.tail
      · split
        · rename_i rest start
          apply (function_lacks (readers_discreet levelsOfFunction)
            (function_start_lacks lacks start)).bind
          intro parts left
          apply (induction left).bind
          intro others avoid
          split
          · trivial
          · exact avoid
        · apply ((readers_discreet levelsOfScript).statement _ lacks).read
          intro first after avoids left
          dsimp only
          split
          · apply (induction left).bind
            intro others avoid
            exact ⟨avoids, avoid⟩
          · trivial

end Narrative.Script.Parser

namespace Narrative.Script

/-- The names among tokens. -/
def Token.name? : Token → Option String
  | .name letters => some letters
  | _ => none

/-- A name that is no token of a script is mentioned nowhere outside of its functions. -/
theorem program_avoids_foreign {name : String} {tokens : List Token} {program : Program}
    (read : program? tokens = some program) (foreign : name ∉ tokens.filterMap Token.name?) :
    bodyAvoids name program.body := by
  have lacks : Parser.Lacks name tokens := by
    intro member
    exact foreign (List.mem_filterMap.mpr ⟨.name name, member, rfl⟩)
  have avoid := Parser.program_avoids (tokens.length + 1) lacks
  rw [program?] at read
  rwa [read] at avoid

end Narrative.Script
