import Narrative.Proofs.Script.Frames
import Narrative.Script.Reduction

/-!
# Scripts that do not mention a name

A tree avoids a name if the name is no variable, no declaration and no binder anywhere in it. Main
facts: what avoids a name does not write it, and the reduced form of a body avoids every name that the
body avoids.
-/

namespace Narrative.Script

set_option autoImplicit false

mutual

/-- An expression in which a name stands for no variable. -/
def Expr.Avoids (name : String) : Expr → Prop
  | .constant _ => True
  | .variable other => other ≠ name
  | .list items => itemsAvoid name items
  | .object members => membersAvoid name members
  | .template parts => itemsAvoid name parts
  | .unary _ operand => operand.Avoids name
  | .binary _ left right => left.Avoids name ∧ right.Avoids name
  | .both left right => left.Avoids name ∧ right.Avoids name
  | .either left right => left.Avoids name ∧ right.Avoids name
  | .fallback left right => left.Avoids name ∧ right.Avoids name
  | .call _ arguments => itemsAvoid name arguments
  | .chain root steps => root.Avoids name ∧ stepsAvoid name steps
  | .statement body => body.Avoids name

def itemsAvoid (name : String) : List Expr → Prop
  | [] => True
  | item :: rest => item.Avoids name ∧ itemsAvoid name rest

def membersAvoid (name : String) : List (String × Expr) → Prop
  | [] => True
  | (_, value) :: rest => value.Avoids name ∧ membersAvoid name rest

def Step.Avoids (name : String) : Step → Prop
  | .index position => position.Avoids name
  | .property _ => True
  | .method _ arguments => itemsAvoid name arguments

def stepsAvoid (name : String) : List Step → Prop
  | [] => True
  | step :: rest => step.Avoids name ∧ stepsAvoid name rest

/-- A statement in which a name stands for no variable and is not declared. -/
def Stmt.Avoids (name : String) : Stmt → Prop
  | .nothing => True
  | .expression value => value.Avoids name
  | .declare other _ value => other ≠ name ∧ value.Avoids name
  | .assign other steps _ value => other ≠ name ∧ stepsAvoid name steps ∧ value.Avoids name
  | .branch condition positive negative =>
    condition.Avoids name ∧ bodyAvoids name positive ∧ bodyAvoids name negative
  | .select subject cases otherwise =>
    subject.Avoids name ∧ casesAvoid name cases ∧ optionalBodyAvoids name otherwise
  | .whileLoop condition body => optionalAvoids name condition ∧ bodyAvoids name body
  | .doLoop body _ condition => bodyAvoids name body ∧ condition.Avoids name
  | .forLoop item counter source body =>
    (item ≠ name ∧ counter ≠ some name) ∧ source.Avoids name ∧ bodyAvoids name body
  | .block body => bodyAvoids name body
  | .attempt body binder handler =>
    binder ≠ some name ∧ bodyAvoids name body ∧ bodyAvoids name handler
  | .leave value => optionalAvoids name value
  | .next => True
  | .give value => optionalAvoids name value
  | .raise value => optionalAvoids name value

def bodyAvoids (name : String) : List Stmt → Prop
  | [] => True
  | statement :: rest => statement.Avoids name ∧ bodyAvoids name rest

def optionalBodyAvoids (name : String) : Option (List Stmt) → Prop
  | none => True
  | some body => bodyAvoids name body

def optionalAvoids (name : String) : Option Expr → Prop
  | none => True
  | some value => value.Avoids name

def Case.Avoids (name : String) : Case → Prop
  | .mk _ guard action => optionalAvoids name guard ∧ bodyAvoids name action

def casesAvoid (name : String) : List Case → Prop
  | [] => True
  | found :: rest => found.Avoids name ∧ casesAvoid name rest

end

variable {name : String}

/-! ## Writing -/

theorem starts_with_avoided {items : List Expr} (avoid : itemsAvoid name items) :
    startsWith name items = false := by
  cases items with
  | nil => rfl
  | cons item rest =>
      cases item with
      | «variable» other => exact beq_eq_false_iff_ne.mpr avoid.1
      | _ => rfl

mutual

/-- What does not mention a name does not write it. -/
theorem Expr.silent : (expression : Expr) → expression.Avoids name → expression.writes name = false
  | .constant _, _ => rfl
  | .variable _, _ => rfl
  | .list items, avoids => items_silent items avoids
  | .object members, avoids => members_silent members avoids
  | .template parts, avoids => items_silent parts avoids
  | .unary _ operand, avoids => operand.silent avoids
  | .binary _ left right, avoids => by
      rw [Expr.writes, left.silent avoids.1, right.silent avoids.2, Bool.or_false]
  | .both left right, avoids => by
      rw [Expr.writes, left.silent avoids.1, right.silent avoids.2, Bool.or_false]
  | .either left right, avoids => by
      rw [Expr.writes, left.silent avoids.1, right.silent avoids.2, Bool.or_false]
  | .fallback left right, avoids => by
      rw [Expr.writes, left.silent avoids.1, right.silent avoids.2, Bool.or_false]
  | .call _ arguments, avoids => by
      rw [Expr.writes, starts_with_avoided avoids, items_silent arguments avoids, Bool.and_false,
        Bool.or_false]
  | .chain root steps, avoids => by
      have first : startsWith name [root] = false := starts_with_avoided ⟨avoids.1, trivial⟩
      rw [Expr.writes, first, root.silent avoids.1, steps_silent steps avoids.2, Bool.and_false,
        Bool.or_false, Bool.or_false]
  | .statement body, avoids => body.silent avoids

theorem items_silent : (items : List Expr) → itemsAvoid name items → itemsWrite name items = false
  | [], _ => rfl
  | item :: rest, avoid => by
      rw [itemsWrite, item.silent avoid.1, items_silent rest avoid.2, Bool.or_false]

theorem members_silent :
    (members : List (String × Expr)) → membersAvoid name members → membersWrite name members = false
  | [], _ => rfl
  | (_, value) :: rest, avoid => by
      rw [membersWrite, value.silent avoid.1, members_silent rest avoid.2, Bool.or_false]

theorem Step.silent : (step : Step) → step.Avoids name → step.writes name = false
  | .index position, avoids => position.silent avoids
  | .property _, _ => rfl
  | .method _ arguments, avoids => items_silent arguments avoids

theorem steps_silent : (steps : List Step) → stepsAvoid name steps → stepsWrite name steps = false
  | [], _ => rfl
  | step :: rest, avoid => by
      rw [stepsWrite, step.silent avoid.1, steps_silent rest avoid.2, Bool.or_false]

theorem Stmt.silent : (statement : Stmt) → statement.Avoids name → statement.writes name = false
  | .nothing, _ => rfl
  | .expression value, avoids => value.silent avoids
  | .declare _ _ value, avoids => by
      rw [Stmt.writes, beq_eq_false_iff_ne.mpr avoids.1, value.silent avoids.2, Bool.or_false]
  | .assign _ steps _ value, avoids => by
      rw [Stmt.writes, beq_eq_false_iff_ne.mpr avoids.1, steps_silent steps avoids.2.1,
        value.silent avoids.2.2, Bool.or_false, Bool.or_false]
  | .branch condition positive negative, avoids => by
      rw [Stmt.writes, condition.silent avoids.1, body_silent positive avoids.2.1,
        body_silent negative avoids.2.2, Bool.or_false, Bool.or_false]
  | .select subject cases otherwise, avoids => by
      rw [Stmt.writes, subject.silent avoids.1, cases_silent cases avoids.2.1,
        optional_body_silent otherwise avoids.2.2, Bool.or_false, Bool.or_false]
  | .whileLoop condition body, avoids => by
      rw [Stmt.writes, optional_silent condition avoids.1, body_silent body avoids.2, Bool.or_false]
  | .doLoop body _ condition, avoids => by
      rw [Stmt.writes, body_silent body avoids.1, condition.silent avoids.2, Bool.or_false]
  | .forLoop _ _ source body, ⟨⟨other, apart⟩, fromSource, fromBody⟩ => by
      rw [Stmt.writes, beq_eq_false_iff_ne.mpr other, beq_eq_false_iff_ne.mpr apart,
        source.silent fromSource, body_silent body fromBody, Bool.or_false, Bool.or_false, Bool.or_false]
  | .block body, avoids => body_silent body avoids
  | .attempt body _ handler, avoids => by
      rw [Stmt.writes, beq_eq_false_iff_ne.mpr avoids.1, body_silent body avoids.2.1,
        body_silent handler avoids.2.2, Bool.or_false, Bool.or_false]
  | .leave value, avoids => optional_silent value avoids
  | .next, _ => rfl
  | .give value, avoids => optional_silent value avoids
  | .raise value, avoids => optional_silent value avoids

theorem body_silent : (body : List Stmt) → bodyAvoids name body → bodyWrites name body = false
  | [], _ => rfl
  | statement :: rest, avoid => by
      rw [bodyWrites, statement.silent avoid.1, body_silent rest avoid.2, Bool.or_false]

theorem optional_body_silent :
    (body : Option (List Stmt)) → optionalBodyAvoids name body → optionalBodyWrites name body = false
  | none, _ => rfl
  | some body, avoid => body_silent body avoid

theorem optional_silent :
    (value : Option Expr) → optionalAvoids name value → optionalWrites name value = false
  | none, _ => rfl
  | some value, avoids => value.silent avoids

theorem Case.silent : (found : Case) → found.Avoids name → found.writes name = false
  | .mk _ guard action, avoids => by
      rw [Case.writes, optional_silent guard avoids.1, body_silent action avoids.2, Bool.or_false]

theorem cases_silent : (cases : List Case) → casesAvoid name cases → casesWrite name cases = false
  | [], _ => rfl
  | found :: rest, avoid => by
      rw [casesWrite, found.silent avoid.1, cases_silent rest avoid.2, Bool.or_false]

end

/-! ## Reducing -/

theorem items_avoid_iff (items : List Expr) :
    itemsAvoid name items ↔ ∀ item ∈ items, item.Avoids name := by
  induction items with
  | nil => simp [itemsAvoid]
  | cons item rest induction => simp [itemsAvoid, induction]

theorem members_avoid_iff (members : List (String × Expr)) :
    membersAvoid name members ↔ ∀ member ∈ members, member.2.Avoids name := by
  induction members with
  | nil => simp [membersAvoid]
  | cons member rest induction => simp [membersAvoid, induction]

theorem body_avoids_iff (body : List Stmt) :
    bodyAvoids name body ↔ ∀ statement ∈ body, statement.Avoids name := by
  induction body with
  | nil => simp [bodyAvoids]
  | cons statement rest induction => simp [bodyAvoids, induction]

theorem cases_avoid_iff (cases : List Case) :
    casesAvoid name cases ↔ ∀ found ∈ cases, found.Avoids name := by
  induction cases with
  | nil => simp [casesAvoid]
  | cons found rest induction => simp [casesAvoid, induction]

theorem body_avoids_append {first second : List Stmt} (before : bodyAvoids name first)
    (after : bodyAvoids name second) : bodyAvoids name (first ++ second) := by
  rw [body_avoids_iff] at *
  exact fun statement member => (List.mem_append.mp member).elim (before statement) (after statement)

theorem cases_avoid_append {first second : List Case} (before : casesAvoid name first)
    (after : casesAvoid name second) : casesAvoid name (first ++ second) := by
  rw [cases_avoid_iff] at *
  exact fun found member => (List.mem_append.mp member).elim (before found) (after found)

theorem pruned_avoids (kept inner : Bool) {body : List Stmt} (avoid : bodyAvoids name body) :
    bodyAvoids name (pruned kept inner body) := by
  induction body with
  | nil => trivial
  | cons statement rest induction =>
      have others := induction avoid.2
      rw [pruned]
      repeat' split
      · exact others
      · exact others
      · exact ⟨avoid.1, trivial, trivial⟩
      · exact ⟨avoid.1, others⟩

theorem block_of_avoids {body : List Stmt} (avoid : bodyAvoids name body) :
    (blockOf body).Avoids name := by
  unfold blockOf
  repeat' split
  · trivial
  · exact avoid
  · exact avoid.1
  · exact avoid

theorem value_of_avoids {body : List Stmt} (avoid : bodyAvoids name body) :
    (valueOf body).Avoids name := by
  unfold valueOf
  split
  · trivial
  · exact avoid.1
  · exact block_of_avoids avoid

theorem statement_of_avoids {value : Expr} (avoids : value.Avoids name) :
    (statementOf value).Avoids name := by
  unfold statementOf
  split <;> exact avoids

theorem list_of_avoids {items : List Expr} (avoid : itemsAvoid name items) :
    (listOf items).Avoids name := by
  unfold listOf
  split
  · trivial
  · exact avoid

theorem object_of_avoids {members : List (String × Expr)} (avoid : membersAvoid name members) :
    (objectOf members).Avoids name := by
  unfold objectOf
  split
  · trivial
  · exact avoid

theorem template_of_avoids {parts : List Expr} (avoid : itemsAvoid name parts) :
    (templateOf parts).Avoids name := by
  unfold templateOf
  split
  · trivial
  · exact avoid

theorem negation_of_avoids {operand : Expr} (avoids : operand.Avoids name) :
    (negationOf operand).Avoids name := by
  unfold negationOf
  split
  · trivial
  · exact avoids

theorem binary_of_avoids (operator : Operator) {left right : Expr} (first : left.Avoids name)
    (second : right.Avoids name) : (binaryOf operator left right).Avoids name := by
  unfold binaryOf
  repeat' split
  · trivial
  · exact ⟨first, second⟩
  · exact ⟨first, second⟩

theorem both_of_avoids {left right : Expr} (first : left.Avoids name) (second : right.Avoids name) :
    (bothOf left right).Avoids name := by
  unfold bothOf
  split
  · exact second
  · trivial
  · exact first
  · exact ⟨first, second⟩

theorem either_of_avoids {left right : Expr} (first : left.Avoids name) (second : right.Avoids name) :
    (eitherOf left right).Avoids name := by
  unfold eitherOf
  split
  · trivial
  · exact second
  · exact first
  · exact ⟨first, second⟩

theorem fallback_of_avoids {left right : Expr} (first : left.Avoids name) (second : right.Avoids name) :
    (fallbackOf left right).Avoids name := by
  unfold fallbackOf
  split
  · exact second
  · trivial
  · exact ⟨first, second⟩

theorem assignment_of_avoids {other : String} (apart : other ≠ name) {steps : List Step}
    (along : stepsAvoid name steps) (operator : Option Operator) {value : Expr}
    (avoids : value.Avoids name) : (assignmentOf other steps operator value).Avoids name := by
  unfold assignmentOf
  repeat' split
  · exact ⟨apart, trivial, avoids.2⟩
  · exact ⟨apart, along, avoids⟩
  · exact ⟨apart, along, avoids⟩

theorem branch_of_avoids (kept : Bool) {condition : Expr} {positive negative : List Stmt}
    (first : condition.Avoids name) (second : bodyAvoids name positive)
    (third : bodyAvoids name negative) : (branchOf kept condition positive negative).Avoids name := by
  unfold branchOf
  repeat' split
  · trivial
  · exact ⟨statement_of_avoids first, trivial, trivial⟩
  · exact statement_of_avoids first
  · exact block_of_avoids second
  · exact block_of_avoids third
  · exact ⟨first, second, third⟩

theorem while_of_avoids {condition : Expr} {body : List Stmt} (first : condition.Avoids name)
    (second : bodyAvoids name body) : (whileOf condition body).Avoids name := by
  unfold whileOf
  split
  · exact ⟨trivial, second⟩
  · trivial
  · exact ⟨first, second⟩

theorem candidates_avoid (value : Datum) {cases : List Case} (avoid : casesAvoid name cases) :
    casesAvoid name (candidates value cases) := by
  rw [cases_avoid_iff] at *
  intro found member
  unfold candidates at member
  dsimp only at member
  split at member <;> exact avoid found (List.mem_filter.mp member).1

theorem selection_of_avoids {subject : Expr} {cases : List Case} {otherwise : Option (List Stmt)}
    (first : subject.Avoids name) (second : casesAvoid name cases)
    (third : optionalBodyAvoids name otherwise) :
    (selectionOf subject cases otherwise).Avoids name := by
  have rest : bodyAvoids name (otherwise.getD []) := by
    cases otherwise with
    | none => trivial
    | some body => exact third
  unfold selectionOf
  split
  · rename_i value
    have left := candidates_avoid value second
    split
    · exact block_of_avoids rest
    · rename_i labels action later taken
      rw [taken] at left
      exact block_of_avoids left.1.2
    · exact ⟨first, second, third⟩
  · exact ⟨first, second, third⟩

theorem cases_of_avoid (labels : List Label) {guard : Option Expr} {action : List Stmt}
    (first : optionalAvoids name guard) (second : bodyAvoids name action) :
    casesAvoid name (casesOf labels guard action) := by
  unfold casesOf
  split
  · exact ⟨⟨trivial, second⟩, trivial⟩
  · trivial
  · exact ⟨⟨first, second⟩, trivial⟩

theorem item_at_avoids {items : List Expr} {index : Int} {part : Expr} (avoid : itemsAvoid name items)
    (found : itemAt? items index = some part) : part.Avoids name := by
  simp only [itemAt?, Option.ite_none_left_eq_some] at found
  exact (items_avoid_iff items).mp avoid part (List.mem_of_getElem? found.2)

theorem member_at_avoids {members : List (String × Expr)} {key : String} {part : Expr}
    (avoid : membersAvoid name members) (found : memberAt? members key = some part) :
    part.Avoids name := by
  unfold memberAt? at found
  split at found
  · cases here : members.find? fun member => member.1 == key with
    | none =>
        rw [here] at found
        cases found
        trivial
    | some member =>
        rw [here] at found
        cases found
        exact (members_avoid_iff members).mp avoid member (List.mem_of_find?_eq_some here)
  · cases found

theorem character_at_avoids {letters : String} {index : Int} {part : Expr}
    (found : characterAt? letters index = some part) : part.Avoids name := by
  simp only [characterAt?, Option.ite_none_left_eq_some] at found
  obtain ⟨letter, -, rfl⟩ := Option.map_eq_some_iff.mp found.2
  trivial

theorem chain_of_avoids {root : Expr} {steps : List Step} (first : root.Avoids name)
    (second : stepsAvoid name steps) : (chainOf root steps).Avoids name := by
  have chosen (found : Option Expr) (avoids : ∀ part, found = some part → part.Avoids name) :
      (found.getD (.chain root steps)).Avoids name := by
    cases found with
    | none => exact ⟨first, second⟩
    | some part => exact avoids part rfl
  unfold chainOf
  apply chosen
  intro part found
  split at found
  · exact item_at_avoids first found
  · exact member_at_avoids first found
  · exact member_at_avoids first found
  · exact character_at_avoids found
  · cases found

theorem items_avoid_of_literals {items : List Expr} {values : List Datum}
    (found : literals? items = some values) : itemsAvoid name items := by
  induction items generalizing values with
  | nil => trivial
  | cons item rest induction =>
      cases item with
      | constant value =>
          obtain ⟨others, later, -⟩ := Option.map_eq_some_iff.mp found
          exact ⟨trivial, induction later⟩
      | _ => cases found

theorem items_avoid_of_list {items : List Expr} (avoids : (listOf items).Avoids name) :
    itemsAvoid name items := by
  unfold listOf at avoids
  split at avoids
  · rename_i found
    exact items_avoid_of_literals found
  · exact avoids

theorem members_avoid_of_object {members : List (String × Expr)}
    (avoids : (objectOf members).Avoids name) : membersAvoid name members := by
  unfold objectOf at avoids
  split at avoids
  · rename_i found
    have avoid : itemsAvoid name (members.map fun member => member.2) := items_avoid_of_literals found
    rw [items_avoid_iff] at avoid
    exact (members_avoid_iff members).mpr fun member among => avoid member.2 (List.mem_map_of_mem among)
  · exact avoids

/-- Lists and objects from which steps lead on are not made literals. -/
theorem reduced_chain_avoids {known : Constants} {root : Expr} {steps : List Step}
    (whole : root.Avoids name) (first : (root.reduced known).Avoids name)
    (second : stepsAvoid name (reducedSteps known steps)) :
    ((Expr.chain root steps).reduced known).Avoids name := by
  cases root with
  | «variable» other => exact ⟨whole, second⟩
  | list items => exact chain_of_avoids (items_avoid_of_list first) second
  | object members => exact chain_of_avoids (members_avoid_of_object first) second
  | _ => exact chain_of_avoids first second

mutual

/-- Reducing an expression brings in no name. -/
theorem Expr.reduced_avoids (known : Constants) :
    (expression : Expr) → expression.Avoids name → (expression.reduced known).Avoids name
  | .constant _, _ => trivial
  | .variable other, avoids => by
      rw [Expr.reduced]
      split
      · trivial
      · exact avoids
  | .list items, avoids => list_of_avoids (reduced_items_avoid known items avoids)
  | .object members, avoids => object_of_avoids (reduced_members_avoid known members avoids)
  | .template parts, avoids => template_of_avoids (reduced_items_avoid known parts avoids)
  | .unary sign operand, avoids => by
      have reduced := operand.reduced_avoids known avoids
      cases sign with
      | negation => exact negation_of_avoids reduced
      | plus => exact reduced
      | minus => exact reduced
  | .binary operator left right, avoids =>
      binary_of_avoids operator (left.reduced_avoids known avoids.1) (right.reduced_avoids known avoids.2)
  | .both left right, avoids =>
      both_of_avoids (left.reduced_avoids known avoids.1) (right.reduced_avoids known avoids.2)
  | .either left right, avoids =>
      either_of_avoids (left.reduced_avoids known avoids.1) (right.reduced_avoids known avoids.2)
  | .fallback left right, avoids =>
      fallback_of_avoids (left.reduced_avoids known avoids.1) (right.reduced_avoids known avoids.2)
  | .call _ arguments, avoids => reduced_items_avoid known arguments avoids
  | .chain root steps, avoids =>
      reduced_chain_avoids avoids.1 (root.reduced_avoids known avoids.1)
        (reduced_steps_avoid known steps avoids.2)
  | .statement body, avoids =>
      value_of_avoids (pruned_avoids true true (body.reduced_avoids known true avoids))

theorem reduced_items_avoid (known : Constants) :
    (items : List Expr) → itemsAvoid name items → itemsAvoid name (reducedItems known items)
  | [], _ => trivial
  | item :: rest, avoid =>
      ⟨item.reduced_avoids known avoid.1, reduced_items_avoid known rest avoid.2⟩

theorem reduced_members_avoid (known : Constants) :
    (members : List (String × Expr)) → membersAvoid name members →
      membersAvoid name (reducedMembers known members)
  | [], _ => trivial
  | (_, value) :: rest, avoid =>
      ⟨value.reduced_avoids known avoid.1, reduced_members_avoid known rest avoid.2⟩

theorem reduced_steps_avoid (known : Constants) :
    (steps : List Step) → stepsAvoid name steps → stepsAvoid name (reducedSteps known steps)
  | [], _ => trivial
  | .index position :: rest, avoid =>
      ⟨position.reduced_avoids known avoid.1, reduced_steps_avoid known rest avoid.2⟩
  | .property _ :: rest, avoid => ⟨trivial, reduced_steps_avoid known rest avoid.2⟩
  | .method _ arguments :: rest, avoid =>
      ⟨reduced_items_avoid known arguments avoid.1, reduced_steps_avoid known rest avoid.2⟩

theorem reduced_optional_avoids (known : Constants) :
    (value : Option Expr) → optionalAvoids name value → optionalAvoids name (reducedOptional known value)
  | none, _ => trivial
  | some value, avoids => value.reduced_avoids known avoids

theorem Stmt.reduced_avoids (known : Constants) (kept : Bool) :
    (statement : Stmt) → statement.Avoids name → bodyAvoids name (statement.reduced known kept)
  | .nothing, _ => ⟨trivial, trivial⟩
  | .expression value, avoids => ⟨statement_of_avoids (value.reduced_avoids known avoids), trivial⟩
  | .declare _ _ value, avoids => ⟨⟨avoids.1, value.reduced_avoids known avoids.2⟩, trivial⟩
  | .assign _ steps operator value, avoids =>
      ⟨assignment_of_avoids avoids.1 (reduced_steps_avoid known steps avoids.2.1) operator
        (value.reduced_avoids known avoids.2.2), trivial⟩
  | .branch condition positive negative, avoids =>
      ⟨branch_of_avoids kept (condition.reduced_avoids known avoids.1)
        (pruned_avoids kept true (reduced_body_avoids known kept positive avoids.2.1))
        (pruned_avoids kept true (reduced_body_avoids known kept negative avoids.2.2)), trivial⟩
  | .select subject cases otherwise, avoids =>
      ⟨selection_of_avoids (subject.reduced_avoids known avoids.1)
        (reduced_cases_avoid known cases avoids.2.1)
        (reduced_otherwise_avoids known otherwise avoids.2.2), trivial⟩
  | .whileLoop none body, avoids =>
      ⟨⟨trivial, pruned_avoids false true (reduced_body_avoids known false body avoids.2)⟩, trivial⟩
  | .whileLoop (some condition) body, avoids =>
      ⟨while_of_avoids (condition.reduced_avoids known avoids.1)
        (pruned_avoids false true (reduced_body_avoids known false body avoids.2)), trivial⟩
  | .doLoop body _ condition, avoids =>
      ⟨⟨pruned_avoids false true (reduced_body_avoids known false body avoids.1),
        condition.reduced_avoids known avoids.2⟩, trivial⟩
  | .forLoop _ _ source body, avoids =>
      ⟨⟨avoids.1, source.reduced_avoids known avoids.2.1,
        pruned_avoids false true (reduced_body_avoids known false body avoids.2.2)⟩, trivial⟩
  | .block body, avoids => by
      have reduced := reduced_body_avoids known kept body avoids
      rw [Stmt.reduced]
      split
      · exact ⟨block_of_avoids (pruned_avoids kept true reduced), trivial⟩
      · exact reduced
  | .attempt body _ handler, avoids => by
      have tried := pruned_avoids false true (reduced_body_avoids known false body avoids.2.1)
      have handled := pruned_avoids false true (reduced_body_avoids known false handler avoids.2.2)
      rw [Stmt.reduced]
      split
      · exact ⟨trivial, trivial⟩
      · exact ⟨⟨avoids.1, tried, handled⟩, trivial⟩
  | .leave value, avoids => ⟨reduced_optional_avoids known value avoids, trivial⟩
  | .next, _ => ⟨trivial, trivial⟩
  | .give value, avoids => ⟨reduced_optional_avoids known value avoids, trivial⟩
  | .raise value, avoids => ⟨reduced_optional_avoids known value avoids, trivial⟩

theorem reduced_body_avoids (known : Constants) (kept : Bool) :
    (body : List Stmt) → bodyAvoids name body → bodyAvoids name (reducedBody known kept body)
  | [], _ => trivial
  | statement :: rest, avoid => by
      have first := statement.reduced_avoids known kept avoid.1
      have later (known : Constants) := reduced_body_avoids known kept rest avoid.2
      cases statement with
      | declare other constant value => exact ⟨first.1, later _⟩
      | _ => exact body_avoids_append first (later known)

theorem reduced_otherwise_avoids (known : Constants) :
    (body : Option (List Stmt)) → optionalBodyAvoids name body →
      optionalBodyAvoids name (reducedOtherwise known body)
  | none, _ => trivial
  | some body, avoid => pruned_avoids true true (reduced_body_avoids known true body avoid)

theorem reduced_cases_avoid (known : Constants) :
    (cases : List Case) → casesAvoid name cases → casesAvoid name (reducedCases known cases)
  | [], _ => trivial
  | .mk labels guard action :: rest, avoid =>
      cases_avoid_append
        (cases_of_avoid labels (reduced_optional_avoids known guard avoid.1.1)
          (pruned_avoids true true (reduced_body_avoids known true action avoid.1.2)))
        (reduced_cases_avoid known rest avoid.2)

end

/-- The statements that run in a reduced script. -/
theorem Program.reduced_body (program : Program) :
    program.reduced.body = pruned true false (reducedBody [] true program.body) := by
  have statements (body : List Stmt) : Program.body ⟨body.map .statement⟩ = body := by
    induction body with
    | nil => rfl
    | cons statement rest induction => exact congrArg (statement :: ·) induction
  have functions (found : List Function) (items : List Item) :
      Program.body ⟨found.map (fun function => .function function.reduced) ++ items⟩ =
        Program.body ⟨items⟩ := by
    induction found with
    | nil => rfl
    | cons function rest induction => exact induction
  exact (functions program.functions _).trans (statements _)

theorem Program.reduced_silent {program : Program} (avoid : bodyAvoids name program.body) :
    program.reduced.writes name = false := by
  rw [Program.writes, program.reduced_body]
  exact body_silent _ (pruned_avoids true false (reduced_body_avoids [] true program.body avoid))

end Narrative.Script
