import Narrative.Proofs.Script.Sparing

/-!
# What a script leaves alone

A script writes a name where it declares it, assigns to it, or calls a function that changes it in its
place. Functions have variables of their own, so what they write counts for nothing outside. Main
fact: statements that write a name nowhere spare it, whatever they read and however they end.
-/

namespace Narrative.Script

set_option autoImplicit false

def Step.mayChange : Step → Bool
  | .method name _ => Datum.changing.contains name
  | _ => false

/-- Whether a variable stands first. -/
def startsWith (name : String) : List Expr → Bool
  | .variable other :: _ => other == name
  | _ => false

mutual

/-- Whether an expression declares a name or changes what it stands for. -/
def Expr.writes (name : String) : Expr → Bool
  | .constant _ => false
  | .variable _ => false
  | .list items => itemsWrite name items
  | .object members => membersWrite name members
  | .template parts => itemsWrite name parts
  | .unary _ operand => operand.writes name
  | .binary _ left right => left.writes name || right.writes name
  | .both left right => left.writes name || right.writes name
  | .either left right => left.writes name || right.writes name
  | .fallback left right => left.writes name || right.writes name
  | .call called arguments =>
    (Datum.changing.contains called && startsWith name arguments) || itemsWrite name arguments
  | .chain root steps =>
    (steps.any Step.mayChange && startsWith name [root]) || root.writes name || stepsWrite name steps
  | .statement body => body.writes name

def itemsWrite (name : String) : List Expr → Bool
  | [] => false
  | item :: rest => item.writes name || itemsWrite name rest

def membersWrite (name : String) : List (String × Expr) → Bool
  | [] => false
  | (_, value) :: rest => value.writes name || membersWrite name rest

def Step.writes (name : String) : Step → Bool
  | .index position => position.writes name
  | .property _ => false
  | .method _ arguments => itemsWrite name arguments

def stepsWrite (name : String) : List Step → Bool
  | [] => false
  | step :: rest => step.writes name || stepsWrite name rest

/-- Whether a statement declares a name or changes what it stands for. -/
def Stmt.writes (name : String) : Stmt → Bool
  | .nothing => false
  | .expression value => value.writes name
  | .declare other _ value => other == name || value.writes name
  | .assign other steps _ value => other == name || stepsWrite name steps || value.writes name
  | .branch condition positive negative =>
    condition.writes name || bodyWrites name positive || bodyWrites name negative
  | .select subject cases otherwise =>
    subject.writes name || casesWrite name cases || optionalBodyWrites name otherwise
  | .whileLoop condition body => optionalWrites name condition || bodyWrites name body
  | .doLoop body _ condition => bodyWrites name body || condition.writes name
  | .forLoop item counter source body =>
    item == name || counter == some name || source.writes name || bodyWrites name body
  | .block body => bodyWrites name body
  | .attempt body binder handler =>
    binder == some name || bodyWrites name body || bodyWrites name handler
  | .leave value => optionalWrites name value
  | .next => false
  | .give value => optionalWrites name value
  | .raise value => optionalWrites name value

def bodyWrites (name : String) : List Stmt → Bool
  | [] => false
  | statement :: rest => statement.writes name || bodyWrites name rest

def optionalBodyWrites (name : String) : Option (List Stmt) → Bool
  | none => false
  | some body => bodyWrites name body

def optionalWrites (name : String) : Option Expr → Bool
  | none => false
  | some value => value.writes name

def Case.writes (name : String) : Case → Bool
  | .mk _ guard action => optionalWrites name guard || bodyWrites name action

def casesWrite (name : String) : List Case → Bool
  | [] => false
  | found :: rest => found.writes name || casesWrite name rest

end

/-- Whether a script writes a name outside of its functions. -/
def Program.writes (name : String) (program : Program) : Bool :=
  bodyWrites name program.body

variable {name : String}

theorem members_write_values (members : List (String × Expr)) :
    itemsWrite name (members.map fun member => member.2) = membersWrite name members := by
  induction members with
  | nil => rfl
  | cons member rest induction => rw [List.map_cons, itemsWrite, membersWrite, induction]

theorem cases_write_eq_any (cases : List Case) :
    casesWrite name cases = cases.any (Case.writes name) := by
  induction cases with
  | nil => rfl
  | cons found rest induction => rw [casesWrite, List.any_cons, induction]

theorem candidates_silent (value : Datum) {cases : List Case}
    (silent : casesWrite name cases = false) : casesWrite name (candidates value cases) = false := by
  rw [cases_write_eq_any, List.any_eq_false] at silent ⊢
  intro found member
  apply silent
  unfold candidates at member
  dsimp only at member
  split at member <;> exact (List.mem_filter.mp member).1

/-- The moves of a chain call the methods that its steps name. -/
theorem may_change_of_steps {depth : Nat} {world : World} {steps : List Step} {moves : List Move}
    (yields : (evaluateSteps depth world steps).Yields moves) :
    Move.mayChange moves = steps.any Step.mayChange := by
  induction depth generalizing steps moves with
  | zero =>
      obtain ⟨before, after, done⟩ := yields
      simp [evaluateSteps, Action.stop] at done
  | succ depth induction =>
      cases steps with
      | nil =>
          rw [evaluateSteps] at yields
          rw [Action.yields_pure yields]
          rfl
      | cons step rest =>
          cases step with
          | index position =>
              rw [evaluateSteps] at yields
              obtain ⟨value, -, yields⟩ := Action.yields_bind yields
              obtain ⟨others, later, yields⟩ := Action.yields_bind yields
              rw [Action.yields_pure yields, List.any_cons, ← induction later]
              rfl
          | property entry =>
              rw [evaluateSteps] at yields
              obtain ⟨others, later, yields⟩ := Action.yields_bind yields
              rw [Action.yields_pure yields, List.any_cons, ← induction later]
              rfl
          | method called arguments =>
              rw [evaluateSteps] at yields
              obtain ⟨values, -, yields⟩ := Action.yields_bind yields
              obtain ⟨others, later, yields⟩ := Action.yields_bind yields
              rw [Action.yields_pure yields, List.any_cons, ← induction later]
              rfl

theorem call_spares (depth : Nat) (world : World) (function : Function) (values : List Datum) :
    (call depth world function values).Spares name := by
  cases depth with
  | zero => exact .stop _
  | succ depth =>
      rw [call]
      apply (Action.Spares.tick world.limits).bind
      intro _
      split
      · exact .stop _
      · exact .apart _ _

theorem apply_spares (depth : Nat) (world : World) (called : String) (arguments : List Datum)
    (value : Datum) : (apply depth world called arguments value).Spares name := by
  cases depth with
  | zero => exact .stop _
  | succ depth =>
      rw [apply]
      split
      · exact .pure _
      · exact (call_spares depth world _ arguments).attempted.bind fun found => .pure _
      · split
        · exact .pure _
        · exact (Action.Spares.allow _ _).bind fun target =>
            (Action.Spares.allow _ _).bind fun result => .pure _

theorem follow_spares (depth : Nat) (world : World) (moves : List Move) (value : Datum) :
    (follow depth world moves value).Spares name := by
  induction depth generalizing moves value with
  | zero => exact .stop _
  | succ depth induction =>
      cases moves with
      | nil => exact .pure _
      | cons move rest =>
          cases move with
          | index position =>
              rw [follow]
              apply (Action.Spares.tick world.limits).bind
              intro _
              split
              · exact .pure _
              · exact (induction rest _).bind fun passage => .pure _
          | property entry =>
              rw [follow]
              apply (Action.Spares.tick world.limits).bind
              intro _
              split
              · exact .pure _
              · exact (induction rest _).bind fun passage => .pure _
          | method called arguments =>
              rw [follow]
              apply (Action.Spares.tick world.limits).bind
              intro _
              apply (apply_spares depth world called arguments value).bind
              intro passage
              split
              · exact .pure _
              · exact (induction rest _).bind fun later => .pure _

theorem keep_spares (world : World) {arguments : List Expr} (changed : Datum)
    (silent : startsWith name arguments = false) : (keep world arguments changed).Spares name := by
  unfold keep
  split
  · rename_i other rest
    have apart : other ≠ name := by simpa [startsWith] using silent
    apply (lookup_spares world other).bind
    intro meaning
    cases meaning with
    | function held => exact .pure _
    | stored binding =>
        dsimp only
        split
        · exact .pure _
        · exact .store apart changed
  · exact .pure _

/-- Everything that runs with a bound on its depth spares a name that it writes nowhere. -/
structure Silent (name : String) (depth : Nat) : Prop where
  evaluate : ∀ world expression, expression.writes name = false →
    (evaluate depth world expression).Spares name
  evaluateAll : ∀ world expressions, itemsWrite name expressions = false →
    (evaluateAll depth world expressions).Spares name
  evaluateArguments : ∀ world arguments, itemsWrite name arguments = false →
    (evaluateArguments depth world arguments).Spares name
  evaluateSteps : ∀ world steps, stepsWrite name steps = false →
    (evaluateSteps depth world steps).Spares name
  callNamed : ∀ world called arguments, (Expr.call called arguments).writes name = false →
    (callNamed depth world called arguments).Spares name
  execute : ∀ world statement, statement.writes name = false →
    (execute depth world statement).Spares name
  evaluateOptional : ∀ world expression, optionalWrites name expression = false →
    (evaluateOptional depth world expression).Spares name
  executeAll : ∀ world statements, bodyWrites name statements = false →
    (executeAll depth world statements).Spares name
  select : ∀ world cases otherwise, casesWrite name cases = false → bodyWrites name otherwise = false →
    (select depth world cases otherwise).Spares name
  repeatWhile : ∀ world condition body, optionalWrites name condition = false →
    bodyWrites name body = false → (repeatWhile depth world condition body).Spares name
  repeatDo : ∀ world body continuing condition, bodyWrites name body = false →
    condition.writes name = false → (repeatDo depth world body continuing condition).Spares name
  repeatOver : ∀ world item counter passed items body, item ≠ name → counter ≠ some name →
    bodyWrites name body = false →
    (repeatOver depth world item counter passed items body).Spares name

namespace Silent

variable {depth : Nat}

theorem evaluate_next (below : Silent name depth) (world : World) (expression : Expr)
    (silent : expression.writes name = false) :
    (Script.evaluate (depth + 1) world expression).Spares name := by
  unfold Script.evaluate
  apply (Action.Spares.tick world.limits).bind
  intro _
  cases expression with
  | constant value => exact .allow _ _
  | «variable» other => exact (lookup_spares world other).bind fun meaning => .pure _
  | list items => exact (below.evaluateAll world items silent).bind fun values => .allow _ _
  | object members =>
      rw [Expr.writes, ← members_write_values] at silent
      exact (below.evaluateAll world _ silent).bind fun values => .allow _ _
  | template parts => exact (below.evaluateAll world parts silent).bind fun values => .allow _ _
  | unary sign operand =>
      exact (below.evaluate world operand silent).bind fun value =>
        (Action.Spares.tick world.limits).bind fun _ => .ofOption _
  | binary operator left right =>
      simp only [Expr.writes, Bool.or_eq_false_iff] at silent
      have operands : itemsWrite name [left, right] = false := by simp [itemsWrite, silent]
      apply (below.evaluateArguments world [left, right] operands).bind
      intro values
      apply (Action.Spares.tick world.limits).bind
      intro _
      split
      · exact (Action.Spares.ofOption _).bind fun result => .allow _ _
      · exact .fail
  | both left right =>
      simp only [Expr.writes, Bool.or_eq_false_iff] at silent
      apply (below.evaluate world left silent.1).bind
      intro first
      apply (truth_spares first).bind
      intro holds
      cases holds with
      | false => exact .pure _
      | true =>
          exact (below.evaluate world right silent.2).bind fun second =>
            (truth_spares second).bind fun flag => .pure _
  | either left right =>
      simp only [Expr.writes, Bool.or_eq_false_iff] at silent
      apply (below.evaluate world left silent.1).bind
      intro first
      apply (truth_spares first).bind
      intro holds
      cases holds with
      | true => exact .pure _
      | false =>
          exact (below.evaluate world right silent.2).bind fun second =>
            (truth_spares second).bind fun flag => .pure _
  | fallback left right =>
      simp only [Expr.writes, Bool.or_eq_false_iff] at silent
      apply (below.evaluate world left silent.1).bind
      intro first
      split
      · exact below.evaluate world right silent.2
      · exact .pure _
  | call called arguments => exact below.callNamed world called arguments silent
  | chain root steps =>
      simp only [Expr.writes, Bool.or_eq_false_iff] at silent
      obtain ⟨⟨unchanged, rooted⟩, stepped⟩ := silent
      -- The variable is written only after moves that may change it, and these are as the steps are.
      apply (below.evaluateSteps world steps stepped).bind_of
      intro moves yields
      rw [← may_change_of_steps yields] at unchanged
      split
      · rename_i other
        apply (lookup_spares world other).bind
        intro meaning
        cases meaning with
        | function held => exact (follow_spares _ _ _ _).bind fun passage => .ofExcept _
        | stored binding =>
            dsimp only
            split
            · exact .fail
            · apply (follow_spares _ _ _ _).bind
              intro passage
              split
              · rename_i changes
                have apart : other ≠ name := by simpa [changes, startsWith] using unchanged
                exact (Action.Spares.store apart _).bind fun _ => .ofExcept _
              · exact .ofExcept _
      · exact (below.evaluate world root rooted).bind fun value =>
          (follow_spares _ _ _ _).bind fun passage => .ofExcept _
  | statement body => exact below.execute world body silent

theorem evaluate_all_next (below : Silent name depth) (world : World) (expressions : List Expr)
    (silent : itemsWrite name expressions = false) :
    (Script.evaluateAll (depth + 1) world expressions).Spares name := by
  cases expressions with
  | nil => exact .pure _
  | cons first rest =>
      simp only [itemsWrite, Bool.or_eq_false_iff] at silent
      rw [Script.evaluateAll]
      exact (below.evaluate world first silent.1).bind fun value =>
        (below.evaluateAll world rest silent.2).bind fun others => .pure _

theorem evaluate_arguments_next (below : Silent name depth) (world : World) (arguments : List Expr)
    (silent : itemsWrite name arguments = false) :
    (Script.evaluateArguments (depth + 1) world arguments).Spares name := by
  unfold Script.evaluateArguments
  split
  · rename_i other rest
    simp only [itemsWrite, Bool.or_eq_false_iff] at silent
    exact (below.evaluateAll world rest silent.2).bind fun others =>
      (lookup_spares world other).bind fun meaning => .pure _
  · exact below.evaluateAll world arguments silent

theorem evaluate_steps_next (below : Silent name depth) (world : World) (steps : List Step)
    (silent : stepsWrite name steps = false) :
    (Script.evaluateSteps (depth + 1) world steps).Spares name := by
  cases steps with
  | nil => exact .pure _
  | cons step rest =>
      simp only [stepsWrite, Bool.or_eq_false_iff] at silent
      cases step with
      | index position =>
          rw [Script.evaluateSteps]
          exact (below.evaluate world position silent.1).bind fun value =>
            (below.evaluateSteps world rest silent.2).bind fun others => .pure _
      | property entry =>
          rw [Script.evaluateSteps]
          exact (below.evaluateSteps world rest silent.2).bind fun others => .pure _
      | method called arguments =>
          rw [Script.evaluateSteps]
          exact (below.evaluateAll world arguments silent.1).bind fun values =>
            (below.evaluateSteps world rest silent.2).bind fun others => .pure _

theorem call_named_next (below : Silent name depth) (world : World) (called : String)
    (arguments : List Expr) (silent : (Expr.call called arguments).writes name = false) :
    (Script.callNamed (depth + 1) world called arguments).Spares name := by
  simp only [Expr.writes, Bool.or_eq_false_iff] at silent
  obtain ⟨unchanged, read⟩ := silent
  rw [Script.callNamed]
  apply (below.evaluateArguments world arguments read).bind
  intro values
  split
  · exact call_spares depth world _ values
  · apply (Action.Spares.tick world.limits).bind
    intro _
    split
    · exact call_empty_spares called
    · split
      · exact .stop _
      · apply (Action.Spares.ofOption _).bind
        intro effect
        apply (Action.Spares.allow world.limits effect.target).bind
        intro changed
        split
        · rename_i changes
          have elsewhere : startsWith name arguments = false := by
            simpa only [changes, Bool.true_and] using unchanged
          exact (keep_spares world changed elsewhere).bind fun _ => .allow _ _
        · exact .allow _ _

theorem execute_next (below : Silent name depth) (world : World) (statement : Stmt)
    (silent : statement.writes name = false) :
    (Script.execute (depth + 1) world statement).Spares name := by
  unfold Script.execute
  apply (Action.Spares.tick world.limits).bind
  intro _
  cases statement with
  | nothing => exact .pure _
  | expression value => exact below.evaluate world value silent
  | declare other constant value =>
      simp only [Stmt.writes, Bool.or_eq_false_iff, beq_eq_false_iff_ne] at silent
      exact (below.evaluate world value silent.2).bind fun found =>
        (Action.Spares.declare silent.1 found constant).bind fun _ => .pure _
  | assign other steps operator value =>
      simp only [Stmt.writes, Bool.or_eq_false_iff, beq_eq_false_iff_ne] at silent
      obtain ⟨⟨apart, stepped⟩, read⟩ := silent
      apply (below.evaluate world value read).bind
      intro written
      apply (below.evaluateSteps world steps stepped).bind
      intro moves
      apply (Action.Spares.tick world.limits).bind
      intro _
      apply (lookup_spares world other).bind
      intro meaning
      cases meaning with
      | function held => exact .fail
      | stored binding =>
          dsimp only
          split
          · exact .fail
          · apply Action.Spares.bind
            · apply change_spares
              intro current
              cases operator with
              | none => exact .pure _
              | some operator =>
                  exact (Action.Spares.tick world.limits).bind fun _ =>
                    (Action.Spares.ofOption _).bind fun result => .allow _ _
            · intro passage
              exact (Action.Spares.store apart _).bind fun _ =>
                (Action.Spares.ofExcept _).bind fun _ => .pure _
  | branch condition positive negative =>
      simp only [Stmt.writes, Bool.or_eq_false_iff] at silent
      obtain ⟨⟨judged, taken⟩, left⟩ := silent
      apply (below.evaluate world condition judged).bind
      intro value
      apply (truth_spares value).bind
      intro holds
      cases holds with
      | true => exact (below.executeAll world positive taken).enclosed
      | false => exact (below.executeAll world negative left).enclosed
  | select subject cases otherwise =>
      simp only [Stmt.writes, Bool.or_eq_false_iff] at silent
      obtain ⟨⟨read, chosen⟩, left⟩ := silent
      apply (below.evaluate world subject read).bind
      intro value
      apply below.select world _ _ (candidates_silent value chosen)
      cases otherwise with
      | none => rfl
      | some body => exact left
  | whileLoop condition body =>
      simp only [Stmt.writes, Bool.or_eq_false_iff] at silent
      exact below.repeatWhile world condition body silent.1 silent.2
  | doLoop body continuing condition =>
      simp only [Stmt.writes, Bool.or_eq_false_iff] at silent
      exact below.repeatDo world body continuing condition silent.1 silent.2
  | forLoop item counter source body =>
      simp only [Stmt.writes, Bool.or_eq_false_iff, beq_eq_false_iff_ne] at silent
      obtain ⟨⟨⟨apart, uncounted⟩, read⟩, repeated⟩ := silent
      exact (below.evaluate world source read).bind fun value =>
        (Action.Spares.ofOption _).bind fun items =>
          below.repeatOver world item counter 0 items body apart uncounted repeated
  | block body => exact (below.executeAll world body silent).enclosed
  | attempt body binder handler =>
      simp only [Stmt.writes, Bool.or_eq_false_iff, beq_eq_false_iff_ne] at silent
      obtain ⟨⟨unbound, tried⟩, handled⟩ := silent
      apply Action.Spares.catching (below.executeAll world body tried).enclosed
      intro thrown
      apply Action.Spares.enclosed
      cases binder with
      | none => exact below.executeAll world handler handled
      | some other =>
          have apart : other ≠ name := by simpa using unbound
          exact (Action.Spares.declare apart thrown false).bind fun _ =>
            below.executeAll world handler handled
  | leave value =>
      exact (below.evaluateOptional world value silent).bind fun found => .stop _
  | next => exact .stop _
  | give value =>
      exact (below.evaluateOptional world value silent).bind fun found => .stop _
  | raise value =>
      exact (below.evaluateOptional world value silent).bind fun found => .stop _

theorem evaluate_optional_next (below : Silent name depth) (world : World) (expression : Option Expr)
    (silent : optionalWrites name expression = false) :
    (Script.evaluateOptional (depth + 1) world expression).Spares name := by
  cases expression with
  | none => exact .pure _
  | some value => exact below.evaluate world value silent

theorem execute_all_next (below : Silent name depth) (world : World) (statements : List Stmt)
    (silent : bodyWrites name statements = false) :
    (Script.executeAll (depth + 1) world statements).Spares name := by
  unfold Script.executeAll
  split
  · exact .pure _
  · simp only [bodyWrites, Bool.or_eq_false_iff] at silent
    exact below.execute world _ silent.1
  · simp only [bodyWrites, Bool.or_eq_false_iff] at silent
    exact (below.execute world _ silent.1).bind fun value => below.executeAll world _ silent.2

theorem select_next (below : Silent name depth) (world : World) (cases : List Case)
    (otherwise : List Stmt) (silent : casesWrite name cases = false)
    (others : bodyWrites name otherwise = false) :
    (Script.select (depth + 1) world cases otherwise).Spares name := by
  unfold Script.select
  split
  · exact (below.executeAll world otherwise others).enclosed
  · simp only [casesWrite, Case.writes, Bool.or_eq_false_iff] at silent
    exact (below.executeAll world _ silent.1.2).enclosed
  · simp only [casesWrite, Case.writes, Bool.or_eq_false_iff] at silent
    obtain ⟨⟨guarded, acted⟩, later⟩ := silent
    apply (below.evaluate world _ guarded).bind
    intro value
    apply (truth_spares value).bind
    intro holds
    cases holds with
    | true => exact (below.executeAll world _ acted).enclosed
    | false => exact below.select world _ otherwise later others

/-- A loop with a condition goes on where it holds; one without a condition always does. -/
theorem go_on_next (below : Silent name depth) (world : World) (condition : Option Expr)
    (body : List Stmt) (judged : optionalWrites name condition = false)
    (repeated : bodyWrites name body = false) (holds : Bool) :
    Action.Spares name (if holds then do
      match ← Action.round (Action.enclosed (Script.executeAll depth world body)) with
      | .over value => pure value
      | _ => Script.repeatWhile depth world condition body
      else pure .unit) := by
  cases holds with
  | false => exact .pure _
  | true =>
      apply (below.executeAll world body repeated).enclosed.round.bind
      intro ended
      cases ended with
      | again => exact below.repeatWhile world condition body judged repeated
      | skipped => exact below.repeatWhile world condition body judged repeated
      | _ => exact .pure _

theorem repeat_while_next (below : Silent name depth) (world : World) (condition : Option Expr)
    (body : List Stmt) (judged : optionalWrites name condition = false)
    (repeated : bodyWrites name body = false) :
    (Script.repeatWhile (depth + 1) world condition body).Spares name := by
  rw [Script.repeatWhile]
  apply (Action.Spares.tick world.limits).bind
  intro _
  cases condition with
  | none => exact below.go_on_next world none body judged repeated true
  | some expression =>
      exact (below.evaluate world expression judged).bind fun value =>
        (truth_spares value).bind (below.go_on_next world (some expression) body judged repeated)

theorem repeat_do_next (below : Silent name depth) (world : World) (body : List Stmt)
    (continuing : Bool) (condition : Expr) (repeated : bodyWrites name body = false)
    (judged : condition.writes name = false) :
    (Script.repeatDo (depth + 1) world body continuing condition).Spares name := by
  rw [Script.repeatDo]
  apply (Action.Spares.tick world.limits).bind
  intro _
  apply (below.executeAll world body repeated).enclosed.round.bind
  intro ended
  cases ended with
  | again =>
      apply (below.evaluate world condition judged).bind
      intro value
      apply (truth_spares value).bind
      intro holds
      split
      · exact below.repeatDo world body continuing condition repeated judged
      · exact .pure _
  | skipped => exact below.repeatDo world body continuing condition repeated judged
  | _ => exact .pure _

theorem repeat_over_next (below : Silent name depth) (world : World) (item : String)
    (counter : Option String) (passed : Nat) (items : Items) (body : List Stmt) (apart : item ≠ name)
    (uncounted : counter ≠ some name) (repeated : bodyWrites name body = false) :
    (Script.repeatOver (depth + 1) world item counter passed items body).Spares name := by
  rw [Script.repeatOver]
  split
  · exact .pure _
  · rename_i value rest _
    have bound : ∀ found : Datum, Action.Spares name (do
        Action.declare item found false
        Script.executeAll depth world body) := by
      intro found
      exact (Action.Spares.declare apart found false).bind fun _ =>
        below.executeAll world body repeated
    apply (Action.Spares.tick world.limits).bind
    intro _
    apply Action.Spares.bind
    · apply Action.Spares.round
      apply Action.Spares.enclosed
      cases counter with
      | none => exact bound value
      | some other =>
          have different : other ≠ name := by simpa using uncounted
          exact (Action.Spares.declare different _ false).bind fun _ => bound value
    · intro ended
      cases ended with
      | again => exact below.repeatOver world item counter _ rest body apart uncounted repeated
      | skipped => exact below.repeatOver world item counter _ rest body apart uncounted repeated
      | _ => exact .pure _

/-- Without any depth nothing happens; each of the others needs only what lies one below it. -/
theorem at_depth (name : String) (depth : Nat) : Silent name depth := by
  induction depth with
  | zero =>
      constructor <;> intros <;> exact .stop _
  | succ depth below =>
      exact
        { evaluate := below.evaluate_next
          evaluateAll := below.evaluate_all_next
          evaluateArguments := below.evaluate_arguments_next
          evaluateSteps := below.evaluate_steps_next
          callNamed := below.call_named_next
          execute := below.execute_next
          evaluateOptional := below.evaluate_optional_next
          executeAll := below.execute_all_next
          select := below.select_next
          repeatWhile := below.repeat_while_next
          repeatDo := below.repeat_do_next
          repeatOver := below.repeat_over_next }

end Silent

end Narrative.Script
