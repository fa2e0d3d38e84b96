import Narrative.Proofs.Script.Blocks
import Narrative.Proofs.Script.LineFeeds

/-!
# Fragments one below the other

The fragments of a node are brought into normal form together, one below the other. Main fact: this gives
the normal forms of the fragments one after the other, except where a fragment still lacks a semicolon
at its end and the code that comes next goes on with a statement: there the semicolon is left out.
-/

namespace Narrative.Script.Normal

set_option autoImplicit false

/-! ## Fragments -/

/-- A fragment as content gives it, whose quoted texts are all closed. -/
structure Complete (fragment : List Char) : Prop where
  some : fragment ≠ []
  trimmed : Text.trim fragment = fragment
  closed : leavesOpen (segments (.code []) fragment) = false

def plainLines (fragment : List Char) : List (List Char) :=
  Text.lines (plainText fragment)

theorem Complete.begins_visibly {fragment : List Char} (complete : Complete fragment) :
    Text.trimStart fragment = fragment := by
  obtain ⟨first, rest, rfl⟩ := List.exists_cons_of_ne_nil complete.some
  exact List.dropWhile_cons_of_neg (by simp [Text.visible_first complete.trimmed])

theorem Complete.signs {fragment more : List Char} (complete : Complete fragment)
    (signs : BeginsInSigns (fragment ++ '\n' :: more)) : BeginsInSigns fragment := by
  obtain ⟨sign, after, signed, start⟩ := signs
  have some : Text.trimStart fragment ≠ [] := complete.begins_visibly.symm ▸ complete.some
  rw [Text.trim_start_append some] at start
  obtain ⟨rest, here, -⟩ := (signs_line_feed_iff signed some).mp start
  exact ⟨sign, rest, signed, here⟩

theorem plain_lines_append {first second : List Char} (complete : Complete first)
    (apart : ¬Crosses first second) :
    plainLines (first ++ '\n' :: second) = plainLines first ++ plainLines second := by
  obtain ⟨some, visible⟩ := plain_text_end first
  unfold plainLines Text.lines
  rw [plain_text_append complete.closed apart]
  exact lines_from_visible (fun none => complete.some (some none))
    (visible (ends_visibly_of_trimmed complete.trimmed)) [] (plainText second)

theorem plain_lines_intercalate {fragments : List (List Char)}
    (complete : ∀ fragment ∈ fragments, Complete fragment)
    (apart : fragments.IsChain fun first second => ¬Crosses first second) :
    plainLines (List.intercalate ['\n'] fragments) = fragments.flatMap plainLines := by
  induction fragments with
  | nil => rfl
  | cons first others induction =>
      cases others with
      | nil => simp
      | cons second others =>
          obtain ⟨here, later⟩ := List.isChain_cons_cons.mp apart
          have crossing : ¬Crosses first (List.intercalate ['\n'] (second :: others)) := by
            intro crosses
            refine here ⟨crosses.name, ?_⟩
            have signs := crosses.signs
            cases others with
            | nil => simpa using signs
            | cons third others =>
                rw [List.intercalate_cons_cons, List.append_assoc] at signs
                exact (complete second (by simp)).signs signs
          rw [List.intercalate_cons_cons, List.append_assoc, List.singleton_append, List.flatMap_cons,
            plain_lines_append (complete first (by simp)) crossing,
            induction (fun fragment member => complete fragment (List.mem_cons_of_mem _ member)) later]

/-! ## The ends of statements -/

theorem next_code_append (first second : List (List Char)) :
    nextCode? (first ++ second) = (nextCode? first).or (nextCode? second) := by
  induction first with
  | nil => rfl
  | cons line later induction =>
      simp only [List.cons_append, nextCode?]
      split
      · exact induction
      · rfl

theorem goes_on_append (first second : List (List Char)) :
    goesOn (first ++ second) = if nextCode? first = none then goesOn second else goesOn first := by
  unfold goesOn
  rw [next_code_append]
  cases nextCode? first <;> rfl

def lineCode (line : List Char) : List Char :=
  Text.trimEnd (lineParts (Text.trimEnd line)).1

/-- Whether the last code of some lines has to be ended by a semicolon. -/
def wantsEnd : List (List Char) → Bool
  | [] => false
  | line :: later => if nextCode? later = none then needsEnd (lineCode line) else wantsEnd later

theorem cut_comment_slashes (escaped : Bool) (rest : List Char) :
    cutComment none escaped ('/' :: '/' :: rest) = ([], '/' :: '/' :: rest) := by
  simp [cutComment, show Text.isMark '/' = false by decide]

/-- A letter that begins no comment belongs to the code, and what it does to the rest of the line does
not depend on the rest. -/
theorem exists_cut_comment_step (mark : Option Char) (escaped : Bool) (letter : Char) :
    ∃ next behind, ∀ rest : List Char, ¬(mark = none ∧ letter = '/' ∧ rest.head? = some '/') →
      cutComment mark escaped (letter :: rest) =
        (letter :: (cutComment next behind rest).1, (cutComment next behind rest).2) := by
  cases mark with
  | none =>
      by_cases marked : Text.isMark letter = true
      · exact ⟨some letter, false, fun rest _ => by simp [cutComment, marked]⟩
      · refine ⟨none, false, fun rest single => ?_⟩
        have apart : ¬(letter = '/' && rest.head? == some '/') = true := by simpa using single
        simp only [cutComment, if_neg marked, if_neg apart]
  | some opening =>
      cases escaped with
      | true => exact ⟨some opening, false, fun rest _ => by simp [cutComment]⟩
      | false =>
          by_cases backslash : letter = '\\'
          · exact ⟨some opening, true, fun rest _ => by simp [cutComment, backslash]⟩
          · by_cases closing : letter = opening
            · exact ⟨none, false, fun rest _ => by simp [cutComment, closing, closing ▸ backslash]⟩
            · exact ⟨some opening, false, fun rest _ => by simp [cutComment, backslash, closing]⟩

theorem cut_comment_of_blanks {blanks : List Char} (blank : ∀ letter ∈ blanks, Text.isBlank letter = true)
    (mark : Option Char) (escaped : Bool) : cutComment mark escaped blanks = (blanks, []) := by
  induction blanks generalizing mark escaped with
  | nil => rfl
  | cons letter rest induction =>
      obtain ⟨next, behind, step⟩ := exists_cut_comment_step mark escaped letter
      have unslashed := (plain_of_blank (blank letter (by simp))).2.1
      rw [step rest fun slashes => unslashed slashes.2.1,
        induction fun other member => blank other (by simp [member])]

/-- Blanks behind a line stand behind its code or behind its comment. -/
theorem exists_cut_comment_blanks {blanks : List Char}
    (blank : ∀ letter ∈ blanks, Text.isBlank letter = true) (mark : Option Char) (escaped : Bool)
    (text : List Char) :
    ∃ front back, cutComment mark escaped (text ++ blanks) =
        ((cutComment mark escaped text).1 ++ front, (cutComment mark escaped text).2 ++ back) ∧
      (∀ letter ∈ front, Text.isBlank letter = true) ∧ ∀ letter ∈ back, Text.isBlank letter = true := by
  induction text generalizing mark escaped with
  | nil => exact ⟨blanks, [], cut_comment_of_blanks blank mark escaped, blank, by simp⟩
  | cons letter rest induction =>
      have ahead : (rest ++ blanks).head? = some '/' → rest.head? = some '/' := by
        intro slash
        cases rest with
        | cons second rest => exact slash
        | nil => exact absurd rfl (plain_of_blank (blank '/' (List.mem_of_mem_head? slash))).2.1
      by_cases slashes : mark = none ∧ letter = '/' ∧ rest.head? = some '/'
      · obtain ⟨rfl, rfl, second⟩ := slashes
        obtain ⟨behind, rfl⟩ := List.head?_eq_some_iff.mp second
        refine ⟨[], blanks, ?_, by simp, blank⟩
        rw [List.cons_append, List.cons_append, cut_comment_slashes, cut_comment_slashes]
        rfl
      · obtain ⟨next, behind, step⟩ := exists_cut_comment_step mark escaped letter
        obtain ⟨front, back, cut, ends⟩ := induction next behind
        refine ⟨front, back, ?_, ends⟩
        rw [List.cons_append, step rest slashes,
          step _ fun both => slashes ⟨both.1, both.2.1, ahead both.2.2⟩, cut]
        rfl

/-- Whether the end of a line is trimmed before it is cut or behind makes no difference. -/
theorem line_parts_trim_end (line : List Char) :
    ∃ front back, (lineParts line).1 = (lineParts (Text.trimEnd line)).1 ++ front ∧
      (lineParts line).2 = (lineParts (Text.trimEnd line)).2 ++ back ∧
      (∀ letter ∈ front, Text.isBlank letter = true) ∧ ∀ letter ∈ back, Text.isBlank letter = true := by
  obtain ⟨blanks, whole, blank⟩ := Text.exists_blanks_end line
  obtain ⟨front, back, cut, ends⟩ := exists_cut_comment_blanks blank none false (Text.trimEnd line)
  rw [← whole] at cut
  exact ⟨front, back, congrArg Prod.fst cut, congrArg Prod.snd cut, ends⟩

theorem line_code_eq (line : List Char) : lineCode line = Text.trimEnd (lineParts line).1 := by
  obtain ⟨front, -, code, -, blank, -⟩ := line_parts_trim_end line
  rw [code, Text.trim_end_append_blanks _ blank, lineCode]

theorem line_code_nil {line : List Char} (blank : Text.trim (lineParts line).1 = []) :
    lineCode line = [] := by
  rw [line_code_eq]
  exact Text.trim_end_append_blanks [] (Text.blank_of_trim_nil blank)

theorem next_code_cons_iff {line : List Char} {later : List (List Char)} :
    nextCode? (line :: later) = none ↔ Text.trim (lineParts line).1 = [] ∧ nextCode? later = none := by
  simp only [nextCode?]
  split
  · rename_i empty
    simp [List.isEmpty_iff.mp empty]
  · rename_i some
    simp [List.isEmpty_iff.not.mp some]

theorem wants_no_end {later : List (List Char)} (none : nextCode? later = none) :
    wantsEnd later = false := by
  cases later with
  | nil => rfl
  | cons line later =>
      obtain ⟨blank, rest⟩ := next_code_cons_iff.mp none
      rw [wantsEnd, if_pos rest, line_code_nil blank]
      rfl

theorem cut_comment_whole (mark : Option Char) (escaped : Bool) (line : List Char) :
    line = (cutComment mark escaped line).1 ++ (cutComment mark escaped line).2 := by
  obtain ⟨_, _, cut⟩ := exists_cut_line mark escaped [] line
  exact cut.whole

/-- A text that begins a line's code has no comment. -/
theorem cut_comment_of_code {code : List Char} (mark : Option Char) (escaped : Bool) (line : List Char)
    (begun : code <+: (cutComment mark escaped line).1) : (cutComment mark escaped code).2 = [] := by
  induction code generalizing mark escaped line with
  | nil => rfl
  | cons first code induction =>
      have some : (cutComment mark escaped line).1 ≠ [] := by
        rintro none
        simp [none] at begun
      obtain ⟨letter, rest, rfl⟩ : ∃ letter rest, line = letter :: rest := by
        cases line with
        | nil => exact absurd rfl some
        | cons letter rest => exact ⟨letter, rest, rfl⟩
      have single : ¬(mark = none ∧ letter = '/' ∧ rest.head? = Option.some '/') := by
        rintro ⟨rfl, rfl, second⟩
        obtain ⟨behind, rfl⟩ := List.head?_eq_some_iff.mp second
        exact some (by rw [cut_comment_slashes])
      obtain ⟨next, behind, step⟩ := exists_cut_comment_step mark escaped letter
      rw [step rest single] at begun
      obtain ⟨rfl, inner⟩ := List.cons_prefix_cons.mp begun
      -- A second slash here would begin the rest of the line as well.
      have apart : ¬(mark = none ∧ first = '/' ∧ code.head? = Option.some '/') := by
        rintro ⟨rfl, slash, second⟩
        refine single ⟨rfl, slash, ?_⟩
        obtain ⟨later, rfl⟩ := List.head?_eq_some_iff.mp second
        obtain ⟨more, longer⟩ := inner
        rw [cut_comment_whole next behind rest, ← longer]
        rfl
      rw [step code apart]
      exact induction next behind rest inner

theorem lines_from_free (text current : List Char) (free : '\n' ∉ current) :
    ∀ line ∈ Text.linesFrom current text, '\n' ∉ line := by
  induction text generalizing current with
  | nil =>
      rw [Text.linesFrom]
      split
      · simp
      · simpa using free
  | cons letter rest induction =>
      by_cases feed : letter = '\n'
      · subst feed
        obtain ⟨first, ended, stripped⟩ := Text.exists_lines_line_feed current rest
        rw [ended]
        intro line member
        rcases List.mem_cons.mp member with rfl | later
        · rw [← List.mem_reverse] at free
          rcases stripped with same | returned
          · rwa [same] at free
          · rw [returned] at free
            exact fun inside => free (List.mem_append_left _ inside)
        · exact induction [] (by simp) line later
      · rw [Text.lines_from_other feed]
        exact induction (letter :: current) (by simp [free, Ne.symm feed])

/-- What stands behind the code of a line once it is ended. -/
def lineTail (line : List Char) : List Char :=
  (if !(lineParts (Text.trimEnd line)).2.isEmpty && !(lineCode line).isEmpty then [' '] else []) ++
    (lineParts (Text.trimEnd line)).2

theorem end_line_parts (line : List Char) (later : List (List Char)) :
    endLine line later = lineCode line ++
      ((if needsEnd (lineCode line) && !goesOn later then [';'] else []) ++ lineTail line) := by
  simp only [endLine, lineTail, lineCode, List.append_assoc]
  rfl

/-- A line with no code. -/
def IdleLine (line : List Char) : Prop :=
  Text.trim line = [] ∨ ∃ comment, Text.trim line = '/' :: '/' :: comment

theorem idle_line_of_blanks {blanks comment : List Char}
    (blank : ∀ letter ∈ blanks, Text.isBlank letter = true)
    (shape : comment = [] ∨ ∃ text, comment = '/' :: '/' :: text) : IdleLine (blanks ++ comment) := by
  rw [IdleLine, Text.trim_blanks_append comment blank]
  rcases shape with rfl | ⟨text, rfl⟩
  · exact .inl rfl
  · have visible : Text.isBlank '/' = false := by decide
    refine .inr ⟨Text.trimEnd text, ?_⟩
    rw [Text.trim_of_visible _ visible]
    exact Text.trim_end_append ['/'] text visible

theorem line_comment_shape (line : List Char) :
    (lineParts line).2 = [] ∨ ∃ text, (lineParts line).2 = '/' :: '/' :: text := by
  obtain ⟨_, _, cut⟩ := exists_cut_line none false [] line
  exact cut.comment.imp_right And.right

theorem line_tail_idle (line : List Char) : IdleLine (lineTail line) := by
  have blank : ∀ letter ∈ if !(lineParts (Text.trimEnd line)).2.isEmpty && !(lineCode line).isEmpty
      then [' '] else [], Text.isBlank letter = true := by
    split <;> simp [Text.isBlank]
  exact idle_line_of_blanks blank (line_comment_shape (Text.trimEnd line))

theorem line_parts_free {line : List Char} (free : '\n' ∉ line) :
    '\n' ∉ lineCode line ∧ '\n' ∉ lineTail line := by
  obtain ⟨blanks, whole, -⟩ := Text.exists_blanks_end line
  obtain ⟨others, code, -⟩ := Text.exists_blanks_end (lineParts (Text.trimEnd line)).1
  have parts : Text.trimEnd line = (lineParts (Text.trimEnd line)).1 ++ (lineParts (Text.trimEnd line)).2 :=
    cut_comment_whole none false (Text.trimEnd line)
  rw [whole, List.mem_append, not_or, parts, List.mem_append, not_or] at free
  constructor
  · intro member
    rw [code] at free
    exact free.1.1 (List.mem_append_left _ member)
  · unfold lineTail
    split <;> simpa using free.1.2

def Idle (text : List Char) : Prop :=
  ∀ line ∈ Text.splitOn '\n' text, IdleLine line

theorem Idle.behind {line text : List Char} (idle : Idle text) (free : '\n' ∉ line)
    (here : IdleLine line) : Idle (line ++ '\n' :: text) := by
  intro found member
  rw [Text.split_on_append free] at member
  cases member with
  | head => exact here
  | tail _ later => exact idle found later

theorem end_lines_idle {lines : List (List Char)} (none : nextCode? lines = none)
    (free : ∀ line ∈ lines, '\n' ∉ line) : Idle (endLines lines) := by
  induction lines with
  | nil =>
      intro line member
      rw [List.mem_singleton.mp member]
      exact .inl rfl
  | cons line later induction =>
      obtain ⟨blank, rest⟩ := next_code_cons_iff.mp none
      have ended : endLine line later = lineTail line := by
        rw [end_line_parts, line_code_nil blank]
        simp [needsEnd]
      have others := induction rest fun other member => free other (List.mem_cons_of_mem _ member)
      rw [endLines, ended]
      exact others.behind (line_parts_free (free line (by simp))).2 (line_tail_idle line)

/-- The place of the semicolon behind the last code of a text. -/
structure EndsAt (before after : List Char) : Prop where
  code : ∃ start code, (before = code ∨ before = start ++ '\n' :: code) ∧ '\n' ∉ code ∧
    (lineParts code).2 = [] ∧ needsEnd code = true
  idle : Idle after

theorem EndsAt.behind {before after line : List Char} (ends : EndsAt before after) :
    EndsAt (line ++ '\n' :: before) after := by
  obtain ⟨⟨start, code, whole, last⟩, idle⟩ := ends
  rcases whole with rfl | rfl
  · exact ⟨⟨line, before, .inr rfl, last⟩, idle⟩
  · exact ⟨⟨line ++ '\n' :: start, code, .inr (by simp), last⟩, idle⟩

theorem ends_at_line_code {line : List Char} {later : List (List Char)}
    (free : ∀ other ∈ line :: later, '\n' ∉ other) (none : nextCode? later = none)
    (needs : needsEnd (lineCode line) = true) :
    EndsAt (lineCode line) (lineTail line ++ '\n' :: endLines later) := by
  have here := line_parts_free (free line (by simp))
  constructor
  · obtain ⟨blanks, whole, -⟩ := Text.exists_blanks_end (lineParts (Text.trimEnd line)).1
    have bare := cut_comment_of_code Option.none false (Text.trimEnd line) ⟨blanks, whole.symm⟩
    exact ⟨[], lineCode line, .inl rfl, here.1, bare, needs⟩
  · have others := end_lines_idle none fun other member => free other (List.mem_cons_of_mem _ member)
    exact others.behind here.2 (line_tail_idle line)

/-- The end of the last code of some lines depends on the lines behind them in one way: its semicolon is
left out where they go on with the statement. -/
theorem end_lines_append (first second : List (List Char)) (free : ∀ line ∈ first, '\n' ∉ line) :
    if wantsEnd first && goesOn second then
      ∃ before after, EndsAt before after ∧ endLines first = before ++ ';' :: after ∧
        endLines (first ++ second) = before ++ after ++ endLines second
    else endLines (first ++ second) = endLines first ++ endLines second := by
  induction first with
  | nil => rfl
  | cons line later induction =>
      have rest := induction fun other member => free other (List.mem_cons_of_mem _ member)
      have goes := goes_on_append later second
      rw [List.cons_append, endLines, endLines, wantsEnd]
      by_cases none : nextCode? later = none
      · -- This line has the last code, if there is any.
        have stops : goesOn later = false := by simp [goesOn, none]
        rw [wants_no_end none, Bool.false_and, if_neg (by decide)] at rest
        rw [if_pos none] at goes
        rw [if_pos none, rest, end_line_parts, end_line_parts, goes, stops]
        cases needs : needsEnd (lineCode line) with
        | false => simp
        | true =>
            cases goesOn second with
            | false => simp
            | true => exact ⟨_, _, ends_at_line_code free none needs, by simp, by simp⟩
      · rw [if_neg none] at goes
        have same : endLine line (later ++ second) = endLine line later := by
          rw [end_line_parts, end_line_parts, goes]
        rw [if_neg none, same]
        split
        · rename_i runs
          rw [if_pos runs] at rest
          obtain ⟨before, after, ends, whole, joined⟩ := rest
          refine ⟨endLine line later ++ '\n' :: before, after, ends.behind, ?_, ?_⟩
          · rw [whole, List.append_assoc, List.cons_append]
          · rw [joined]
            simp
        · rename_i apart
          rw [if_neg apart] at rest
          rw [rest, List.append_assoc, List.cons_append]

/-! ## Fragments joined -/

/-- The last code of a fragment wants an end, and the code below goes on with the statement. -/
def RunsOn (fragment : List Char) (later : List (List Char)) : Prop :=
  wantsEnd (plainLines fragment) = true ∧ goesOn (later.flatMap plainLines) = true

/-- The normal forms of fragments one after the other, but the semicolon at the end of a fragment that
runs on is left out. -/
inductive Joined : List (List Char) → List Char → Prop where
  | none : Joined [] []
  | ended {fragment text : List Char} {later : List (List Char)} (ends : ¬RunsOn fragment later)
      (others : Joined later text) : Joined (fragment :: later) (normalize fragment ++ text)
  | running {fragment before after text : List Char} {later : List (List Char)}
      (runs : RunsOn fragment later) (place : EndsAt before after)
      (whole : normalize fragment = before ++ ';' :: after) (others : Joined later text) :
      Joined (fragment :: later) (before ++ after ++ text)

theorem joined_end_lines (fragments : List (List Char)) :
    Joined fragments (endLines (fragments.flatMap plainLines)) := by
  induction fragments with
  | nil => exact .none
  | cons fragment later induction =>
      have free : ∀ line ∈ plainLines fragment, '\n' ∉ line :=
        lines_from_free (plainText fragment) [] (by simp)
      have ends := end_lines_append (plainLines fragment) (later.flatMap plainLines) free
      rw [List.flatMap_cons]
      split at ends
      · rename_i runs
        obtain ⟨before, after, place, whole, joined⟩ := ends
        rw [joined]
        exact .running (Bool.and_eq_true_iff.mp runs) place whole induction
      · rename_i apart
        rw [ends]
        exact .ended (fun runs => apart (Bool.and_eq_true_iff.mpr runs)) induction

theorem Joined.length_le {fragments : List (List Char)} {text : List Char}
    (joined : Joined fragments text) : text.length ≤ (fragments.flatMap normalize).length := by
  induction joined with
  | none => exact Nat.le_refl 0
  | ended ends others induction => simpa using induction
  | running runs place whole others induction =>
      simp only [List.flatMap_cons, whole, List.length_append, List.length_cons]
      omega

theorem Joined.same_iff {fragments : List (List Char)} {text : List Char}
    (joined : Joined fragments text) : text = fragments.flatMap normalize ↔
      ∀ earlier fragment later, fragments = earlier ++ fragment :: later → ¬RunsOn fragment later := by
  induction joined with
  | none => simp
  | ended ends others induction =>
      rename_i fragment text later
      rw [List.flatMap_cons, List.append_cancel_left_eq, induction]
      constructor
      · intro all earlier other behind split
        cases earlier with
        | nil =>
            obtain ⟨rfl, rfl⟩ := List.cons.inj split
            exact ends
        | cons first earlier => exact all earlier other behind (List.cons.inj split).2
      · intro all earlier other behind split
        exact all (fragment :: earlier) other behind (by rw [split, List.cons_append])
  | running runs place whole others induction =>
      rename_i fragment before after text later
      refine iff_of_false (fun same => ?_) fun all => all [] fragment later rfl runs
      have longer := others.length_le
      have lengths := congrArg List.length same
      simp only [List.flatMap_cons, whole, List.length_append, List.length_cons] at lengths
      omega

end Narrative.Script.Normal

namespace Narrative.Script

open Narrative.Script.Normal

/-- Complete fragments one below the other are brought into normal form each for itself, and they come
out as they do alone exactly if none of them runs on into the code below. -/
theorem fragments_normalized_apart (fragments : List (List Char))
    (complete : ∀ fragment ∈ fragments, Complete fragment)
    (apart : fragments.IsChain fun first second => ¬Crosses first second) :
    Joined fragments (normalize (List.intercalate ['\n'] fragments)) ∧
    (normalize (List.intercalate ['\n'] fragments) = fragments.flatMap normalize ↔
      ∀ earlier fragment later, fragments = earlier ++ fragment :: later → ¬RunsOn fragment later) ∧
    ∀ node : Node, Block.fragments node.contentText.toList = fragments →
      Joined fragments (normalize (Story.codeOf node)) := by
  have joined : Joined fragments (normalize (List.intercalate ['\n'] fragments)) := by
    have lines := plain_lines_intercalate complete apart
    unfold plainLines at lines
    rw [normalize, lines]
    exact joined_end_lines fragments
  refine ⟨joined, joined.same_iff, fun node same => ?_⟩
  rw [Block.code_of_node, same]
  exact joined

/-- A statement with a comment, a comment, a block and a statement. -/
def gateFragments : List (List Char) :=
  ["if open // at last;".toList, "// the gate".toList, "{ visits++ }".toList, "way = \x27in\x27".toList]

/-- Only the first of them runs on, over the comment into the block. -/
theorem gate_fragments_normalized :
    ((∀ fragment ∈ gateFragments, Complete fragment) ∧
      gateFragments.IsChain fun first second => ¬Crosses first second) ∧
    Joined gateFragments
      "if open // at last;\n// the gate\n{ visits += 1 }\nway = \x27in\x27;\n".toList ∧
    RunsOn gateFragments[0] gateFragments.tail := by
  have complete : ∀ fragment ∈ gateFragments, Complete fragment := by
    have all : ∀ fragment ∈ gateFragments, fragment ≠ [] ∧ Text.trim fragment = fragment ∧
        leavesOpen (segments (.code []) fragment) = false := by decide +kernel
    intro fragment member
    obtain ⟨some, trimmed, closed⟩ := all fragment member
    exact ⟨some, trimmed, closed⟩
  have apart : gateFragments.IsChain fun first second => ¬Crosses first second := by
    have unsigned : (gateFragments.all fun fragment =>
        (Text.trimStart fragment).head?.all fun letter => letter != '+' && letter != '-') = true := by
      decide +kernel
    have none (first : List Char) : ∀ second ∈ gateFragments, ¬Crosses first second := by
      intro second member crosses
      obtain ⟨sign, after, signed, start⟩ := crosses.signs
      have other := List.all_eq_true.mp unsigned second member
      rw [start] at other
      rcases signed with rfl | rfl <;> cases other
    unfold gateFragments at none ⊢
    exact .cons_cons (none _ _ (by simp))
      (.cons_cons (none _ _ (by simp)) (.cons_cons (none _ _ (by simp)) (.singleton _)))
  refine ⟨⟨complete, apart⟩, ?_, by decide +kernel, by decide +kernel⟩
  have joined := (fragments_normalized_apart gateFragments complete apart).1
  have text : normalize (List.intercalate ['\n'] gateFragments) =
      "if open // at last;\n// the gate\n{ visits += 1 }\nway = \x27in\x27;\n".toList := by decide +kernel
  rwa [text] at joined

/-- A block on its own is taken for the block of the statement above, and signs at the beginning of a
fragment are taken for those of the name above. -/
theorem block_joined_with_statement :
    (∀ fragment ∈ ["x = 1".toList, "{ y = 2 }".toList, "++z".toList], fragment ≠ [] ∧
      Text.trim fragment = fragment ∧ leavesOpen (segments (.code []) fragment) = false) ∧
    normalize (List.intercalate ['\n'] ["x = 1".toList, "{ y = 2 }".toList]) =
      "x = 1\n{ y = 2 }\n".toList ∧
    ["x = 1".toList, "{ y = 2 }".toList].flatMap normalize = "x = 1;\n{ y = 2 }\n".toList ∧
    normalize (List.intercalate ['\n'] ["x = y".toList, "++z".toList]) = "x = y += 1z;\n".toList ∧
    ["x = y".toList, "++z".toList].flatMap normalize = "x = y;\n++z;\n".toList := by
  decide +kernel

end Narrative.Script
