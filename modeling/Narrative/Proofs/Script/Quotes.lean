import Narrative.Proofs.Script.Segments

/-!
# Quoted texts and comments in the normal form

Once its code is plain, a script is ended line by line, and the comment of every line is looked for again,
as if no quote were open where a line begins. Main fact: where every quoted text ends on its line, the
normal form of a script has the same quoted texts and, up to the blanks at their ends, the same comments
in the same order.
-/

namespace Narrative.Script.Normal

set_option autoImplicit false

/-- Pieces that stand in a text one after another. -/
def StandIn : List (List Char) → List Char → Prop
  | [], _ => True
  | piece :: pieces, text => ∃ before after, text = before ++ (piece ++ after) ∧ StandIn pieces after

/-- The mode of a line cut before its comment. -/
def modeOf (mark : Option Char) (escaped : Bool) (letters : List Char) : Mode :=
  match mark with
  | none => .code letters
  | some opening => .quoted opening escaped letters

/-- Up to its comment a line reads like the whole script. -/
structure CutLine (mark : Option Char) (escaped : Bool) (letters line : List Char)
    (finished : List Segment) (next : Mode) : Prop where
  whole : line = (cutComment mark escaped line).1 ++ (cutComment mark escaped line).2
  reads : ∀ rest, rest = (cutComment mark escaped line).2 ∨ rest.head? ≠ some '/' →
    segments (modeOf mark escaped letters) ((cutComment mark escaped line).1 ++ rest) =
      finished ++ segments next rest
  code : ∀ passed, next ≠ .comment passed
  comment : (cutComment mark escaped line).2 = [] ∨
    (∃ passed, next = .code passed) ∧ ∃ text, (cutComment mark escaped line).2 = '/' :: '/' :: text

/-- One letter more in front, read alike before every text that begins with a slash only if the rest of
the line does. -/
theorem CutLine.cons {mark second : Option Char} {escaped behind : Bool} {letter : Char}
    {letters passed rest : List Char} {front finished : List Segment} {next : Mode}
    (same : cutComment mark escaped (letter :: rest) =
      (letter :: (cutComment second behind rest).1, (cutComment second behind rest).2))
    (step : ∀ text, (rest.head? ≠ some '/' → text.head? ≠ some '/') →
      segments (modeOf mark escaped letters) (letter :: text) =
        front ++ segments (modeOf second behind passed) text)
    (cut : CutLine second behind passed rest finished next) :
    CutLine mark escaped letters (letter :: rest) (front ++ finished) next := by
  refine ⟨?_, fun text follows => ?_, cut.code, ?_⟩
  · rw [same, List.cons_append, ← cut.whole]
  · rw [same] at follows ⊢
    have ahead : rest.head? ≠ some '/' →
        ((cutComment second behind rest).1 ++ text).head? ≠ some '/' := by
      intro apart
      rw [cut.whole] at apart
      cases code : (cutComment second behind rest).1 with
      | nil =>
          rw [code] at apart
          rcases follows with rfl | later
          · exact apart
          · exact later
      | cons first more =>
          rw [code] at apart
          exact apart
    rw [List.cons_append, step _ ahead, cut.reads text follows, List.append_assoc]
  · rw [same]
    exact cut.comment

/-- The segments of a line and what its end is still part of. -/
theorem exists_cut_line (mark : Option Char) (escaped : Bool) (letters line : List Char) :
    ∃ finished next, CutLine mark escaped letters line finished next := by
  induction line generalizing mark escaped letters with
  | nil =>
      refine ⟨[], modeOf mark escaped letters, rfl, fun _ _ => rfl, fun passed => ?_, .inl rfl⟩
      cases mark <;> simp [modeOf]
  | cons letter rest induction =>
      cases mark with
      | none =>
          by_cases marked : Text.isMark letter = true
          · obtain ⟨finished, next, cut⟩ := induction (some letter) false [letter]
            refine ⟨[.code letters.reverse] ++ finished, next, cut.cons ?_ fun text _ => ?_⟩
            · simp [cutComment, marked]
            · simp [segments, modeOf, marked]
          · by_cases slashes : (letter = '/' && rest.head? == some '/') = true
            · -- The line is cut here, so the comment is what `reads` leaves to the code before it.
              have here : cutComment none escaped (letter :: rest) = ([], letter :: rest) := by
                simp only [cutComment, if_neg marked, if_pos slashes]
              refine ⟨[], .code letters, ?_, ?_, fun passed => by simp, ?_⟩
              · rw [here, List.nil_append]
              · intro text _
                rw [here]
                rfl
              · rw [here]
                obtain ⟨rfl, second⟩ : letter = '/' ∧ rest.head? = some '/' := by
                  simpa using slashes
                obtain ⟨text, rfl⟩ := List.head?_eq_some_iff.mp second
                exact .inr ⟨⟨letters, rfl⟩, text, rfl⟩
            · obtain ⟨finished, next, cut⟩ := induction none false (letter :: letters)
              refine ⟨[] ++ finished, next, cut.cons ?_ fun text ahead => ?_⟩
              · simp only [cutComment, if_neg marked, if_neg slashes]
              · have single : ¬(letter = '/' && text.head? == some '/') = true := by
                  simp only [Bool.and_eq_true, decide_eq_true_eq, beq_iff_eq] at slashes ⊢
                  exact fun both => ahead (fun next => slashes ⟨both.1, next⟩) both.2
                simp only [segments, modeOf, if_neg marked, if_neg single, List.nil_append]
      | some opening =>
          cases escaped with
          | true =>
              obtain ⟨finished, next, cut⟩ := induction (some opening) false (letter :: letters)
              refine ⟨[] ++ finished, next, cut.cons ?_ fun text _ => ?_⟩
              · simp [cutComment]
              · simp [segments, modeOf]
          | false =>
              by_cases backslash : letter = '\\'
              · obtain ⟨finished, next, cut⟩ := induction (some opening) true (letter :: letters)
                refine ⟨[] ++ finished, next, cut.cons ?_ fun text _ => ?_⟩
                · simp [cutComment, backslash]
                · simp [segments, modeOf, backslash]
              · by_cases closing : letter = opening
                · obtain ⟨finished, next, cut⟩ := induction none false []
                  refine ⟨[.quoted (letter :: letters).reverse] ++ finished, next,
                    cut.cons ?_ fun text _ => ?_⟩
                  · simp [cutComment, closing, closing ▸ backslash]
                  · simp [segments, modeOf, closing, closing ▸ backslash]
                · obtain ⟨finished, next, cut⟩ := induction (some opening) false (letter :: letters)
                  refine ⟨[] ++ finished, next, cut.cons ?_ fun text _ => ?_⟩
                  · simp [cutComment, backslash, closing]
                  · simp [segments, modeOf, backslash, closing]

/-- The segment in progress when the script ends after some letters more. -/
def Mode.last (more : List Char) : Mode → Segment
  | .code letters => .code (letters.reverse ++ more)
  | .quoted _ _ letters => .quoted (letters.reverse ++ more)
  | .comment letters => .comment (letters.reverse ++ more)

theorem segments_nil (mode : Mode) : segments mode [] = [mode.last []] := by
  cases mode <;> simp [segments, Mode.last]

theorem plain_of_blank {letter : Char} (blank : Text.isBlank letter = true) :
    Text.isMark letter = false ∧ letter ≠ '/' ∧ letter ≠ '\\' := by
  refine ⟨Text.unmarked_of (by decide) blank, ?_, ?_⟩
  · rintro rfl
    exact absurd blank (by decide)
  · rintro rfl
    exact absurd blank (by decide)

theorem segments_blanks {mode : Mode} (marked : mode.Marked) {blanks : List Char}
    (blank : ∀ letter ∈ blanks, Text.isBlank letter = true) (oneLine : '\n' ∉ blanks) :
    segments mode blanks = [mode.last blanks] := by
  induction blanks generalizing mode with
  | nil => exact segments_nil mode
  | cons letter rest induction =>
      obtain ⟨unmarked, unslashed, plain⟩ := plain_of_blank (blank letter (by simp))
      simp only [List.mem_cons, not_or] at oneLine
      have handed : (advance (rest.head? == some '/') letter mode).1 = [] ∧
          (advance (rest.head? == some '/') letter mode).2.last rest = mode.last (letter :: rest) := by
        cases mode with
        | code letters => simp [advance, unmarked, unslashed, Mode.last]
        | quoted mark escaped letters =>
            have other : letter ≠ mark := by
              rintro rfl
              exact absurd marked (by simp [Mode.Marked, unmarked])
            cases escaped <;> simp [advance, plain, other, Mode.last]
        | comment letters => simp [advance, Ne.symm oneLine.1, Mode.last]
      rw [segments_cons, handed.1, List.nil_append,
        induction (marked_advance _ letter marked) (fun other member => blank other (by simp [member]))
          oneLine.2, handed.2]

theorem kept_append (first second : List Segment) : kept (first ++ second) = kept first ++ kept second :=
  List.filterMap_append

theorem leaves_open_last (parts : List Segment) (last : Segment) :
    leavesOpen (parts ++ [last]) = last.isQuoted := by
  simp [leavesOpen]

/-- What comes before blanks at the end of a line is read the same way without them. -/
theorem exists_reads_before {blanks : List Char} (blank : ∀ letter ∈ blanks, Text.isBlank letter = true)
    (oneLine : '\n' ∉ blanks) (text : List Char) :
    ∃ finished next, Reads (.code []) text finished next ∧
      segments (.code []) (text ++ blanks) = finished ++ [next.last blanks] := by
  obtain ⟨finished, next, reads, marked⟩ := exists_reads (.code []) trivial text
  refine ⟨finished, next, reads, ?_⟩
  have apart : blanks.head? ≠ some '/' := by
    intro slash
    obtain ⟨later, rfl⟩ := List.head?_eq_some_iff.mp slash
    exact (plain_of_blank (blank '/' (by simp))).2.1 rfl
  rw [← segments_blanks marked blank oneLine, ← reads blanks apart]

theorem kept_before {blanks : List Char} (blank : ∀ letter ∈ blanks, Text.isBlank letter = true)
    (oneLine : '\n' ∉ blanks) {text : List Char}
    (closed : leavesOpen (segments (.code []) (text ++ blanks)) = false) :
    leavesOpen (segments (.code []) text) = false ∧
      kept (segments (.code []) (text ++ blanks)) = kept (segments (.code []) text) := by
  obtain ⟨finished, next, reads, whole⟩ := exists_reads_before blank oneLine text
  rw [whole, leaves_open_last] at closed
  rw [whole, reads.alone, segments_nil, leaves_open_last, kept_append, kept_append]
  cases next with
  | code letters => exact ⟨rfl, rfl⟩
  | quoted mark escaped letters => cases closed
  | comment letters =>
      refine ⟨rfl, ?_⟩
      simp [kept, Mode.last, Segment.kept?, Text.trim_end_append_blanks _ blank]

theorem reads_trim_end {text : List Char} (oneLine : '\n' ∉ text) {finished : List Segment}
    {letters : List Char} (code : segments (.code []) text = finished ++ [.code letters]) :
    ∃ passed, Reads (.code []) (Text.trimEnd text) finished (.code passed) := by
  obtain ⟨blanks, split, blank⟩ := Text.exists_blanks_end text
  have onLine : '\n' ∉ blanks := by
    intro member
    exact oneLine (split ▸ List.mem_append_right _ member)
  obtain ⟨parts, next, reads, whole⟩ := exists_reads_before blank onLine (Text.trimEnd text)
  rw [← split, code] at whole
  obtain ⟨same, last⟩ := List.append_inj' whole rfl
  subst same
  cases next with
  | code passed => exact ⟨passed, reads⟩
  | quoted mark escaped passed => cases last
  | comment passed => cases last

theorem segments_comment {text : List Char} (oneLine : '\n' ∉ text) (letters rest : List Char) :
    segments (.comment letters) (text ++ '\n' :: rest) =
        .comment (letters.reverse ++ text) :: segments (.code ['\n']) rest ∧
      segments (.comment letters) text = [.comment (letters.reverse ++ text)] := by
  induction text generalizing letters with
  | nil => simp [segments]
  | cons letter text induction =>
      simp only [List.mem_cons, not_or] at oneLine
      obtain ⟨before, alone⟩ := induction oneLine.2 (letter :: letters)
      rw [List.cons_append, segments, segments, if_neg (Ne.symm oneLine.1), if_neg (Ne.symm oneLine.1),
        before, alone]
      simp

theorem kept_comment_line {comment : List Char} (oneLine : '\n' ∉ comment)
    (shape : comment = [] ∨ ∃ text, comment = '/' :: '/' :: text) (letters rest : List Char) :
    kept (segments (.code []) (comment ++ '\n' :: rest)) =
      kept (segments (.code letters) comment) ++ kept (segments (.code []) rest) := by
  rcases shape with rfl | ⟨text, rfl⟩
  · exact kept_of_outline (outline_code_line_feed [] rest)
  · have onLine : '\n' ∉ text := fun member => oneLine (by simp [member])
    have begun (before after : List Char) : segments (.code before) ('/' :: '/' :: after) =
        .code before.reverse :: segments (.comment ['/', '/']) after := by
      simp [segments, show Text.isMark '/' = false by decide]
    obtain ⟨followed, alone⟩ := segments_comment onLine ['/', '/'] rest
    have later := kept_of_outline (outline_of_code ['\n'] rest)
    unfold kept at later ⊢
    rw [List.cons_append, List.cons_append, begun, begun, followed, alone, ← later]
    rfl

/-! ## Lines -/

/-- The code and the comment of a closed line keep what the line keeps. -/
theorem exists_line_parts {line : List Char} (oneLine : '\n' ∉ line)
    (closed : leavesOpen (segments (.code []) line) = false) :
    ∃ finished passed before,
      Reads (.code []) (Text.trimEnd (lineParts line).1) finished (.code passed) ∧
      kept (segments (.code []) line) = kept finished ++ kept (segments (.code before) (lineParts line).2) ∧
      '\n' ∉ (lineParts line).2 ∧
      ((lineParts line).2 = [] ∨ ∃ text, (lineParts line).2 = '/' :: '/' :: text) := by
  obtain ⟨finished, next, cut⟩ := exists_cut_line none false [] line
  have split : line = (lineParts line).1 ++ (lineParts line).2 := cut.whole
  have whole : segments (.code []) line = finished ++ segments next (lineParts line).2 := by
    have all := cut.reads (lineParts line).2 (.inl rfl)
    exact (congrArg (segments (.code [])) split).trans all
  -- A quoted text that is open at the end would leave the line open, and a comment begins in code.
  have inCode : ∃ before, next = .code before := by
    rcases cut.comment with none | some
    · have ended : (lineParts line).2 = [] := none
      rw [whole, ended, segments_nil, leaves_open_last] at closed
      cases next with
      | code before => exact ⟨before, rfl⟩
      | quoted mark escaped letters => cases closed
      | comment letters => exact absurd rfl (cut.code letters)
    · exact some.1
  obtain ⟨before, rfl⟩ := inCode
  have alone : segments (.code []) (lineParts line).1 = finished ++ [.code before.reverse] := by
    have short := cut.reads [] (.inr (by simp))
    rwa [List.append_nil] at short
  have codeOnLine : '\n' ∉ (lineParts line).1 := by
    intro member
    exact oneLine (split ▸ List.mem_append_left _ member)
  obtain ⟨passed, reads⟩ := reads_trim_end codeOnLine alone
  refine ⟨finished, passed, before, reads, ?_, ?_, cut.comment.imp_right And.right⟩
  · rw [whole, kept_append]
  · intro member
    exact oneLine (split ▸ List.mem_append_right _ member)

theorem kept_with_extra {code extra tail passed : List Char} {finished : List Segment}
    (reads : Reads (.code []) code finished (.code passed)) (calm : Calm extra)
    (apart : code = [] ∨ (extra ++ tail).head? ≠ some '/') :
    kept (segments (.code []) (code ++ (extra ++ tail))) =
      kept finished ++ kept (segments (.code []) tail) := by
  have quiet : Quiet tail.head? extra := by
    have all : Quiet tail.head? (extra ++ []) := quiet_calm_append calm trivial
    rwa [List.append_nil] at all
  have skipped (letters : List Char) :
      kept (segments (.code letters) (extra ++ tail)) = kept (segments (.code []) tail) :=
    kept_of_outline (outline_of_quiet letters tail quiet)
  rcases apart with rfl | apart
  · have alone : [] ++ segments (.code []) [] = finished ++ segments (.code passed) [] := reads.alone
    have nothing : [] = finished := (List.append_inj' alone rfl).1
    rw [← nothing, List.nil_append, skipped]
    rfl
  · rw [reads _ apart, kept_append, skipped]

/-- Semicolons and blanks end a line, and some of them stand between code and a comment. -/
theorem exists_end_line (line : List Char) (later : List (List Char)) :
    ∃ extra, (∀ letter ∈ extra, letter = ';' ∨ letter = ' ') ∧
      endLine line later = Text.trimEnd (lineParts (Text.trimEnd line)).1 ++
        (extra ++ (lineParts (Text.trimEnd line)).2) ∧
      (Text.trimEnd (lineParts (Text.trimEnd line)).1 = [] ∨ (lineParts (Text.trimEnd line)).2 = [] ∨
        extra ≠ []) := by
  simp only [endLine]
  generalize Text.trimEnd (lineParts (Text.trimEnd line)).1 = code
  generalize (lineParts (Text.trimEnd line)).2 = comment
  have finish : ∀ letter ∈ if needsEnd code && !goesOn later then [';'] else [],
      letter = ';' ∨ letter = ' ' := by
    split <;> simp
  have gap : ∀ letter ∈ if !comment.isEmpty && !code.isEmpty then [' '] else [],
      letter = ';' ∨ letter = ' ' := by
    split <;> simp
  refine ⟨_, fun letter member => (List.mem_append.mp member).elim (finish letter) (gap letter),
    by simp only [List.append_assoc], ?_⟩
  cases code with
  | nil => exact .inl rfl
  | cons first code =>
      cases comment with
      | nil => exact .inr (.inl rfl)
      | cons second comment => exact .inr (.inr (by simp))

/-- What a line keeps stays when its statement is ended. -/
theorem kept_end_line {line : List Char} (later : List (List Char)) (oneLine : '\n' ∉ line)
    (closed : leavesOpen (segments (.code []) line) = false) (rest : List Char) :
    kept (segments (.code []) (endLine line later ++ '\n' :: rest)) =
      kept (segments (.code []) line) ++ kept (segments (.code []) rest) := by
  obtain ⟨blanks, split, blank⟩ := Text.exists_blanks_end line
  have onLine : '\n' ∉ Text.trimEnd line ∧ '\n' ∉ blanks := by
    rw [split, List.mem_append, not_or] at oneLine
    exact oneLine
  obtain ⟨trimmed, same⟩ := kept_before blank onLine.2 (split ▸ closed)
  rw [← split] at same
  obtain ⟨finished, passed, before, reads, parts, commentOnLine, shape⟩ :=
    exists_line_parts onLine.1 trimmed
  obtain ⟨extra, ends, ended, apart⟩ := exists_end_line line later
  have calm : Calm extra := by
    intro letter member
    rcases ends letter member with rfl | rfl <;> exact ⟨by decide, by decide⟩
  have unslashed : Text.trimEnd (lineParts (Text.trimEnd line)).1 = [] ∨
      (extra ++ ((lineParts (Text.trimEnd line)).2 ++ '\n' :: rest)).head? ≠ some '/' := by
    refine apart.imp_right fun apart => ?_
    cases extra with
    | nil =>
        have none := apart.resolve_right (by simp)
        simp [none]
    | cons first extra =>
        have other := (calm first (by simp)).2
        simpa using other
  rw [same, parts, List.append_assoc, ← kept_comment_line commentOnLine shape, ended,
    List.append_assoc, List.append_assoc]
  exact kept_with_extra reads calm unslashed

theorem orderly_append {first second : List Segment} (orderly : Orderly (first ++ second))
    (some : second ≠ []) : Orderly second := by
  constructor
  · have closed := orderly.closed
    rw [leavesOpen, List.getLast?_append] at closed
    cases last : second.getLast? with
    | none => exact absurd (List.getLast?_eq_none_iff.mp last) some
    | some part => simpa [leavesOpen, last] using closed
  · exact fun part member => orderly.oneLine part (List.mem_append_right _ member)

theorem segments_quoted (mark : Char) (escaped : Bool) (letters text : List Char) :
    ∃ more later, segments (.quoted mark escaped letters) text =
      .quoted (letters.reverse ++ more) :: later := by
  induction text generalizing escaped letters with
  | nil => exact ⟨[], [], by simp [segments]⟩
  | cons letter text induction =>
      have handed (next : Bool) : ∃ more later, segments (.quoted mark next (letter :: letters)) text =
          .quoted (letters.reverse ++ more) :: later := by
        obtain ⟨more, later, whole⟩ := induction next (letter :: letters)
        exact ⟨letter :: more, later, by simp [whole]⟩
      rw [segments]
      repeat' split
      · exact handed false
      · exact handed true
      · exact ⟨[letter], segments (.code []) text, by simp⟩
      · exact handed false

theorem not_orderly_in_quotes {mark : Char} {escaped : Bool} (marked : Text.isMark mark = true)
    (letters rest : List Char) :
    ¬Orderly (segments (.quoted mark escaped letters) ('\n' :: rest)) := by
  intro orderly
  have going : segments (.quoted mark escaped letters) ('\n' :: rest) =
      segments (.quoted mark false ('\n' :: letters)) rest := by
    have other : '\n' ≠ mark := by
      rintro rfl
      exact absurd marked (by decide)
    cases escaped <;> simp [segments, other]
  obtain ⟨more, later, whole⟩ := segments_quoted mark false ('\n' :: letters) rest
  rw [going, whole] at orderly
  exact orderly.oneLine _ List.mem_cons_self rfl (by simp [Segment.letters])

/-- A line feed ends a line whose quoted texts are closed. -/
theorem orderly_lines {line rest : List Char}
    (orderly : Orderly (segments (.code []) (line ++ '\n' :: rest))) :
    leavesOpen (segments (.code []) line) = false ∧ Orderly (segments (.code []) rest) ∧
      kept (segments (.code []) (line ++ '\n' :: rest)) =
        kept (segments (.code []) line) ++ kept (segments (.code []) rest) := by
  obtain ⟨finished, next, reads, marked⟩ := exists_reads (.code []) trivial line
  have whole := reads ('\n' :: rest) (by simp)
  rw [whole] at orderly ⊢
  rw [reads.alone, segments_nil, leaves_open_last, kept_append, kept_append]
  have later := orderly_append orderly (segments_ne_nil next ('\n' :: rest))
  cases next with
  | code letters =>
      have same := outline_code_line_feed letters rest
      refine ⟨rfl, orderly_bare same later, ?_⟩
      rw [kept_of_outline same, List.append_assoc]
      rfl
  | quoted mark escaped letters => exact absurd later (not_orderly_in_quotes marked letters rest)
  | comment letters =>
      have ended : segments (.comment letters) ('\n' :: rest) =
          [.comment letters.reverse] ++ segments (.code ['\n']) rest := by simp [segments]
      have same := outline_of_code ['\n'] rest
      rw [ended] at later ⊢
      refine ⟨rfl, orderly_bare same (orderly_append later (segments_ne_nil _ rest)), ?_⟩
      rw [kept_append, kept_of_outline same]
      simp [Mode.last]

/-- Cut into lines, an orderly text keeps what it keeps as a whole. -/
theorem orderly_lines_from (text current : List Char) (oneLine : '\n' ∉ current)
    (orderly : Orderly (segments (.code []) (current.reverse ++ text))) :
    (∀ line ∈ Text.linesFrom current text,
      '\n' ∉ line ∧ leavesOpen (segments (.code []) line) = false) ∧
    (Text.linesFrom current text).flatMap (fun line => kept (segments (.code []) line)) =
      kept (segments (.code []) (current.reverse ++ text)) := by
  induction text generalizing current with
  | nil =>
      rw [Text.linesFrom]
      split
      · rename_i empty
        rw [List.isEmpty_iff.mp empty]
        exact ⟨by simp, rfl⟩
      · rw [List.append_nil] at orderly ⊢
        exact ⟨by simp [oneLine, orderly.closed], by simp⟩
  | cons letter text induction =>
      by_cases feed : letter = '\n'
      · subst feed
        have onLine : '\n' ∉ current.reverse := by simpa using oneLine
        obtain ⟨closed, later, whole⟩ := orderly_lines orderly
        obtain ⟨line, lines, stripped⟩ := Text.exists_lines_line_feed current text
        have same : ('\n' ∉ line ∧ leavesOpen (segments (.code []) line) = false) ∧
            kept (segments (.code []) line) = kept (segments (.code []) current.reverse) := by
          rcases stripped with same | returned
          · exact same ▸ ⟨⟨onLine, closed⟩, rfl⟩
          · -- The carriage return is one of the blanks at the end of the line.
            have blank : ∀ letter ∈ ['\r'], Text.isBlank letter = true := by
              intro letter member
              rw [List.mem_singleton.mp member]
              rfl
            rw [returned] at onLine closed ⊢
            obtain ⟨lineClosed, lineKept⟩ := kept_before blank (by decide) closed
            exact ⟨⟨fun member => onLine (List.mem_append_left _ member), lineClosed⟩, lineKept.symm⟩
        obtain ⟨all, others⟩ := induction [] (by simp) later
        rw [whole, lines, List.flatMap_cons, same.2, others]
        exact ⟨List.forall_mem_cons.mpr ⟨same.1, all⟩, rfl⟩
      · have longer := induction (letter :: current) (by simp [oneLine, Ne.symm feed])
          (by simpa using orderly)
        rw [Text.lines_from_other feed]
        simpa using longer

/-- Ended one after another, closed lines keep what each of them keeps. -/
theorem kept_closed_lines {lines : List (List Char)}
    (closed : ∀ line ∈ lines, '\n' ∉ line ∧ leavesOpen (segments (.code []) line) = false) :
    kept (segments (.code []) (endLines lines)) =
      lines.flatMap fun line => kept (segments (.code []) line) := by
  induction lines with
  | nil => rfl
  | cons line later induction =>
      obtain ⟨oneLine, ends⟩ := closed line (by simp)
      rw [endLines, kept_end_line later oneLine ends,
        induction fun other member => closed other (List.mem_cons_of_mem line member), List.flatMap_cons]

theorem kept_end_lines (text current : List Char) (oneLine : '\n' ∉ current)
    (orderly : Orderly (segments (.code []) (current.reverse ++ text))) :
    kept (segments (.code []) (endLines (Text.linesFrom current text))) =
      kept (segments (.code []) (current.reverse ++ text)) := by
  obtain ⟨closed, lines⟩ := orderly_lines_from text current oneLine orderly
  exact (kept_closed_lines closed).trans lines

theorem segments_flat (mode : Mode) (text : List Char) :
    (segments mode text).flatMap Segment.letters = (mode.last text).letters := by
  fun_induction segments mode text <;> simp_all [Mode.last, Segment.letters]

theorem StandIn.behind {pieces : List (List Char)} {text : List Char} (stands : StandIn pieces text)
    (before : List Char) : StandIn pieces (before ++ text) := by
  cases pieces with
  | nil => trivial
  | cons piece pieces =>
      obtain ⟨start, after, rfl, later⟩ := stands
      exact ⟨before ++ start, after, by simp, later⟩

theorem kept_stands_in (parts : List Segment) :
    StandIn ((kept parts).map Segment.letters) (parts.flatMap Segment.letters) := by
  induction parts with
  | nil => trivial
  | cons part parts induction =>
      rw [List.flatMap_cons]
      cases part with
      | code letters => exact induction.behind letters
      | quoted letters => exact ⟨[], parts.flatMap Segment.letters, rfl, induction⟩
      | comment letters =>
          obtain ⟨blanks, whole, -⟩ := Text.exists_blanks_end letters
          refine ⟨[], blanks ++ parts.flatMap Segment.letters, ?_, induction.behind blanks⟩
          rw [List.nil_append, ← List.append_assoc]
          exact congrArg (· ++ _) whole

end Narrative.Script.Normal

namespace Narrative.Script

open Narrative.Script.Normal

/-- Quoted texts that end on their lines stay in the normal form as they are, comments but for the blanks
at their ends, all in the same order. -/
theorem normalize_keeps_quotes_and_comments (source : List Char)
    (orderly : Orderly (segments (.code []) source)) :
    kept (segments (.code []) (normalize source)) = kept (segments (.code []) source) ∧
      StandIn ((kept (segments (.code []) source)).map Segment.letters) (normalize source) := by
  have plain := outline_plain_text source
  have lines := kept_end_lines (plainText source) [] (by simp) (orderly_bare plain.symm orderly)
  have same : kept (segments (.code []) (normalize source)) = kept (segments (.code []) source) :=
    lines.trans (kept_of_outline plain)
  refine ⟨same, ?_⟩
  have stands := kept_stands_in (segments (.code []) (normalize source))
  rw [same, segments_flat] at stands
  exact stands

/-- Marks within quoted texts, slashes and signs within them, and a comment that begins with three
slashes. -/
def markedScript : List Char :=
  "x = \x27it\\\x27s // y === z \x27 // one \r\nlog = `a++` + \x22`;\x22 ///x\t".toList

theorem marked_script_kept :
    Orderly (segments (.code []) markedScript) ∧
    kept (segments (.code []) (normalize markedScript)) =
      [.quoted "\x27it\\\x27s // y === z \x27".toList, .comment "// one".toList, .quoted "`a++`".toList,
        .quoted "\x22`;\x22".toList, .comment "///x".toList] := by
  have orderly : Orderly (segments (.code []) markedScript) := ⟨by decide +kernel, by decide +kernel⟩
  exact ⟨orderly, (normalize_keeps_quotes_and_comments _ orderly).1.trans (by decide +kernel)⟩

/-- A statement is ended within a quoted text that goes on on the next line. -/
theorem quoted_line_ended :
    leavesOpen (segments (.code []) "x = `a\nb`".toList) = false ∧
    kept (segments (.code []) "x = `a\nb`".toList) = [.quoted "`a\nb`".toList] ∧
    normalize "x = `a\nb`".toList = "x = `a;\nb`;\n".toList ∧
    ¬"`a\nb`".toList <:+: normalize "x = `a\nb`".toList := by
  decide +kernel

end Narrative.Script
