import Narrative.Proofs.Script.Joints

/-!
# Semicolons at the ends of lines

Once its code is plain, a script is ended line by line. Main fact: every line comes out as one line, with
the same letters in the same order but for its blanks, and with at most one semicolon more, right behind
its code. A line stays as it is where it has no code, where its code ends in a letter after which a
statement is over or goes on, and where the next code below goes on with the statement.
-/

namespace Narrative.Text

set_option autoImplicit false

/-- The letters of a text that are no blanks. -/
def ink (text : List Char) : List Char :=
  text.filter fun letter => !isBlank letter

theorem ink_append (first second : List Char) : ink (first ++ second) = ink first ++ ink second :=
  List.filter_append first second

theorem ink_of_blanks {blanks : List Char} (blank : ∀ letter ∈ blanks, isBlank letter = true) :
    ink blanks = [] := by
  rw [ink, List.filter_eq_nil_iff]
  intro letter member
  simp [blank letter member]

theorem ink_trim_end (text : List Char) : ink (trimEnd text) = ink text := by
  obtain ⟨blanks, whole, blank⟩ := exists_blanks_end text
  have split := congrArg ink whole
  rw [ink_append, ink_of_blanks blank, List.append_nil] at split
  exact split.symm

/-- White space belongs to no word. -/
theorem blank_not_alphanumeric {letter : Char} (blank : isBlank letter = true) :
    isAlphanumeric letter = false := by
  have wide : ∀ code ∈ [0x85, 0xA0, 0x1680, 0x2000, 0x2001, 0x2002, 0x2003, 0x2004, 0x2005, 0x2006, 0x2007,
      0x2008, 0x2009, 0x200A, 0x2028, 0x2029, 0x202F, 0x205F, 0x3000],
      (inRanges letterRanges code || inRanges numeralRanges code) = false := by
    decide +kernel
  unfold isAlphanumeric
  split
  · cases alphanum : letter.isAlphanum with
    | false => rfl
    | true =>
        rw [visible_of_alphanum alphanum] at blank
        cases blank
  · rename_i large
    apply wide
    simp only [isBlank, Bool.or_eq_true, Bool.and_eq_true, decide_eq_true_eq, beq_iff_eq] at blank
    simp only [List.mem_cons, List.not_mem_nil, or_false]
    omega

end Narrative.Text

namespace Narrative.Script.Normal

set_option autoImplicit false

def Segment.isComment : Segment → Bool
  | .comment _ => true
  | _ => false

/-- A line that is read by itself, as if no quote were open where it begins: its code and its comment. -/
structure Parts (line code comment : List Char) : Prop where
  whole : line = code ++ comment
  reads : (comment = [] ∧ ∀ part ∈ segments (.code []) line, part.isComment = false) ∨
    ∃ parts, segments (.code []) line = parts ++ [.comment comment] ∧
      ∀ part ∈ parts, part.isComment = false

/-- Code that goes on with a statement begun above: a block, a member, or the word for the other
branch. -/
inductive Resumes : List Char → Prop where
  | block (rest : List Char) : Resumes ('{' :: rest)
  | member (rest : List Char) : Resumes ('.' :: rest)
  | branch {rest : List Char}
      (ends : ∀ letter ∈ rest.head?, Text.isAlphanumeric letter = false ∧ letter ≠ '_') :
      Resumes ('e' :: 'l' :: 's' :: 'e' :: rest)

/-- The next line below that is neither blank nor a comment goes on with the statement. -/
def Resumed (later : List (List Char)) : Prop :=
  ∃ idle next others, later = idle ++ next :: others ∧ (∀ line ∈ idle, IdleLine line) ∧
    Resumes (Text.trimStart next)

/-- Why the code of a line gets no semicolon. -/
inductive Unended (code : List Char) (later : List (List Char)) : Prop where
  | empty (nothing : Text.trim code = [])
  | listed {before : List Char} {last : Char} (ends : Text.trimEnd code = before ++ [last])
      (listed : last ∈ needsNoEnd)
  | resumed (resumed : Resumed later)

/-- What becomes of a line with others below it. -/
inductive Ended (line : List Char) (later : List (List Char)) (out : List Char) : Prop where
  | semicolon {code comment : List Char} (parts : Parts line code comment) (ends : ¬Unended code later)
      (letters : Text.ink out = Text.ink code ++ ';' :: Text.ink comment)
  | same {code comment : List Char} (parts : Parts line code comment) (unended : Unended code later)
      (letters : Text.ink out = Text.ink line)

/-- Lines that come out one for one. -/
inductive EndedLines : List (List Char) → List (List Char) → Prop where
  | none : EndedLines [] []
  | line {line out : List Char} {later outs : List (List Char)} (here : Ended line later out)
      (rest : EndedLines later outs) : EndedLines (line :: later) (out :: outs)

/-! ## The parts of a line -/

theorem advance_ends_no_comment (slash : Bool) {letter : Char} (other : letter ≠ '\n') (mode : Mode) :
    ∀ part ∈ (advance slash letter mode).1, part.isComment = false := by
  cases mode <;> simp only [advance] <;> repeat' split
  all_goals simp_all [Segment.isComment]

/-- A comment on one line is the end of it. -/
theorem comment_last {text : List Char} (oneLine : '\n' ∉ text) (mode : Mode) :
    ∀ part ∈ (segments mode text).dropLast, part.isComment = false := by
  induction text generalizing mode with
  | nil => cases mode <;> simp [segments]
  | cons letter rest induction =>
      simp only [List.mem_cons, not_or] at oneLine
      rw [segments_cons, List.dropLast_append_of_ne_nil (segments_ne_nil _ rest)]
      intro part member
      rcases List.mem_append.mp member with ended | later
      · exact advance_ends_no_comment _ (Ne.symm oneLine.1) mode part ended
      · exact induction oneLine.2 _ part later

theorem parts_of_line {line : List Char} (oneLine : '\n' ∉ line) :
    Parts line (lineParts line).1 (lineParts line).2 := by
  obtain ⟨finished, next, cut⟩ := exists_cut_line none false [] line
  have split : line = (lineParts line).1 ++ (lineParts line).2 := cut.whole
  have read : segments (.code []) line = finished ++ segments next (lineParts line).2 := by
    have all := cut.reads (lineParts line).2 (.inl rfl)
    exact (congrArg (segments (.code [])) split).trans all
  have early := comment_last oneLine (.code [])
  refine ⟨split, ?_⟩
  rcases cut.comment with none | ⟨⟨passed, code⟩, text, slashes⟩
  · have ended : (lineParts line).2 = [] := none
    rw [ended, segments_nil] at read
    rw [read, List.dropLast_concat] at early
    refine .inl ⟨ended, fun part member => ?_⟩
    rw [read] at member
    rcases List.mem_append.mp member with before | last
    · exact early part before
    · rw [List.mem_singleton.mp last]
      cases next with
      | code letters => rfl
      | quoted mark escaped letters => rfl
      | comment letters => exact absurd rfl (cut.code letters)
  · have comment : (lineParts line).2 = '/' :: '/' :: text := slashes
    have behind : '\n' ∉ text := by
      rw [split, comment] at oneLine
      exact fun member => oneLine (by simp [member])
    have last : segments next (lineParts line).2 =
        [.code passed.reverse, .comment (lineParts line).2] := by
      have alone := (segments_comment behind ['/', '/'] []).2
      rw [code, comment]
      simp [segments, show Text.isMark '/' = false by decide, alone]
    rw [last] at read
    rw [read] at early
    refine .inr ⟨finished ++ [.code passed.reverse], by simp [read], fun part member => early part ?_⟩
    simpa using member

/-! ## Going on below -/

theorem continues_iff {code : List Char} : continuesStatement code = true ↔ Resumes code := by
  constructor
  · intro continues
    unfold continuesStatement at continues
    split at continues
    · exact .block _
    · exact .member _
    · split at continues
      · cases continues
      · rename_i word
        rw [Text.append_of_after word]
        exact .branch (by simp)
      · rename_i letter rest word
        rw [Text.append_of_after word]
        exact .branch (by simpa using continues)
  · intro resumes
    cases resumes with
    | block rest => rfl
    | member rest => rfl
    | branch ends =>
        rename_i rest
        cases rest with
        | nil => rfl
        | cons letter rest => simpa [continuesStatement, Text.after?] using ends

/-- Blanks or a comment right behind code do not change what it begins with. -/
theorem resumes_append_iff {code rest : List Char} (some : code ≠ [])
    (apart : ∀ letter ∈ rest.head?, Text.isBlank letter = true ∨ letter = '/') :
    Resumes (code ++ rest) ↔ Resumes code := by
  constructor
  · intro resumes
    generalize whole : code ++ rest = text at resumes
    cases resumes with
    | block after =>
        obtain ⟨first, more, rfl⟩ := List.exists_cons_of_ne_nil some
        obtain ⟨rfl, -⟩ := List.cons.inj whole
        exact .block more
    | member after =>
        obtain ⟨first, more, rfl⟩ := List.exists_cons_of_ne_nil some
        obtain ⟨rfl, -⟩ := List.cons.inj whole
        exact .member more
    | branch ends =>
        rename_i after
        have split : code ++ rest = ['e', 'l', 's', 'e'] ++ after := whole
        rcases List.append_eq_append_iff.mp split with ⟨missing, word, behind⟩ | ⟨tail, rfl, rfl⟩
        · -- The word is cut by no blank and no slash, so none of it is missing.
          cases missing with
          | nil =>
              rw [List.append_nil] at word
              exact word ▸ .branch (by simp)
          | cons letter others =>
              have inside : letter ∈ ['e', 'l', 's', 'e'] := by simp [word]
              have solid : ∀ letter ∈ ['e', 'l', 's', 'e'], ¬(Text.isBlank letter = true ∨ letter = '/') := by
                simp [Text.isBlank]
              exact absurd (apart letter (by simp [behind])) (solid letter inside)
        · refine .branch fun letter member => ends letter ?_
          have first : tail.head? = Option.some letter := member
          rw [List.head?_append, first]
          rfl
  · intro resumes
    cases resumes with
    | block more => exact .block (more ++ rest)
    | member more => exact .member (more ++ rest)
    | branch ends =>
        rename_i tail
        apply Resumes.branch
        intro letter member
        cases tail with
        | cons first others => exact ends letter member
        | nil =>
            rcases apart letter member with blank | rfl
            · refine ⟨Text.blank_not_alphanumeric blank, ?_⟩
              rintro rfl
              cases blank
            · decide

theorem cut_comment_behind_blanks {blanks : List Char}
    (blank : ∀ letter ∈ blanks, Text.isBlank letter = true) (escaped : Bool) (text : List Char) :
    cutComment none escaped (blanks ++ '/' :: '/' :: text) = (blanks, '/' :: '/' :: text) := by
  induction blanks generalizing escaped with
  | nil => exact cut_comment_slashes escaped text
  | cons letter rest induction =>
      obtain ⟨unmarked, unslashed, -⟩ := plain_of_blank (blank letter (by simp))
      have later := induction (fun other member => blank other (by simp [member])) false
      simp [cutComment, unmarked, unslashed, later]

/-- Lines with no code are those in which no code is left in front of the comment. -/
theorem idle_line_iff {line : List Char} : IdleLine line ↔ Text.trim (lineParts line).1 = [] := by
  constructor
  · rintro (nothing | ⟨comment, slashes⟩)
    · rw [lineParts, cut_comment_of_blanks (Text.blank_of_trim_nil nothing)]
      exact nothing
    · obtain ⟨before, after, whole, blank, -⟩ := Text.padded_trim line
      rw [slashes] at whole
      rw [whole, lineParts, List.cons_append, List.cons_append, cut_comment_behind_blanks blank]
      exact Text.trim_append_blanks [] blank
  · intro nothing
    have idle := idle_line_of_blanks (Text.blank_of_trim_nil nothing) (line_comment_shape line)
    have whole : line = (lineParts line).1 ++ (lineParts line).2 := cut_comment_whole none false line
    rwa [← whole] at idle

theorem resumes_line_iff {line : List Char} (busy : ¬IdleLine line) :
    Resumes (Text.trimStart line) ↔ Resumes (Text.trim (lineParts line).1) := by
  rw [idle_line_iff] at busy
  obtain ⟨blanks, start, blank⟩ := Text.exists_blanks_end (Text.trimStart (lineParts line).1)
  have begun : Text.trimStart (lineParts line).1 ≠ [] := by
    intro nothing
    rw [Text.trim, nothing] at busy
    exact busy rfl
  have whole : Text.trimStart line = Text.trim (lineParts line).1 ++ (blanks ++ (lineParts line).2) := by
    have parts : line = (lineParts line).1 ++ (lineParts line).2 := cut_comment_whole none false line
    rw [Text.trim, ← List.append_assoc, ← start, ← Text.trim_start_append begun, ← parts]
  rw [whole]
  refine resumes_append_iff busy fun letter member => ?_
  cases blanks with
  | cons first others => exact .inl (blank letter (List.mem_of_mem_head? member))
  | nil =>
      rcases line_comment_shape line with none | ⟨text, comment⟩
      · simp [none] at member
      · rw [comment] at member
        exact .inr (Option.some.inj member).symm

theorem Resumes.busy {line : List Char} (resumes : Resumes (Text.trimStart line)) : ¬IdleLine line := by
  have begun : ∃ first rest, Text.trimStart line = first :: rest ∧ Text.isBlank first = false ∧
      first ≠ '/' := by
    generalize Text.trimStart line = text at resumes
    cases resumes with
    | block rest => exact ⟨'{', rest, rfl, by decide, by decide⟩
    | member rest => exact ⟨'.', rest, rfl, by decide, by decide⟩
    | branch ends => exact ⟨'e', _, rfl, by decide, by decide⟩
  obtain ⟨first, rest, start, visible, other⟩ := begun
  have trimmed : Text.trim line = first :: Text.trimEnd rest := by
    rw [Text.trim, start]
    exact Text.trim_end_append [] rest visible
  rintro (nothing | ⟨comment, slashes⟩)
  · rw [trimmed] at nothing
    cases nothing
  · rw [trimmed] at slashes
    exact other (List.cons.inj slashes).1

theorem goes_on_iff {later : List (List Char)} : goesOn later = true ↔ Resumed later := by
  induction later with
  | nil =>
      refine iff_of_false (by simp [goesOn, nextCode?]) ?_
      rintro ⟨idle, next, others, none, -⟩
      simp at none
  | cons line rest induction =>
      by_cases blank : IdleLine line
      · have skipped : goesOn (line :: rest) = goesOn rest := by
          simp [goesOn, nextCode?, idle_line_iff.mp blank]
        rw [skipped, induction]
        constructor
        · rintro ⟨idle, next, others, rfl, idles, resumes⟩
          exact ⟨line :: idle, next, others, rfl, by simpa [blank] using idles, resumes⟩
        · rintro ⟨idle, next, others, whole, idles, resumes⟩
          cases idle with
          | nil =>
              obtain ⟨rfl, -⟩ := List.cons.inj whole
              exact absurd blank resumes.busy
          | cons first idle =>
              obtain ⟨rfl, rfl⟩ := List.cons.inj whole
              exact ⟨idle, next, others, rfl, fun other member => idles other (by simp [member]), resumes⟩
      · have here : goesOn (line :: rest) = continuesStatement (Text.trim (lineParts line).1) := by
          simp [goesOn, nextCode?, idle_line_iff.not.mp blank]
        rw [here, continues_iff, ← resumes_line_iff blank]
        constructor
        · exact fun resumes => ⟨[], line, rest, rfl, by simp, resumes⟩
        · rintro ⟨idle, next, others, whole, idles, resumes⟩
          cases idle with
          | nil =>
              obtain ⟨rfl, -⟩ := List.cons.inj whole
              exact resumes
          | cons first idle =>
              obtain ⟨rfl, -⟩ := List.cons.inj whole
              exact absurd (idles line (by simp)) blank

/-! ## Lines one for one -/

theorem unended_iff {code : List Char} {later : List (List Char)} :
    Unended code later ↔ (needsEnd (Text.trimEnd code) && !goesOn later) = false := by
  rw [Bool.and_eq_false_iff, Bool.not_eq_false', goes_on_iff]
  constructor
  · intro unended
    cases unended with
    | empty nothing =>
        have none : Text.trimEnd code = [] :=
          Text.trim_end_append_blanks [] (Text.blank_of_trim_nil nothing)
        exact .inl (by simp [needsEnd, none])
    | listed ends listed => exact .inl (by simp [needsEnd, ends, listed])
    | resumed resumed => exact .inr resumed
  · rintro (unneeded | resumed)
    · cases last : (Text.trimEnd code).getLast? with
      | none =>
          have nothing := List.getLast?_eq_none_iff.mp last
          refine .empty ?_
          rw [← Text.trim_trim_end, nothing]
          rfl
      | some letter =>
          obtain ⟨before, ends⟩ := List.getLast?_eq_some_iff.mp last
          exact .listed ends (by simpa [needsEnd, last] using unneeded)
    · exact .resumed resumed

theorem ink_line_tail (line : List Char) : Text.ink (lineTail line) = Text.ink (lineParts line).2 := by
  obtain ⟨-, back, -, comment, -, blank⟩ := line_parts_trim_end line
  rw [comment, lineTail, Text.ink_append, Text.ink_append, Text.ink_of_blanks blank, List.append_nil]
  split <;> rfl

/-- A line comes out with its own letters and at most one semicolon more. -/
theorem ended_line {line : List Char} (oneLine : '\n' ∉ line) (later : List (List Char)) :
    Ended line later (endLine line later) := by
  have parts := parts_of_line oneLine
  have code : Text.ink (lineCode line) = Text.ink (lineParts line).1 := by
    rw [line_code_eq, Text.ink_trim_end]
  have unended : Unended (lineParts line).1 later ↔
      (needsEnd (lineCode line) && !goesOn later) = false := by
    rw [line_code_eq]
    exact unended_iff
  have letters : Text.ink (endLine line later) = Text.ink (lineParts line).1 ++
      (Text.ink (if needsEnd (lineCode line) && !goesOn later then [';'] else []) ++
        Text.ink (lineParts line).2) := by
    rw [end_line_parts, Text.ink_append, Text.ink_append, code, ink_line_tail]
  cases ends : needsEnd (lineCode line) && !goesOn later with
  | true =>
      rw [ends] at letters unended
      exact .semicolon parts (by simp [unended]) letters
  | false =>
      rw [ends] at letters unended
      refine .same parts (unended.mpr rfl) ?_
      rw [congrArg Text.ink parts.whole, Text.ink_append]
      exact letters

theorem end_line_visible (line : List Char) (later : List (List Char)) :
    EndsVisibly (endLine line later) := by
  have code : EndsVisibly (lineCode line) := ends_visibly_trim_end _
  rw [end_line_parts]
  by_cases bare : (lineParts (Text.trimEnd line)).2 = []
  · have tail : lineTail line = [] := by simp [lineTail, bare]
    rw [tail, List.append_nil]
    split
    · exact ends_visibly_append _ (by simp) (by simp [EndsVisibly, Text.isBlank])
    · rwa [List.append_nil]
  · have whole : Text.trimEnd line = _ := cut_comment_whole none false (Text.trimEnd line)
    have comment : EndsVisibly (lineParts (Text.trimEnd line)).2 := by
      have visible := ends_visibly_trim_end line
      rw [whole] at visible
      exact visible.of_append _
    rw [lineTail, ← List.append_assoc, ← List.append_assoc]
    exact ends_visibly_append _ bare comment

theorem lines_end_lines {lines : List (List Char)} (free : ∀ line ∈ lines, '\n' ∉ line) :
    EndedLines lines (Text.lines (endLines lines)) ∧
      endLines lines = (Text.lines (endLines lines)).flatMap fun line => line ++ ['\n'] := by
  induction lines with
  | nil => exact ⟨.none, rfl⟩
  | cons line later induction =>
      have oneLine := free line (by simp)
      obtain ⟨rest, whole⟩ := induction fun other member => free other (List.mem_cons_of_mem line member)
      have here : '\n' ∉ endLine line later := by
        obtain ⟨code, tail⟩ := line_parts_free oneLine
        rw [end_line_parts]
        split <;> simp [code, tail]
      have split : Text.lines (endLines (line :: later)) =
          endLine line later :: Text.lines (endLines later) := by
        obtain ⟨ended, lines, stripped⟩ := Text.exists_lines_append here [] (endLines later)
        rcases stripped with same | returned
        · rw [endLines, Text.lines, lines, ← same]
          rfl
        · -- A carriage return is a blank, and no line comes out with one at its end.
          have last : '\r' ∈ (endLine line later).getLast? := by
            rw [List.reverse_nil, List.nil_append] at returned
            simp [returned]
          exact absurd (end_line_visible line later '\r' last) (by decide)
      rw [split]
      refine ⟨.line (ended_line oneLine later) rest, ?_⟩
      rw [endLines, List.flatMap_cons, ← whole, List.append_assoc]
      rfl

end Narrative.Script.Normal

namespace Narrative.Script

open Narrative.Script.Normal

/-- The lines of a plain script come out one for one, each with a line feed behind it. Where every quoted
text ends on its line, the comments of the lines, read one by one, are those of the script. -/
theorem lines_keep_their_letters (source : List Char) :
    EndedLines (Text.lines (plainText source)) (Text.lines (normalize source)) ∧
    normalize source = ((Text.lines (normalize source)).flatMap fun line => line ++ ['\n']) ∧
    (Orderly (segments (.code []) source) →
      ((Text.lines (plainText source)).flatMap fun line => kept (segments (.code []) line)) =
        kept (segments (.code []) source)) := by
  obtain ⟨ended, whole⟩ := lines_end_lines (lines_from_free (plainText source) [] (by simp))
  refine ⟨ended, whole, fun orderly => ?_⟩
  have plain := outline_plain_text source
  have lines := orderly_lines_from (plainText source) [] (by simp) (orderly_bare plain.symm orderly)
  exact lines.2.trans (kept_of_outline plain)

/-- A comment above a block, slashes within quotes, and a call on the line below its object. -/
def banterScript : List Char :=
  "if open // now\r\n\n // next\n\x7b say = \x27a // b\x27 \t/// c\n n++ \x7d\ntag\n  .push(1) // last".toList

/-- The block and the call leave the lines above them open, over a blank line and a comment. -/
theorem banter_lines_ended :
    Orderly (segments (.code []) banterScript) ∧
    EndedLines
      (["if open // now", "", " // next", "\x7b say = \x27a // b\x27 \t/// c", " n += 1 \x7d", "tag",
        "  .push(1) // last"].map String.toList)
      (["if open // now", "", "// next", "\x7b say = \x27a // b\x27; /// c", " n += 1 \x7d", "tag",
        "  .push(1); // last"].map String.toList) ∧
    ((Text.lines (plainText banterScript)).flatMap fun line => kept (segments (.code []) line)) =
      [.comment "// now".toList, .comment "// next".toList, .quoted "\x27a // b\x27".toList,
        .comment "/// c".toList, .comment "// last".toList] := by
  have orderly : Orderly (segments (.code []) banterScript) := ⟨by decide +kernel, by decide +kernel⟩
  obtain ⟨ended, -, same⟩ := lines_keep_their_letters banterScript
  have before : Text.lines (plainText banterScript) =
      ["if open // now", "", " // next", "\x7b say = \x27a // b\x27 \t/// c", " n += 1 \x7d", "tag",
        "  .push(1) // last"].map String.toList := by decide +kernel
  have after : Text.lines (normalize banterScript) =
      ["if open // now", "", "// next", "\x7b say = \x27a // b\x27; /// c", " n += 1 \x7d", "tag",
        "  .push(1); // last"].map String.toList := by decide +kernel
  refine ⟨orderly, ?_, (same orderly).trans (by decide +kernel)⟩
  rwa [before, after] at ended

end Narrative.Script
