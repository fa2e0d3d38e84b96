import Mathlib.Data.List.Basic
import Mathlib.Data.List.TakeWhile
import Narrative.Proofs.Script.Quotes

/-!
# Plain text at line feeds

Making code plain goes letter by letter. Main fact: behind a text whose quotes are closed, a line feed
parts it (`plain_text_append`); only a name above the line feed and signs below it are taken together for
an increment.
-/

namespace Narrative.Script.Normal

set_option autoImplicit false

/-- A name with at most blanks behind it ends the code. -/
def EndsInName (code : List Char) : Prop :=
  ∃ before first name blanks, code = before ++ first :: (name ++ blanks) ∧ beginsName first = true ∧
    (∀ letter ∈ name, continuesName letter = true) ∧ ∀ letter ∈ blanks, Text.isBlank letter = true

/-- The signs of an increment or of a decrement begin the code, with at most blanks before them. -/
def BeginsInSigns (code : List Char) : Prop :=
  ∃ sign after, (sign = '+' ∨ sign = '-') ∧ Text.trimStart code = sign :: sign :: after

/-- The last name of a text and the first signs of the text below it, which would be one increment or
decrement over the line feed. -/
structure Crosses (first second : List Char) : Prop where
  name : ∃ code, (segments (.code []) first).getLast? = some (.code code) ∧ EndsInName code
  signs : BeginsInSigns second

/-! ## Code at a line feed -/

theorem EndsInName.behind {code : List Char} (named : EndsInName code) (before : List Char) :
    EndsInName (before ++ code) := by
  obtain ⟨start, first, name, blanks, rfl, named⟩ := named
  exact ⟨before ++ start, first, name, blanks, by simp, named⟩

theorem name_line_feed (text more : List Char) :
    (text ++ '\n' :: more).takeWhile continuesName = text.takeWhile continuesName ∧
      (text ++ '\n' :: more).dropWhile continuesName = text.dropWhile continuesName ++ '\n' :: more := by
  have stops : continuesName '\n' = false := by decide
  induction text with
  | nil => simp [stops]
  | cons letter rest induction =>
      cases continues : continuesName letter with
      | false => simp [continues]
      | true => simpa [continues] using induction

theorem EndsInName.of_blank {text : List Char} (begins : text.head?.any beginsName = true)
    (blank : Text.trimStart (text.dropWhile continuesName) = []) : EndsInName text := by
  cases text with
  | nil => cases begins
  | cons first rest =>
      have continues : continuesName first = true := by
        simp only [List.head?_cons, Option.any_some, beginsName, continuesName, Char.isAlphanum,
          Bool.or_eq_true] at begins ⊢
        rcases begins with (alpha | line) | dollar
        · exact .inl (.inl (.inl alpha))
        · exact .inl (.inr line)
        · exact .inr dollar
      rw [List.dropWhile_cons_of_pos continues] at blank
      refine ⟨[], first, rest.takeWhile continuesName, rest.dropWhile continuesName, ?_, begins,
        fun letter member => List.all_eq_true.mp List.all_takeWhile letter member,
        List.dropWhile_eq_nil_iff.mp blank⟩
      rw [List.takeWhile_append_dropWhile, List.nil_append]

theorem signs_line_feed_iff {text more after : List Char} {sign : Char}
    (signed : sign = '+' ∨ sign = '-') (some : text ≠ []) :
    text ++ '\n' :: more = sign :: sign :: after ↔
      ∃ rest, text = sign :: sign :: rest ∧ after = rest ++ '\n' :: more := by
  have other : '\n' ≠ sign := by
    rcases signed with rfl | rfl <;> decide
  constructor
  · intro whole
    match text with
    | [] => exact absurd rfl some
    | [first] => exact absurd (by simp_all) other
    | first :: second :: rest =>
        simp only [List.cons_append, List.cons.injEq] at whole
        obtain ⟨rfl, rfl, rfl⟩ := whole
        exact ⟨rest, rfl, rfl⟩
  · rintro ⟨rest, rfl, rfl⟩
    rfl

/-- Where no name stands at the end of a line before signs on the next one, the letters behind a line
feed are no part of an increment that begins before it. -/
theorem increment_line_feed {text more : List Char} (apart : ¬(EndsInName text ∧ BeginsInSigns more)) :
    text ≠ [] → incrementAt? (text ++ '\n' :: more) = incrementAt? text := by
  intro some
  obtain ⟨taken, dropped⟩ := name_line_feed text more
  have head : (text ++ '\n' :: more).head? = text.head? := by
    rw [List.head?_append_of_ne_nil _ some]
  apply Option.ext
  rintro ⟨name, sign, count⟩
  rw [increment_at_iff, increment_at_iff, taken, dropped, head]
  refine and_congr_right fun begins => and_congr_right fun _ => ?_
  by_cases blank : Text.trimStart (text.dropWhile continuesName) = []
  · -- Nothing but blanks is left on the line, so its name would stand before the signs.
    rw [Text.trim_start_blank_append blank, Text.trim_start_line_feed, blank]
    refine iff_of_false (fun found => ?_) (by simp)
    obtain ⟨after, signed, signs, -⟩ := found
    exact apart ⟨.of_blank begins blank, sign, after, signed, signs⟩
  · rw [Text.trim_start_append blank]
    constructor
    · rintro ⟨after, signed, signs, rfl⟩
      obtain ⟨rest, here, rfl⟩ := (signs_line_feed_iff signed blank).mp signs
      refine ⟨rest, signed, here, ?_⟩
      simp only [List.length_append, List.length_cons]
      omega
    · rintro ⟨rest, signed, here, rfl⟩
      refine ⟨rest ++ '\n' :: more, signed, (signs_line_feed_iff signed blank).mpr ⟨rest, here, rfl⟩, ?_⟩
      simp only [List.length_append, List.length_cons]
      omega

theorem EndsInName.of_suffix {code text : List Char} (named : EndsInName text) (inner : text <:+ code) :
    EndsInName code := by
  obtain ⟨before, rfl⟩ := inner
  exact named.behind before

theorem increments_line_feed {code more : List Char} (apart : ¬(EndsInName code ∧ BeginsInSigns more)) :
    writeIncrements (code ++ '\n' :: more) = writeIncrements code ++ '\n' :: writeIncrements more := by
  have unnamed : assignmentAt? ('\n' :: more) = none := rfl
  rw [writeIncrements, fits_assignment.rewrite_append, Text.rewrite_plain unnamed]
  · rfl
  · intro text some inner
    have later : ¬(EndsInName text ∧ BeginsInSigns more) :=
      fun both => apart ⟨both.1.of_suffix inner, both.2⟩
    rw [assignmentAt?, increment_line_feed later some, ← assignmentAt?]

theorem after_line_feed {word : List Char} (oneLine : '\n' ∉ word) (text more : List Char) :
    (Text.after? word (text ++ '\n' :: more)).isSome = (Text.after? word text).isSome := by
  induction word generalizing text with
  | nil => rfl
  | cons expected word induction =>
      simp only [List.mem_cons, not_or] at oneLine
      cases text with
      | nil => simp [Text.after?, oneLine.1]
      | cons letter rest =>
          simp only [List.cons_append, Text.after?]
          split
          · exact induction oneLine.2 rest
          · rfl

theorem replace_line_feed {word : List Char} (replacement : List Char) (oneLine : '\n' ∉ word)
    (code more : List Char) :
    Text.replace word replacement (code ++ '\n' :: more) =
      Text.replace word replacement code ++ '\n' :: Text.replace word replacement more := by
  have other : word.head? ≠ some '\n' := fun first => oneLine (List.mem_of_head? first)
  rw [Text.replace, (Text.fits_word word replacement).rewrite_append, ← Text.replace, ← Text.replace,
    Text.replace_other other]
  · intro text _ _
    rw [Text.wordAt?, after_line_feed oneLine, ← Text.wordAt?]

theorem EndsInName.of_cons {letter : Char} {rest : List Char} (named : EndsInName (letter :: rest)) :
    EndsInName rest ∨ beginsName letter = true ∧
      ∀ other ∈ rest, (continuesName other || Text.isBlank other) = true := by
  obtain ⟨before, first, name, blanks, whole, begins, named, blank⟩ := named
  cases before with
  | nil =>
      obtain ⟨rfl, rfl⟩ := List.cons.inj whole
      refine .inr ⟨begins, fun other member => ?_⟩
      rcases List.mem_append.mp member with inName | behind
      · simp [named other inName]
      · simp [blank other behind]
  | cons letter before =>
      obtain ⟨rfl, rfl⟩ := List.cons.inj whole
      exact .inl ⟨before, first, name, blanks, rfl, begins, named, blank⟩

section Operators

variable {put : List Char → List Char → Prop} {text written : List Char}
  (equal : ∀ part letters, put part letters → letters = ['=', '='] ∨ letters = ['!', '='])

include equal

theorem Rewritten.same_without_operators (rewritten : Rewritten put text written)
    (other : '=' ∉ written) : text = written := by
  induction rewritten with
  | done => rfl
  | letter letter later induction =>
      rw [induction fun member => other (List.mem_cons_of_mem _ member)]
  | part here later induction =>
      rcases equal _ _ here with rfl | rfl <;> simp at other

theorem Rewritten.ends_in_name (rewritten : Rewritten put text written) (named : EndsInName written) :
    EndsInName text := by
  induction rewritten with
  | done => exact named
  | letter letter later induction =>
      rcases named.of_cons with inner | ⟨begins, all⟩
      · exact (induction inner).behind [letter]
      · rwa [later.same_without_operators equal fun member => absurd (all '=' member) (by decide)]
  | part here later induction =>
      rename_i part letters rest written
      have none : beginsName '=' = false ∧ beginsName '!' = false := by decide
      have behind : EndsInName written := by
        rcases equal _ _ here with rfl | rfl
        · exact ((named.of_cons.resolve_right (by simp [none])).of_cons).resolve_right (by simp [none])
        · exact ((named.of_cons.resolve_right (by simp [none])).of_cons).resolve_right (by simp [none])
      exact (induction behind).behind part

theorem Rewritten.starts_alike (rewritten : Rewritten put text written) {letter : Char}
    {after : List Char} (other : letter ≠ '=' ∧ letter ≠ '!') (start : written = letter :: after) :
    ∃ behind, text = letter :: behind := by
  cases rewritten with
  | done => cases start
  | letter first later =>
      obtain ⟨rfl, -⟩ := List.cons.inj start
      exact ⟨_, rfl⟩
  | part here later =>
      rcases equal _ _ here with rfl | rfl
      · exact absurd (List.cons.inj start).1.symm other.1
      · exact absurd (List.cons.inj start).1.symm other.2

theorem Rewritten.begins_in_signs (rewritten : Rewritten put text written)
    (signs : BeginsInSigns written) : BeginsInSigns text := by
  induction rewritten with
  | done => exact signs
  | letter letter later induction =>
      rename_i rest written
      obtain ⟨sign, after, signed, start⟩ := signs
      cases blank : Text.isBlank letter with
      | true =>
          have skipped (behind : List Char) : Text.trimStart (letter :: behind) = Text.trimStart behind :=
            List.dropWhile_cons_of_pos blank
          obtain ⟨sign, after, signed, start⟩ := induction ⟨sign, after, signed, skipped written ▸ start⟩
          exact ⟨sign, after, signed, (skipped rest).trans start⟩
      | false =>
          have kept (behind : List Char) : Text.trimStart (letter :: behind) = letter :: behind :=
            List.dropWhile_cons_of_neg (by simp [blank])
          obtain ⟨rfl, second⟩ := List.cons.inj ((kept written).symm.trans start)
          have other : letter ≠ '=' ∧ letter ≠ '!' := by
            rcases signed with rfl | rfl <;> decide
          obtain ⟨behind, rfl⟩ := later.starts_alike equal other second
          exact ⟨letter, behind, signed, kept _⟩
  | part here later induction =>
      obtain ⟨sign, after, signed, start⟩ := signs
      rcases equal _ _ here with rfl | rfl
      · obtain ⟨rfl, -⟩ := List.cons.inj start
        exact absurd signed (by decide)
      · obtain ⟨rfl, -⟩ := List.cons.inj start
        exact absurd signed (by decide)

end Operators

theorem plain_code_append {code more : List Char} (apart : ¬(EndsInName code ∧ BeginsInSigns more)) :
    plainCode (code ++ '\n' :: more) = plainCode code ++ '\n' :: plainCode more := by
  unfold plainCode
  rw [replace_line_feed _ (by decide), replace_line_feed _ (by decide)]
  refine increments_line_feed fun both => apart ⟨?_, ?_⟩
  · have first := rewritten_replace ['=', '=', '='] ['=', '='] code
    have second := rewritten_replace ['!', '=', '='] ['!', '=']
      (Text.replace ['=', '=', '='] ['=', '='] code)
    exact first.ends_in_name (fun _ _ same => .inl same)
      (second.ends_in_name (fun _ _ same => .inr same) both.1)
  · have first := rewritten_replace ['=', '=', '='] ['=', '='] more
    have second := rewritten_replace ['!', '=', '='] ['!', '=']
      (Text.replace ['=', '=', '='] ['=', '='] more)
    exact first.begins_in_signs (fun _ _ same => .inl same)
      (second.begins_in_signs (fun _ _ same => .inr same) both.2)

theorem BeginsInSigns.append {code : List Char} (signs : BeginsInSigns code) (more : List Char) :
    BeginsInSigns (code ++ more) := by
  obtain ⟨sign, after, signed, start⟩ := signs
  refine ⟨sign, after ++ more, signed, ?_⟩
  rw [Text.trim_start_append (by simp [start]), start]
  rfl

theorem first_code_begins {text code : List Char} {later : List Segment}
    (parts : segments (.code []) text = .code code :: later) :
    text = code ++ later.flatMap Segment.letters := by
  have flat := segments_flat (.code []) text
  rw [parts] at flat
  simpa [Mode.last, Segment.letters] using flat.symm

/-- Behind a text whose quotes are closed, the text on the next line is made plain for itself. -/
theorem plain_text_append {first second : List Char}
    (closed : leavesOpen (segments (.code []) first) = false) (apart : ¬Crosses first second) :
    plainText (first ++ '\n' :: second) = plainText first ++ '\n' :: plainText second := by
  obtain ⟨finished, next, reads, -⟩ := exists_reads (.code []) trivial first
  have alone := reads.alone
  rw [segments_nil] at alone
  unfold plainText
  rw [reads ('\n' :: second) (by simp), alone]
  cases next with
  | code letters =>
      obtain ⟨more, later, whole, short⟩ := segments_of_code ('\n' :: letters) second
      have going : segments (.code letters) ('\n' :: second) =
          segments (.code ('\n' :: letters)) second := by
        simp [segments, show Text.isMark '\n' = false by decide]
      have last : (segments (.code []) first).getLast? = some (.code letters.reverse) := by
        rw [alone]
        simp [Mode.last]
      have plain : plainCode (letters.reverse ++ '\n' :: more) =
          plainCode letters.reverse ++ '\n' :: plainCode more := by
        apply plain_code_append
        intro both
        apply apart
        rw [first_code_begins short]
        exact ⟨⟨letters.reverse, last, both.1⟩, both.2.append _⟩
      rw [going, whole, short]
      simp [Mode.last, Segment.plain, plain]
  | quoted mark escaped letters =>
      rw [alone, leaves_open_last] at closed
      cases closed
  | comment letters =>
      obtain ⟨more, later, whole, short⟩ := segments_of_code ['\n'] second
      have ended : segments (.comment letters) ('\n' :: second) =
          .comment letters.reverse :: segments (.code ['\n']) second := by simp [segments]
      have plain := plain_code_line_feed more
      rw [ended, whole, short]
      simp [Mode.last, Segment.plain, plain]

/-! ## The ends of texts -/

def EndsVisibly (text : List Char) : Prop :=
  ∀ last ∈ text.getLast?, Text.isBlank last = false

theorem EndsVisibly.of_append (before : List Char) {text : List Char}
    (visible : EndsVisibly (before ++ text)) :
    EndsVisibly text := by
  intro last member
  apply visible last
  rw [List.getLast?_append, member]
  rfl

theorem ends_visibly_append (before : List Char) {text : List Char} (some : text ≠ [])
    (visible : EndsVisibly text) :
    EndsVisibly (before ++ text) := by
  intro last member
  rw [List.getLast?_append_of_ne_nil _ some] at member
  exact visible last member

theorem ends_visibly_trim_end (text : List Char) : EndsVisibly (Text.trimEnd text) := by
  intro last member
  rw [Text.trimEnd, List.getLast?_reverse] at member
  have visible := List.head?_dropWhile_not Text.isBlank text.reverse
  rw [Option.mem_def.mp member] at visible
  exact visible

theorem ends_visibly_of_trimmed {text : List Char} (trimmed : Text.trim text = text) :
    EndsVisibly text := by
  have ends : EndsVisibly (Text.trim text) := ends_visibly_trim_end (Text.trimStart text)
  rwa [trimmed] at ends

section Replaced

variable {put : List Char → List Char → Prop} {text written : List Char}
  (tame : ∀ part letters, put part letters → letters ≠ [] ∧ EndsVisibly letters)

include tame

theorem Rewritten.nil_of_nil (rewritten : Rewritten put text written) (none : written = []) :
    text = [] := by
  cases rewritten with
  | done => rfl
  | letter letter later => cases none
  | part here later => exact absurd (List.append_eq_nil_iff.mp none).1 (tame _ _ here).1

theorem Rewritten.ends_visibly (rewritten : Rewritten put text written)
    (visible : EndsVisibly text) : EndsVisibly written := by
  induction rewritten with
  | done => exact visible
  | letter letter later induction =>
      rename_i rest written
      have behind := induction (visible.of_append [letter])
      cases written with
      | nil => rwa [later.nil_of_nil tame rfl] at visible
      | cons first others => exact ends_visibly_append [letter] (by simp) behind
  | part here later induction =>
      rename_i part letters rest written
      cases written with
      | nil => simpa using (tame _ _ here).2
      | cons first others => exact ends_visibly_append _ (by simp) (induction (visible.of_append _))

end Replaced

theorem Incremented.ends_visibly {part letters : List Char} (incremented : Incremented part letters) :
    EndsVisibly letters := by
  obtain ⟨between, continues, signed⟩ := incremented
  exact ends_visibly_append _ (by simp) (by simp [EndsVisibly, Text.isBlank])

/-- Making code plain empties no code and leaves no blank at its end. -/
theorem plain_code_end (code : List Char) :
    (plainCode code = [] → code = []) ∧ (EndsVisibly code → EndsVisibly (plainCode code)) := by
  have equal : ∀ part letters : List Char, letters = ['=', '='] → letters ≠ [] ∧ EndsVisibly letters := by
    rintro part letters rfl
    simp [EndsVisibly, Text.isBlank]
  have unequal : ∀ part letters : List Char, letters = ['!', '='] → letters ≠ [] ∧ EndsVisibly letters := by
    rintro part letters rfl
    simp [EndsVisibly, Text.isBlank]
  have increment : ∀ part letters, Incremented part letters → letters ≠ [] ∧ EndsVisibly letters :=
    fun part letters incremented => ⟨incremented.tame.1, incremented.ends_visibly⟩
  have first := rewritten_replace ['=', '=', '='] ['=', '='] code
  have second := rewritten_replace ['!', '=', '='] ['!', '=']
    (Text.replace ['=', '=', '='] ['=', '='] code)
  have third := rewritten_increments
    (Text.replace ['!', '=', '='] ['!', '='] (Text.replace ['=', '=', '='] ['=', '='] code))
  constructor
  · intro none
    exact first.nil_of_nil equal (second.nil_of_nil unequal (third.nil_of_nil increment none))
  · intro visible
    exact third.ends_visibly increment (second.ends_visibly unequal (first.ends_visibly equal visible))

theorem Segment.plain_end (part : Segment) :
    (part.plain = [] → part.letters = []) ∧ (EndsVisibly part.letters → EndsVisibly part.plain) := by
  cases part with
  | code letters => exact plain_code_end letters
  | quoted letters => exact ⟨id, id⟩
  | comment letters => exact ⟨id, id⟩

theorem plain_nil_of_nil {parts : List Segment} (none : parts.flatMap Segment.plain = []) :
    parts.flatMap Segment.letters = [] := by
  rw [List.flatMap_eq_nil_iff] at none ⊢
  exact fun part member => part.plain_end.1 (none part member)

theorem plain_ends_visibly {parts : List Segment} (visible : EndsVisibly (parts.flatMap Segment.letters)) :
    EndsVisibly (parts.flatMap Segment.plain) := by
  induction parts with
  | nil => exact visible
  | cons part parts induction =>
      rw [List.flatMap_cons] at visible ⊢
      by_cases none : parts.flatMap Segment.plain = []
      · rw [plain_nil_of_nil none, List.append_nil] at visible
        rw [none, List.append_nil]
        exact part.plain_end.2 visible
      · exact ends_visibly_append _ none (induction (visible.of_append _))

theorem plain_text_end (text : List Char) :
    (plainText text = [] → text = []) ∧ (EndsVisibly text → EndsVisibly (plainText text)) := by
  have flat : (segments (.code []) text).flatMap Segment.letters = text := segments_flat (.code []) text
  constructor
  · exact fun none => flat ▸ plain_nil_of_nil none
  · exact fun visible => plain_ends_visibly (flat.symm ▸ visible)

theorem lines_from_visible {text : List Char} (some : text ≠ []) (visible : EndsVisibly text)
    (current rest : List Char) :
    Text.linesFrom current (text ++ '\n' :: rest) =
      Text.linesFrom current text ++ Text.linesFrom [] rest := by
  induction text generalizing current with
  | nil => exact absurd rfl some
  | cons letter text induction =>
      cases text with
      | nil =>
          have apart : letter ≠ '\n' ∧ letter ≠ '\r' := by
            have seen := visible letter rfl
            constructor
            · rintro rfl
              exact absurd seen (by decide)
            · rintro rfl
              exact absurd seen (by decide)
          simp [Text.linesFrom, apart]
      | cons second text =>
          have later := induction (by simp) (visible.of_append [letter])
          rw [List.cons_append, Text.linesFrom.eq_def, Text.linesFrom.eq_def current (letter :: _)]
          dsimp only
          split
          · rw [later, List.cons_append]
          · exact later (letter :: current)

end Narrative.Script.Normal
