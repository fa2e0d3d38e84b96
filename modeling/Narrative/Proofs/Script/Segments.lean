import Narrative.Script.Normal

/-!
# Segments of script texts

A script is cut into code, quoted texts and comments letter by letter. Main fact: making the code plain
changes no other segment; cut again, the plain text has the outline of the script
(`outline_plain_text`).
-/

namespace Narrative.Script.Normal

set_option autoImplicit false

def Segment.letters : Segment → List Char
  | .code letters => letters
  | .quoted letters => letters
  | .comment letters => letters

def Segment.isQuoted : Segment → Bool
  | .quoted _ => true
  | _ => false

/-- A quoted text as it is, a comment up to the blanks at its end. -/
def Segment.kept? : Segment → Option Segment
  | .code _ => none
  | .quoted letters => some (.quoted letters)
  | .comment letters => some (.comment (Text.trimEnd letters))

def kept (parts : List Segment) : List Segment :=
  parts.filterMap Segment.kept?

/-- Code follows a quoted text that is closed, so only one that is not closed is the last segment. -/
def leavesOpen (parts : List Segment) : Bool :=
  parts.getLast?.any Segment.isQuoted

/-- Every quoted text is closed, on the line on which it is opened. -/
structure Orderly (parts : List Segment) : Prop where
  closed : leavesOpen parts = false
  oneLine : ∀ part ∈ parts, part.isQuoted = true → '\n' ∉ part.letters

/-! ## One letter after another -/

/-- The segments that a letter ends and the mode behind it; `slash` tells that a slash comes next. -/
def advance (slash : Bool) (letter : Char) : Mode → List Segment × Mode
  | .code letters =>
    if Text.isMark letter then ([.code letters.reverse], .quoted letter false [letter])
    else if letter = '/' && slash then ([.code letters.reverse], .comment [letter])
    else ([], .code (letter :: letters))
  | .quoted mark escaped letters =>
    if escaped then ([], .quoted mark false (letter :: letters))
    else if letter = '\\' then ([], .quoted mark true (letter :: letters))
    else if letter = mark then ([.quoted (letter :: letters).reverse], .code [])
    else ([], .quoted mark false (letter :: letters))
  | .comment letters =>
    if letter = '\n' then ([.comment letters.reverse], .code [letter])
    else ([], .comment (letter :: letters))

theorem segments_ne_nil (mode : Mode) (text : List Char) : segments mode text ≠ [] := by
  fun_induction segments mode text <;> simp_all

theorem segments_cons (mode : Mode) (letter : Char) (rest : List Char) :
    segments mode (letter :: rest) =
      (advance (rest.head? == some '/') letter mode).1 ++
        segments (advance (rest.head? == some '/') letter mode).2 rest := by
  cases mode <;> simp only [segments, advance] <;> repeat' split
  all_goals rfl

/-- Marks are what opens quoted texts. -/
def Mode.Marked : Mode → Prop
  | .quoted mark _ _ => Text.isMark mark = true
  | _ => True

theorem marked_advance (slash : Bool) (letter : Char) {mode : Mode} (marked : mode.Marked) :
    (advance slash letter mode).2.Marked := by
  cases mode <;> simp only [advance] <;> repeat' split
  all_goals simp_all [Mode.Marked]

/-- From `mode`, a text gives `finished` and leads to `next`, whatever follows; only a slash right behind
it might make a comment of its last letter. -/
def Reads (mode : Mode) (text : List Char) (finished : List Segment) (next : Mode) : Prop :=
  ∀ rest, rest.head? ≠ some '/' → segments mode (text ++ rest) = finished ++ segments next rest

theorem exists_reads (mode : Mode) (marked : mode.Marked) (text : List Char) :
    ∃ finished next, Reads mode text finished next ∧ next.Marked := by
  induction text generalizing mode with
  | nil => exact ⟨[], mode, fun _ _ => rfl, marked⟩
  | cons letter text induction =>
      obtain ⟨finished, next, reads, after⟩ :=
        induction _ (marked_advance (text.head? == some '/') letter marked)
      refine ⟨(advance (text.head? == some '/') letter mode).1 ++ finished, next,
        fun rest apart => ?_, after⟩
      have ahead : ((text ++ rest).head? == some '/') = (text.head? == some '/') := by
        cases text with
        | nil => simpa using apart
        | cons second text => rfl
      rw [List.cons_append, segments_cons, ahead, reads rest apart, List.append_assoc]

theorem Reads.alone {mode next : Mode} {text : List Char} {finished : List Segment}
    (reads : Reads mode text finished next) : segments mode text = finished ++ segments next [] := by
  simpa using reads [] (by simp)

/-! ## What does not depend on the code -/

def Segment.bare : Segment → Segment
  | .code _ => .code []
  | other => other

/-- The segments of a text with nothing in the code. -/
def outline (mode : Mode) (text : List Char) : List Segment :=
  (segments mode text).map Segment.bare

theorem kept_bare (parts : List Segment) : kept (parts.map Segment.bare) = kept parts := by
  unfold kept
  rw [List.filterMap_map]
  congr 1
  funext part
  cases part <;> rfl

theorem leaves_open_bare (parts : List Segment) :
    leavesOpen (parts.map Segment.bare) = leavesOpen parts := by
  unfold leavesOpen
  rw [List.getLast?_map, Option.any_map]
  congr 1
  funext part
  cases part <;> rfl

theorem quoted_of_bare {part other : Segment} (quoted : other.isQuoted = true)
    (same : part.bare = other) : part = other := by
  cases part with
  | code letters =>
      subst same
      cases quoted
  | quoted letters => exact same
  | comment letters => exact same

theorem orderly_bare {parts others : List Segment}
    (same : parts.map Segment.bare = others.map Segment.bare) (orderly : Orderly parts) :
    Orderly others := by
  constructor
  · rw [← leaves_open_bare, ← same, leaves_open_bare]
    exact orderly.closed
  · intro part member quoted
    have bare : part.bare = part := by cases part <;> first | rfl | cases quoted
    have listed : part ∈ parts.map Segment.bare := by
      rw [same, ← bare]
      exact List.mem_map_of_mem member
    obtain ⟨other, among, here⟩ := List.mem_map.mp listed
    have original := quoted_of_bare quoted here
    exact original ▸ orderly.oneLine other among (original ▸ quoted)

theorem outline_of_code (letters text : List Char) :
    outline (.code letters) text = outline (.code []) text := by
  unfold outline
  induction text generalizing letters with
  | nil => rfl
  | cons letter rest induction =>
      rw [segments_cons, segments_cons]
      simp only [advance]
      repeat' split
      · rfl
      · rfl
      · simp only [List.nil_append]
        rw [induction (letter :: letters), induction [letter]]

theorem kept_of_outline {mode other : Mode} {text again : List Char}
    (same : outline mode text = outline other again) :
    kept (segments mode text) = kept (segments other again) := by
  rw [← kept_bare, ← kept_bare (segments other again)]
  exact congrArg kept same

/-- Code without marks and comments when `after` comes next. -/
def Quiet (after : Option Char) : List Char → Prop
  | [] => True
  | letter :: rest =>
    Text.isMark letter = false ∧ (letter = '/' → rest.head?.or after ≠ some '/') ∧ Quiet after rest

theorem outline_of_quiet {code : List Char} (letters rest : List Char) (quiet : Quiet rest.head? code) :
    outline (.code letters) (code ++ rest) = outline (.code []) rest := by
  induction code generalizing letters with
  | nil => exact outline_of_code letters rest
  | cons letter code induction =>
      obtain ⟨unmarked, apart, later⟩ := quiet
      have nothing : (letter = '/' && (code ++ rest).head? == some '/') = false := by
        rw [List.head?_append]
        by_cases slash : letter = '/'
        · simpa [slash] using apart slash
        · simp [slash]
      rw [← induction (letter :: letters) later]
      unfold outline
      rw [List.cons_append, segments, unmarked, nothing]
      rfl

/-! ## The first pass -/

/-- Letters that neither open a quoted text nor make a comment. -/
def Calm (letters : List Char) : Prop :=
  ∀ letter ∈ letters, Text.isMark letter = false ∧ letter ≠ '/'

theorem quiet_calm_append {after : Option Char} {calm rest : List Char} (restful : Calm calm)
    (quiet : Quiet after rest) : Quiet after (calm ++ rest) := by
  induction calm with
  | nil => exact quiet
  | cons letter calm induction =>
      obtain ⟨unmarked, other⟩ := restful letter (by simp)
      exact ⟨unmarked, fun slash => absurd slash other,
        induction fun letter member => restful letter (by simp [member])⟩

theorem quiet_line_feed (after : Option Char) : Quiet after ['\n'] :=
  ⟨by decide, fun slash => absurd slash (by decide), trivial⟩

theorem outline_code_line_feed (letters text : List Char) :
    outline (.code letters) ('\n' :: text) = outline (.code []) text := by
  have skipped := outline_of_quiet letters text (quiet_line_feed text.head?)
  exact skipped

theorem outline_comment_line_feed (letters text : List Char) :
    outline (.comment letters) ('\n' :: text) = .comment letters.reverse :: outline (.code []) text := by
  rw [← outline_of_code ['\n'] text]
  simp [outline, segments, Segment.bare]

theorem quiet_append {after : Option Char} (first second : List Char) :
    Quiet after (first ++ second) ↔ Quiet (second.head?.or after) first ∧ Quiet after second := by
  induction first with
  | nil => simp [Quiet]
  | cons letter first induction =>
      simp only [List.cons_append, Quiet, induction, List.head?_append, Option.or_assoc, and_assoc]

/-- A text in which parts are replaced, each by letters that are `put` in its place. -/
inductive Rewritten (put : List Char → List Char → Prop) : List Char → List Char → Prop where
  | done : Rewritten put [] []
  | letter (letter : Char) {rest written : List Char} (later : Rewritten put rest written) :
      Rewritten put (letter :: rest) (letter :: written)
  | part {part letters rest written : List Char} (here : put part letters)
      (later : Rewritten put rest written) : Rewritten put (part ++ rest) (letters ++ written)

theorem Quiet.drop {after : Option Char} {part rest : List Char} (quiet : Quiet after (part ++ rest)) :
    Quiet after rest :=
  ((quiet_append part rest).mp quiet).2

section Rewriting

variable {put : List Char → List Char → Prop}

theorem Rewritten.head {text written : List Char} (rewritten : Rewritten put text written)
    (tame : ∀ part letters, put part letters → letters ≠ [] ∧ Calm letters) {after : Option Char}
    (slash : written.head?.or after = some '/') : text.head?.or after = some '/' := by
  cases rewritten with
  | done => exact slash
  | letter letter later => exact slash
  | part here later =>
      rename_i part letters rest written
      obtain ⟨some, restful⟩ := tame part letters here
      cases letters with
      | nil => exact absurd rfl some
      | cons first letters =>
          have same : first = '/' := by simpa using slash
          exact absurd same (restful first (by simp)).2

theorem Rewritten.quiet {text written : List Char} (rewritten : Rewritten put text written)
    (tame : ∀ part letters, put part letters → letters ≠ [] ∧ Calm letters) {after : Option Char}
    (quiet : Quiet after text) : Quiet after written := by
  induction rewritten with
  | done => exact quiet
  | letter letter later induction =>
      obtain ⟨unmarked, apart, rest⟩ := quiet
      exact ⟨unmarked, fun slash next => apart slash (later.head tame next), induction rest⟩
  | part here later induction => exact quiet_calm_append (tame _ _ here).2 (induction quiet.drop)

end Rewriting

/-- Where parts are read and replaced, each is replaced by letters that are put for it. -/
theorem rewritten_of_reads {put : List Char → List Char → Prop} {read? : List Char → Option (List Char × Nat)}
    (fits : Text.Fits read?)
    (puts : ∀ text letters count, read? text = some (letters, count) → put (text.take count) letters)
    (text : List Char) : Rewritten put text (Text.rewrite read? text) := by
  induction text using fits.by_first_piece with
  | nil => exact .done
  | read text letters count here induction =>
      have whole := Rewritten.part (puts text letters count here) induction
      rwa [List.take_append_drop, ← fits.rewrite_read here] at whole
  | plain letter rest here induction =>
      rw [Text.rewrite_plain here]
      exact .letter letter induction

theorem rewritten_replace (word replacement text : List Char) :
    Rewritten (fun _ letters => letters = replacement) text (Text.replace word replacement text) :=
  rewritten_of_reads (Text.fits_word word replacement)
    (fun _ _ _ found => (Text.word_at_some found).2.1) text

theorem calm_of_continues {letter : Char} (continues : continuesName letter = true) :
    Text.isMark letter = false ∧ letter ≠ '/' := by
  refine ⟨Text.unmarked_of (by decide) continues, ?_⟩
  rintro rfl
  exact absurd continues (by decide)

/-- What is put for an increment: its name comes first, as before. -/
inductive Incremented : List Char → List Char → Prop where
  | of {name : List Char} (between : List Char) {sign : Char}
      (continues : ∀ letter ∈ name, continuesName letter = true) (signed : sign = '+' ∨ sign = '-') :
      Incremented (name ++ between) (name ++ [' ', sign, '=', ' ', '1'])

theorem Incremented.tame {part letters : List Char} (incremented : Incremented part letters) :
    letters ≠ [] ∧ Calm letters := by
  obtain ⟨between, continues, signed⟩ := incremented
  rename_i name sign
  refine ⟨by simp, fun letter member => ?_⟩
  rcases List.mem_append.mp member with named | last
  · exact calm_of_continues (continues letter named)
  · have calm : Calm [' ', sign, '=', ' ', '1'] := by
      rcases signed with rfl | rfl <;> simp [Calm, Text.isMark]
    exact calm letter last

theorem incremented_at {text after : List Char} {sign : Char} (signed : sign = '+' ∨ sign = '-')
    (signs : (text.dropWhile continuesName).dropWhile Text.isBlank = sign :: sign :: after) :
    0 < text.length - after.length ∧
      Incremented (text.take (text.length - after.length))
        (text.takeWhile continuesName ++ [' ', sign, '=', ' ', '1']) := by
  let name := text.takeWhile continuesName
  let between := (text.dropWhile continuesName).takeWhile Text.isBlank ++ [sign, sign]
  have whole : name ++ between ++ after = text := by
    have blanks := List.takeWhile_append_dropWhile (p := Text.isBlank) (l := text.dropWhile continuesName)
    have parts := List.takeWhile_append_dropWhile (p := continuesName) (l := text)
    rw [signs] at blanks
    simp only [name, between, List.append_assoc, List.cons_append, List.nil_append, blanks, parts]
  have count : text.length - after.length = (name ++ between).length := by
    rw [← whole, List.length_append, Nat.add_sub_cancel]
  have taken : text.take (text.length - after.length) = name ++ between := by
    rw [count, ← whole, List.take_left]
  constructor
  · simp only [count, between, List.length_append, List.length_cons]
    omega
  · rw [taken]
    exact .of between (List.all_eq_true.mp List.all_takeWhile) signed

theorem increment_at_iff {text name : List Char} {sign : Char} {count : Nat} :
    incrementAt? text = some (name, sign, count) ↔
      text.head?.any beginsName = true ∧ name = text.takeWhile continuesName ∧
      ∃ after, (sign = '+' ∨ sign = '-') ∧
        Text.trimStart (text.dropWhile continuesName) = sign :: sign :: after ∧
        count = text.length - after.length := by
  cases text with
  | nil => simp [incrementAt?]
  | cons first rest =>
      simp only [incrementAt?, List.head?_cons, Option.any_some, Text.trimStart]
      split
      · rename_i begins
        constructor
        · intro found
          split at found
          · rename_i after signs
            cases found
            exact ⟨begins, rfl, after, .inl rfl, signs, rfl⟩
          · rename_i after signs
            cases found
            exact ⟨begins, rfl, after, .inr rfl, signs, rfl⟩
          · cases found
        · rintro ⟨-, rfl, after, rfl | rfl, signs, rfl⟩ <;> simp only [signs]
      · rename_i other
        exact iff_of_false (by simp) fun found => other found.1

theorem incremented_of_found {text name : List Char} {sign : Char} {count : Nat}
    (found : incrementAt? text = some (name, sign, count)) :
    0 < count ∧ Incremented (text.take count) (name ++ [' ', sign, '=', ' ', '1']) := by
  obtain ⟨-, rfl, after, signed, signs, rfl⟩ := increment_at_iff.mp found
  exact incremented_at signed signs

theorem assignment_at_some {text letters : List Char} {count : Nat}
    (found : assignmentAt? text = some (letters, count)) :
    ∃ name sign, incrementAt? text = some (name, sign, count) ∧ letters = name ++ [' ', sign, '=', ' ', '1'] := by
  obtain ⟨⟨name, sign, taken⟩, here, same⟩ := Option.map_eq_some_iff.mp found
  cases same
  exact ⟨name, sign, here, rfl⟩

theorem fits_assignment : Text.Fits assignmentAt? := by
  intro text letters count found
  obtain ⟨name, sign, here, -⟩ := assignment_at_some found
  obtain ⟨-, -, after, -, -, length⟩ := increment_at_iff.mp here
  exact ⟨(incremented_of_found here).1, by omega⟩

theorem rewritten_increments (text : List Char) : Rewritten Incremented text (writeIncrements text) := by
  refine rewritten_of_reads fits_assignment (fun text letters count found => ?_) text
  obtain ⟨name, sign, here, rfl⟩ := assignment_at_some found
  exact (incremented_of_found here).2

theorem quiet_plain_code {after : Option Char} {code : List Char} (quiet : Quiet after code) :
    Quiet after (plainCode code) := by
  have equal : ∀ part letters : List Char, letters = ['=', '='] → letters ≠ [] ∧ Calm letters := by
    rintro part letters rfl
    simp [Calm, Text.isMark]
  have unequal : ∀ part letters : List Char, letters = ['!', '='] → letters ≠ [] ∧ Calm letters := by
    rintro part letters rfl
    simp [Calm, Text.isMark]
  have first := (rewritten_replace ['=', '=', '='] ['=', '='] code).quiet equal quiet
  have second := (rewritten_replace ['!', '=', '='] ['!', '='] _).quiet unequal first
  exact (rewritten_increments _).quiet (fun _ _ => Incremented.tame) second

theorem plain_code_line_feed (code : List Char) : plainCode ('\n' :: code) = '\n' :: plainCode code := by
  have unnamed (rest : List Char) : assignmentAt? ('\n' :: rest) = none := rfl
  rw [plainCode, Text.replace_other (by decide), Text.replace_other (by decide), writeIncrements,
    Text.rewrite_plain (unnamed _)]
  rfl

theorem segments_of_code (letters text : List Char) :
    ∃ more later, segments (.code letters) text = .code (letters.reverse ++ more) :: later ∧
      segments (.code []) text = .code more :: later := by
  induction text generalizing letters with
  | nil => exact ⟨[], [], by simp [segments], rfl⟩
  | cons letter rest induction =>
      rw [segments_cons, segments_cons]
      simp only [advance]
      repeat' split
      · exact ⟨[], segments (.quoted letter false [letter]) rest, by simp, rfl⟩
      · exact ⟨[], segments (.comment [letter]) rest, by simp, rfl⟩
      · obtain ⟨more, later, whole, short⟩ := induction (letter :: letters)
        obtain ⟨other, others, single, again⟩ := induction [letter]
        rw [short] at again
        cases again
        exact ⟨letter :: more, later, by simp [whole], by simp [single]⟩

/-- Cutting the plain text again gives what cutting the script gave. -/
def CutAgain (source : List Char) : Mode → Prop
  | .code letters => Quiet source.head? letters.reverse →
      outline (.code []) ((segments (.code letters) source).flatMap Segment.plain) =
        outline (.code []) source
  | .quoted mark escaped letters =>
      ∃ rest, (segments (.quoted mark escaped letters) source).flatMap Segment.plain =
          letters.reverse ++ rest ∧
        outline (.quoted mark escaped letters) rest = outline (.quoted mark escaped letters) source
  | .comment letters =>
      ∃ rest, (segments (.comment letters) source).flatMap Segment.plain = letters.reverse ++ rest ∧
        rest.head? = source.head? ∧
        outline (.comment letters) rest = outline (.comment letters) source

theorem CutAgain.handed_on {mark letter : Char} {escaped next : Bool} {letters rest : List Char}
    (handed : ∀ text, segments (.quoted mark escaped letters) (letter :: text) =
      segments (.quoted mark next (letter :: letters)) text)
    (later : CutAgain rest (.quoted mark next (letter :: letters))) :
    CutAgain (letter :: rest) (.quoted mark escaped letters) := by
  obtain ⟨again, flat, same⟩ := later
  refine ⟨letter :: again, ?_, ?_⟩
  · rw [handed, flat]
    simp
  · simpa only [outline, handed] using same

variable {letter : Char} {rest : List Char}

theorem CutAgain.in_code (later : ∀ mode, CutAgain rest mode) (letters : List Char) :
    CutAgain (letter :: rest) (.code letters) := by
  intro quiet
  have plain := quiet_plain_code quiet
  rw [segments]
  split
  · -- The code so far is over; made plain it is still quiet, so a second cut comes to the same mark.
    rename_i marked
    obtain ⟨again, flat, same⟩ := later (.quoted letter false [letter])
    rw [List.flatMap_cons, flat]
    refine (outline_of_quiet [] (letter :: again) plain).trans ?_
    simp only [outline, segments, marked, if_true, List.map_cons] at same ⊢
    rw [same]
  · rename_i unmarked
    split
    · rename_i slashes
      obtain ⟨again, flat, ahead, same⟩ := later (.comment [letter])
      rw [List.flatMap_cons, flat]
      refine (outline_of_quiet [] (letter :: again) plain).trans ?_
      simp only [outline, segments, if_neg unmarked, ahead, if_pos slashes, List.map_cons] at same ⊢
      rw [same]
    · rename_i single
      have longer : Quiet rest.head? (letter :: letters).reverse := by
        rw [List.reverse_cons, quiet_append]
        refine ⟨quiet, by simpa using unmarked, fun slash next => single ?_, trivial⟩
        have second : rest.head? = some '/' := by simpa using next
        simp [slash, second]
      rw [later (.code (letter :: letters)) longer, ← outline_of_code [letter] rest]
      unfold outline
      rw [segments, if_neg unmarked, if_neg single]

theorem CutAgain.closed {mark : Char} {escaped : Bool} {letters : List Char}
    (ended : ∀ text, segments (.quoted mark escaped letters) (letter :: text) =
      .quoted (letter :: letters).reverse :: segments (.code []) text)
    (later : CutAgain rest (.code [])) : CutAgain (letter :: rest) (.quoted mark escaped letters) := by
  have same := later trivial
  refine ⟨letter :: (segments (.code []) rest).flatMap Segment.plain, ?_, ?_⟩
  · rw [ended]
    simp [Segment.plain]
  · simp only [outline, ended, List.map_cons] at same ⊢
    rw [same]

theorem CutAgain.in_quotes (later : ∀ mode, CutAgain rest mode) (mark : Char) (escaped : Bool)
    (letters : List Char) : CutAgain (letter :: rest) (.quoted mark escaped letters) := by
  cases escaped with
  | true =>
      apply CutAgain.handed_on _ (later (.quoted mark false (letter :: letters)))
      simp [segments]
  | false =>
      by_cases backslash : letter = '\\'
      · apply CutAgain.handed_on _ (later (.quoted mark true (letter :: letters)))
        simp [segments, backslash]
      · by_cases closing : letter = mark
        · apply CutAgain.closed _ (later (.code []))
          simp [segments, closing, closing ▸ backslash]
        · apply CutAgain.handed_on _ (later (.quoted mark false (letter :: letters)))
          simp [segments, backslash, closing]

theorem CutAgain.in_comment (later : ∀ mode, CutAgain rest mode) (letters : List Char) :
    CutAgain (letter :: rest) (.comment letters) := by
  by_cases ended : letter = '\n'
  · subst ended
    obtain ⟨more, parts, whole, -⟩ := segments_of_code ['\n'] rest
    have flat : (segments (.code ['\n']) rest).flatMap Segment.plain =
        '\n' :: (plainCode more ++ parts.flatMap Segment.plain) := by
      rw [whole, List.flatMap_cons]
      exact congrArg (· ++ _) (plain_code_line_feed more)
    have same := later (.code ['\n']) (quiet_line_feed rest.head?)
    rw [flat, outline_code_line_feed] at same
    refine ⟨'\n' :: (plainCode more ++ parts.flatMap Segment.plain), ?_, rfl, ?_⟩
    · rw [segments, if_pos rfl, List.flatMap_cons, flat]
      rfl
    · rw [outline_comment_line_feed, outline_comment_line_feed, same]
  · obtain ⟨again, flat, -, same⟩ := later (.comment (letter :: letters))
    refine ⟨letter :: again, ?_, rfl, ?_⟩
    · rw [segments, if_neg ended, flat]
      simp
    · simpa only [outline, segments, if_neg ended] using same

theorem cut_again (source : List Char) (mode : Mode) : CutAgain source mode := by
  induction source generalizing mode with
  | nil =>
      cases mode with
      | code letters =>
          intro quiet
          have plain := outline_of_quiet [] [] (quiet_plain_code quiet)
          simpa [segments, Segment.plain] using plain
      | quoted mark escaped letters => exact ⟨[], by simp [segments, Segment.plain], rfl⟩
      | comment letters => exact ⟨[], by simp [segments, Segment.plain], rfl, rfl⟩
  | cons letter rest induction =>
      cases mode with
      | code letters => exact .in_code induction letters
      | quoted mark escaped letters => exact .in_quotes induction mark escaped letters
      | comment letters => exact .in_comment induction letters

theorem outline_plain_text (source : List Char) :
    outline (.code []) (plainText source) = outline (.code []) source :=
  cut_again source (.code []) trivial

end Narrative.Script.Normal
