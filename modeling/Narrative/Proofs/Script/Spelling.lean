import Narrative.Elementary
import Narrative.Proofs.Script.Parsing
import Narrative.Proofs.Script.Quotes

/-!
# Names in the text of a script

The names among the tokens of a script are read from its normal form. Main fact: each of them stands in
the text of the author, since no rewriting puts letters together to a word that was not there before.
-/

namespace Narrative.Script

set_option autoImplicit false

theorem Token.continues_of_begins {letter : Char} (begins : Token.beginsName letter = true) :
    Token.continuesName letter = true := by
  rw [Token.beginsName, Bool.or_eq_true] at begins
  rw [Token.continuesName, Char.isAlphanum, Bool.or_eq_true, Bool.or_eq_true]
  exact begins.imp_left .inl

/-- A word as the script language has them. -/
structure IsWord (word : List Char) : Prop where
  begun : word.head?.any Token.beginsName = true
  continued : ∀ letter ∈ word, Token.continuesName letter = true

/-- Letters that no word reaches into. -/
structure IsGap (letters : List Char) : Prop where
  apart : letters.head?.any (fun letter => !Token.continuesName letter) = true
  wordless : letters.any Token.beginsName = false

/-- What stands in `written` as a word stands in `text`, whatever surrounds them. -/
def AddsNoWord (text written : List Char) : Prop :=
  ∀ word, IsWord word → ∀ before after, word <:+: before ++ written ++ after → word <:+: before ++ text ++ after

/-! ## Words around gaps -/

theorem IsWord.exists_cons {word : List Char} (isWord : IsWord word) :
    ∃ first rest, word = first :: rest ∧ Token.beginsName first = true := by
  cases word with
  | nil => cases isWord.begun
  | cons first rest => exact ⟨first, rest, rfl, isWord.begun⟩

theorem absent_of_not_continues {word : List Char} (isWord : IsWord word) {letter : Char}
    (apart : Token.continuesName letter = false) : letter ∉ word := by
  intro member
  rw [isWord.continued letter member] at apart
  cases apart

/-- A word begins behind letters that begin none. -/
theorem IsWord.infix_behind {word letters after : List Char} (isWord : IsWord word)
    (wordless : letters.any Token.beginsName = false) (stands : word <:+: letters ++ after) :
    word <:+: after := by
  induction letters with
  | nil => exact stands
  | cons letter letters induction =>
      rw [List.any_cons, Bool.or_eq_false_iff] at wordless
      rcases List.infix_cons_iff.mp stands with begun | later
      · obtain ⟨first, rest, rfl, begins⟩ := isWord.exists_cons
        obtain ⟨rfl, -⟩ := List.cons_prefix_cons.mp begun
        rw [wordless.1] at begins
        cases begins
      · exact induction wordless.2 later

theorem IsGap.infix_beside {gap word before after : List Char} (isGap : IsGap gap) (isWord : IsWord word)
    (stands : word <:+: before ++ gap ++ after) : word <:+: before ∨ word <:+: after := by
  obtain ⟨apart, wordless⟩ := isGap
  cases gap with
  | nil => cases apart
  | cons letter gap =>
      obtain ⟨first, rest, rfl, -⟩ := isWord.exists_cons
      have absent : letter ∉ first :: rest := absent_of_not_continues isWord (by simpa using apart)
      rw [List.append_assoc, List.cons_append] at stands
      rw [List.any_cons, Bool.or_eq_false_iff] at wordless
      exact (Narrative.infix_beside (by simp) absent stands).imp_right (isWord.infix_behind wordless.2)

namespace AddsNoWord

theorem refl (text : List Char) : AddsNoWord text text :=
  fun _ _ _ _ stands => stands

theorem trans {text middle written : List Char} (first : AddsNoWord text middle)
    (second : AddsNoWord middle written) : AddsNoWord text written :=
  fun word isWord before after stands =>
    first word isWord before after (second word isWord before after stands)

theorem append {text written text' written' : List Char} (first : AddsNoWord text written)
    (second : AddsNoWord text' written') : AddsNoWord (text ++ text') (written ++ written') := by
  intro word isWord before after stands
  have front := first word isWord before (written' ++ after) (by simpa using stands)
  have back := second word isWord (before ++ text) after (by simpa using front)
  simpa using back

/-- What stands around a gap stands around anything else in its place. -/
theorem of_gap (part : List Char) {gap : List Char} (isGap : IsGap gap) : AddsNoWord part gap := by
  intro word isWord before after stands
  rcases isGap.infix_beside isWord stands with earlier | later
  · exact earlier.trans (by rw [List.append_assoc]; exact (List.prefix_append _ _).isInfix)
  · exact later.trans (List.suffix_append _ _).isInfix

theorem of_rewritten {put : List Char → List Char → Prop} {text written : List Char}
    (rewritten : Normal.Rewritten put text written)
    (each : ∀ part letters, put part letters → AddsNoWord part letters) : AddsNoWord text written := by
  induction rewritten with
  | done => exact .refl []
  | letter letter later induction => exact (refl [letter]).append induction
  | part here later induction => exact (each _ _ here).append induction

theorem stands {text written word : List Char} (adds : AddsNoWord text written) (isWord : IsWord word)
    (stands : word <:+: written) : word <:+: text := by
  simpa using adds word isWord [] [] (by simpa using stands)

end AddsNoWord

/-! ## The normal form -/

namespace Normal

theorem increment_adds_no_word {part letters : List Char} (incremented : Incremented part letters) :
    AddsNoWord part letters := by
  obtain ⟨between, -, signed⟩ := incremented
  rename_i name sign
  have gap : IsGap [' ', sign, '=', ' ', '1'] := by
    rcases signed with rfl | rfl <;> exact ⟨by decide, by decide⟩
  exact (AddsNoWord.refl name).append (.of_gap between gap)

theorem plain_code_adds_no_word (code : List Char) : AddsNoWord code (plainCode code) := by
  have replaced (word replacement : List Char) (gap : IsGap replacement) (text : List Char) :
      AddsNoWord text (Text.replace word replacement text) := by
    apply AddsNoWord.of_rewritten (rewritten_replace word replacement text)
    rintro part letters rfl
    exact .of_gap part gap
  have equal := replaced ['=', '=', '='] ['=', '='] ⟨by decide, by decide⟩ code
  have unequal := replaced ['!', '=', '='] ['!', '='] ⟨by decide, by decide⟩
    (Text.replace ['=', '=', '='] ['=', '='] code)
  refine (equal.trans unequal).trans (.of_rewritten (rewritten_increments _) ?_)
  exact fun _ _ => increment_adds_no_word

theorem plain_text_adds_no_word (source : List Char) : AddsNoWord source (plainText source) := by
  have parts (parts : List Segment) :
      AddsNoWord (parts.flatMap Segment.letters) (parts.flatMap Segment.plain) := by
    induction parts with
    | nil => exact .refl []
    | cons part parts induction =>
        rw [List.flatMap_cons, List.flatMap_cons]
        refine AddsNoWord.append ?_ induction
        cases part with
        | code letters => exact plain_code_adds_no_word letters
        | quoted letters => exact .refl letters
        | comment letters => exact .refl letters
  have whole := parts (segments (.code []) source)
  rwa [segments_flat] at whole

theorem gap_before {ends : List Char} (each : ∀ letter ∈ ends, letter = ';' ∨ letter = ' ')
    {last : Char} (apart : Token.continuesName last = false) : IsGap (ends ++ [last]) := by
  have foreign : ∀ letter ∈ ends ++ [last], Token.continuesName letter = false := by
    intro letter member
    rcases List.mem_append.mp member with among | same
    · rcases each letter among with rfl | rfl <;> decide
    · rw [List.mem_singleton.mp same]
      exact apart
  constructor
  · cases ends with
    | nil => simpa using apart
    | cons first ends => simpa using foreign first (by simp)
  · rw [List.any_eq_false]
    intro letter member begins
    have continues := Token.continues_of_begins begins
    rw [foreign letter member] at continues
    cases continues

theorem exists_ended_line (line : List Char) (later : List (List Char)) :
    ∃ code between comment trailing extra, line = code ++ (between ++ (comment ++ trailing)) ∧
      endLine line later = code ++ (extra ++ comment) ∧ (∀ letter ∈ extra, letter = ';' ∨ letter = ' ') ∧
      (comment = [] ∨ ∃ text, comment = '/' :: '/' :: text) := by
  obtain ⟨extra, ends, written, -⟩ := exists_end_line line later
  obtain ⟨trailing, whole, -⟩ := Text.exists_blanks_end line
  obtain ⟨finished, next, cut⟩ := exists_cut_line none false [] (Text.trimEnd line)
  obtain ⟨between, code, -⟩ := Text.exists_blanks_end (lineParts (Text.trimEnd line)).1
  have parts : Text.trimEnd line = (lineParts (Text.trimEnd line)).1 ++ (lineParts (Text.trimEnd line)).2 :=
    cut.whole
  refine ⟨_, between, _, trailing, extra, ?_, written, ends, cut.comment.imp_right And.right⟩
  calc line = Text.trimEnd line ++ trailing := whole
    _ = (lineParts (Text.trimEnd line)).1 ++ (lineParts (Text.trimEnd line)).2 ++ trailing :=
        congrArg (· ++ trailing) parts
    _ = Text.trimEnd (lineParts (Text.trimEnd line)).1 ++ between ++ (lineParts (Text.trimEnd line)).2 ++
          trailing := congrArg (· ++ (lineParts (Text.trimEnd line)).2 ++ trailing) code
    _ = _ := by simp only [List.append_assoc]

/-- Blanks fall away before a line end or a comment only. -/
theorem end_line_adds_no_word (line ended : List Char) (later : List (List Char)) :
    AddsNoWord (line ++ ended) (endLine line later ++ ['\n']) := by
  obtain ⟨code, between, comment, trailing, extra, whole, written, ends, shape⟩ :=
    exists_ended_line line later
  have start := AddsNoWord.refl code
  rw [written, whole]
  rcases shape with rfl | ⟨text, rfl⟩
  · have lineEnd : AddsNoWord (between ++ (trailing ++ ended)) (extra ++ ['\n']) :=
      .of_gap _ (gap_before ends (by decide))
    simpa using start.append lineEnd
  · have opening : AddsNoWord (between ++ ['/']) (extra ++ ['/']) := .of_gap _ (gap_before ends (by decide))
    have lineEnd : AddsNoWord (trailing ++ ended) ['\n'] := .of_gap _ ⟨by decide, by decide⟩
    have comment := (AddsNoWord.refl ('/' :: text)).append lineEnd
    simpa using start.append (opening.append comment)

theorem end_lines_add_no_word (text current : List Char) :
    AddsNoWord (current.reverse ++ text) (endLines (Text.linesFrom current text)) := by
  induction text generalizing current with
  | nil =>
      rw [Text.linesFrom]
      split
      · rename_i empty
        rw [List.isEmpty_iff.mp empty]
        exact .refl []
      · exact end_line_adds_no_word current.reverse [] []
  | cons letter text induction =>
      by_cases feed : letter = '\n'
      · subst feed
        obtain ⟨line, lines, stripped⟩ := Text.exists_lines_line_feed current text
        obtain ⟨ended, whole⟩ : ∃ ended, current.reverse ++ '\n' :: text = line ++ ended ++ text := by
          rcases stripped with same | returned
          · exact ⟨['\n'], by simp [same]⟩
          · exact ⟨['\r', '\n'], by simp [returned]⟩
        have here := (end_line_adds_no_word line ended (Text.linesFrom [] text)).append (induction [])
        rw [whole, lines, endLines]
        simpa using here
      · have longer := induction (letter :: current)
        rw [List.reverse_cons, List.append_assoc] at longer
        simpa [Text.linesFrom, feed] using longer

end Normal

theorem normalize_adds_no_word (source : List Char) : AddsNoWord source (normalize source) :=
  (Normal.plain_text_adds_no_word source).trans (Normal.end_lines_add_no_word _ [])

/-! ## Tokens -/

namespace Token

open Narrative.Script.Parser

theorem quoted_suffix (mark : Char) (margin : Option Nat) (indent skip : Nat) (text : List Char) :
    Gives (fun parts => parts.2 <:+ text) (quoted? mark margin indent skip text) := by
  induction text generalizing indent skip with
  | nil => trivial
  | cons letter rest induction =>
      have later (indent skip : Nat) :
          Gives (fun parts => parts.2 <:+ letter :: rest) (quoted? mark margin indent skip rest) :=
        (induction indent skip).imp fun _ suffix => suffix.trans (List.suffix_cons letter rest)
      cases skip with
      | succ more => exact later (indent - 1) more
      | zero =>
          unfold quoted?
          dsimp only
          split
          · split
            · exact (later 0 1).mapped fun _ suffix => suffix
            · exact List.suffix_cons letter rest
          · split
            · split
              · exact (later _ _).mapped fun _ suffix => suffix
              · split
                · exact later _ 1
                · trivial
              · trivial
            · split
              · trivial
              · split
                · exact later (indent - 1) 0
                · exact (later 0 0).mapped fun _ suffix => suffix
          
theorem raw_part_suffix (skip : Nat) (text : List Char) :
    Gives (fun parts => parts.2.2 <:+ text) (rawPart? skip text) := by
  induction text generalizing skip with
  | nil => trivial
  | cons letter rest induction =>
      have later (skip : Nat) : Gives (fun parts => parts.2.2 <:+ letter :: rest) (rawPart? skip rest) :=
        (induction skip).imp fun _ suffix => suffix.trans (List.suffix_cons letter rest)
      cases skip with
      | succ more => exact later more
      | zero =>
          rw [rawPart?]
          split
          · split
            · exact (later 1).mapped fun _ suffix => suffix
            · exact List.suffix_cons letter rest
          · split
            · exact (List.drop_suffix 1 rest).trans (List.suffix_cons letter rest)
            · split
              · exact later 0
              · exact (later 0).mapped fun _ suffix => suffix

theorem after_opening_suffix (text : List Char) : afterOpening text <:+ text := by
  unfold afterOpening
  split
  · exact ⟨['\r', '\n'], rfl⟩
  · exact ⟨['\r'], rfl⟩
  · exact ⟨['\n'], rfl⟩
  · exact List.suffix_rfl

theorem after_comment_suffix (depth : Nat) (text : List Char) : afterComment depth text <:+ text := by
  fun_induction afterComment depth text with
  | case1 => exact List.suffix_rfl
  | case2 depth rest induction => exact induction.trans ⟨['/', '*'], rfl⟩
  | case3 rest => exact ⟨['*', '/'], rfl⟩
  | case4 rest outer induction => exact induction.trans ⟨['*', '/'], rfl⟩
  | case5 depth letter rest _ _ induction => exact induction.trans (List.suffix_cons letter rest)

theorem mark_suffix {text after : List Char} {mark : String} {allowed : Bool} {known : List (String × Bool)}
    (found : markAt? text known = some (mark, allowed, after)) : after <:+ text := by
  induction known with
  | nil => cases found
  | cons entry others induction =>
      obtain ⟨letters, free⟩ := entry
      rw [markAt?] at found
      split at found
      · rename_i rest here
        cases found
        exact ⟨_, (Text.append_of_after here).symm⟩
      · exact induction found

theorem not_in_suffix {text after : List Char} (found : notInAt? text = some after) : after <:+ text := by
  unfold notInAt? at found
  split at found
  · rename_i rest
    have same : rest = after := by
      split at found
      · exact Option.some.inj found
      · split at found
        · cases found
        · exact Option.some.inj found
    exact ⟨['!', 'i', 'n'], by rw [same]; rfl⟩
  · cases found

theorem figure_suffix (pointed powered : Bool) (skip : Nat) (text : List Char) :
    (figure pointed powered skip text).2 <:+ text := by
  fun_induction figure pointed powered skip text with
  | case1 => exact List.suffix_rfl
  | case2 pointed powered letter rest more induction => exact induction.trans (List.suffix_cons letter rest)
  | case3 pointed powered letter rest part found others induction =>
      exact induction.trans (List.suffix_cons letter rest)
  | case4 pointed powered letter rest none => exact List.suffix_rfl

theorem figure_unnamed (negative : Bool) (letters : List Char) :
    Gives (fun token => token.name? = none) (ofFigure? negative letters) := by
  have double (number : Option Float) : Gives (fun token => token.name? = none) (number.map real) := by
    cases number with
    | none => trivial
    | some number => exact rfl
  unfold ofFigure?
  split
  · dsimp only
    split
    · split
      · exact rfl
      · exact double _
    · split
      · exact rfl
      · exact double _
  · exact double _

theorem digits_unnamed (base : Nat) (letters : List Char) :
    Gives (fun token => token.name? = none) (ofDigits? base letters) := by
  unfold ofDigits?
  dsimp only
  split
  · trivial
  · split
    · exact rfl
    · exact rfl

theorem number_suffix (negative : Bool) (text : List Char) :
    Gives (fun parts => parts.1.name? = none ∧ parts.2 <:+ text) (numberAt? negative text) := by
  have decimal (text : List Char) : Gives (fun parts => parts.1.name? = none ∧ parts.2 <:+ text)
      ((ofFigure? negative (figure false false 0 text).1).map
        fun token => (token, (figure false false 0 text).2)) :=
    (figure_unnamed negative _).mapped fun _ unnamed => ⟨unnamed, figure_suffix false false 0 text⟩
  unfold numberAt?
  dsimp only
  split
  · rename_i after
    split
    · rename_i letter rest behind
      have digits : letter :: rest <:+ after := behind ▸ List.dropWhile_suffix _
      have tail := (List.suffix_cons letter rest).trans (digits.trans (List.suffix_cons '0' after))
      split
      · split
        · trivial
        · exact (digits_unnamed _ _).mapped fun _ unnamed => ⟨unnamed, (List.dropWhile_suffix _).trans tail⟩
      · exact decimal _
    · exact decimal _
  · exact decimal _

/-- Each name among tokens is a word of the text. -/
def Named (text : List Char) (tokens : List Token) : Prop :=
  ∀ name, .name name ∈ tokens → IsWord name.toList ∧ name.toList <:+: text

theorem Named.behind {text after : List Char} {tokens : List Token} (suffix : after <:+ text)
    (named : Named after tokens) : Named text tokens := by
  intro name member
  obtain ⟨isWord, stands⟩ := named name member
  exact ⟨isWord, stands.trans suffix.isInfix⟩

theorem Named.unnamed {text after : List Char} {token : Token} {tokens : List Token}
    (unnamed : token.name? = none) (suffix : after <:+ text) (named : Named after tokens) :
    Named text (token :: tokens) := by
  intro name member
  rcases List.mem_cons.mp member with rfl | later
  · cases unnamed
  · exact named.behind suffix name later

theorem Named.word {token : Token} {tokens : List Token} {letter : Char} {rest : List Char}
    (begins : beginsName letter = true)
    (word : ofWord? ((letter :: rest).takeWhile continuesName) = some token)
    (named : Named ((letter :: rest).dropWhile continuesName) tokens) :
    Named (letter :: rest) (token :: tokens) := by
  intro name member
  rcases List.mem_cons.mp member with rfl | later
  · have letters : name.toList = (letter :: rest).takeWhile continuesName := by
      unfold ofWord? at word
      dsimp only at word
      repeat' split at word
      all_goals cases word
      exact String.toList_ofList
    rw [letters]
    refine ⟨⟨?_, List.all_eq_true.mp List.all_takeWhile⟩, (List.takeWhile_prefix continuesName).isInfix⟩
    rw [List.takeWhile_cons, if_pos (continues_of_begins begins)]
    exact begins
  · exact named.behind (List.dropWhile_suffix continuesName) name later

/-- The tokens of a text are named in it, if they are read in so many rounds. -/
def ScansNamed (limit : Nat) (whole : List Char) (rounds : Nat) : Prop :=
  ∀ depths operand text, Gives (Named text) (scan limit whole rounds depths operand text)

section Round

variable {limit rounds : Nat} {whole text after : List Char} {token : Token}

theorem ScansNamed.skipped (scans : ScansNamed limit whole rounds) (suffix : after <:+ text)
    (depths : List Nat) (operand : Bool) :
    Gives (Named text) (scan limit whole rounds depths operand after) :=
  (scans depths operand after).imp fun _ => Named.behind suffix

theorem ScansNamed.emitted (scans : ScansNamed limit whole rounds) (unnamed : token.name? = none)
    (suffix : after <:+ text) (depths : List Nat) (operand : Bool) :
    Gives (Named text) ((scan limit whole rounds depths operand after).map (token :: ·)) :=
  (scans depths operand after).mapped fun _ => Named.unnamed unnamed suffix

theorem ScansNamed.limited (scans : ScansNamed limit whole rounds) (unnamed : token.name? = none)
    (suffix : after <:+ text) (letters : List Char) (depths : List Nat) (operand : Bool) :
    Gives (Named text)
      (if isTooLong limit letters then none
        else (scan limit whole rounds depths operand after).map (token :: ·)) := by
  split
  · trivial
  · exact scans.emitted unnamed suffix depths operand

theorem ScansNamed.round (scans : ScansNamed limit whole rounds) : ScansNamed limit whole (rounds + 1) := by
  intro depths operand text
  unfold scan
  dsimp only
  -- The cases of `scan` in its order; only a word can be a name, all else moves on to a suffix.
  split
  · split
    · exact nofun
    · trivial
  · rename_i rest
    exact scans.skipped ((List.dropWhile_suffix _).trans ⟨['/', '/'], rfl⟩) _ _
  · rename_i rest
    exact scans.skipped ((after_comment_suffix 0 rest).trans ⟨['/', '*'], rfl⟩) _ _
  · rename_i letter rest _ _
    have tail : rest <:+ letter :: rest := List.suffix_cons letter rest
    split
    · exact scans.skipped tail _ _
    split
    · split
      · rename_i found
        exact scans.limited rfl (((quoted_suffix _ _ _ _ _).of_found found).trans tail) _ _ _
      · trivial
    split
    · split
      · trivial
      split
      · rename_i found
        exact scans.emitted rfl (((quoted_suffix _ _ _ _ _).of_found found).trans tail) _ _
      · trivial
    split
    · have opened := (after_opening_suffix rest).trans tail
      split
      · rename_i found
        exact scans.limited rfl (((raw_part_suffix _ _).of_found found).trans opened) _ _ _
      · rename_i found
        exact scans.limited rfl (((raw_part_suffix _ _).of_found found).trans opened) _ _ _
      · trivial
    split
    · split
      · rename_i found
        obtain ⟨unnamed, behind⟩ := (number_suffix _ _).of_found found
        exact scans.emitted unnamed behind _ _
      · trivial
    split
    · split
      · rename_i found
        obtain ⟨unnamed, behind⟩ := (number_suffix _ _).of_found found
        exact scans.emitted unnamed (behind.trans tail) _ _
      · trivial
    split
    · rename_i begins
      split
      · rename_i word
        exact (scans _ _ _).mapped fun _ => Named.word begins word
      · trivial
    split
    · rename_i found
      exact scans.emitted rfl (not_in_suffix found) _ _
    split
    · -- The brace closes an inserted value, and the text around it goes on.
      rename_i closed
      have opened := mark_suffix closed
      split
      · rename_i found
        exact scans.limited rfl (((raw_part_suffix _ _).of_found found).trans opened) _ _ _
      · rename_i found
        exact scans.limited rfl (((raw_part_suffix _ _).of_found found).trans opened) _ _ _
      · trivial
    · rename_i found _
      split
      · trivial
      · exact scans.emitted rfl (mark_suffix found) _ _
    · trivial

end Round

theorem scans_named (limit : Nat) (whole : List Char) (rounds : Nat) : ScansNamed limit whole rounds := by
  induction rounds with
  | zero => exact fun _ _ _ => trivial
  | succ rounds induction => exact induction.round

end Token

/-- The names among the tokens of a script stand in it as its author wrote it. -/
theorem names_stand_in {limit : Nat} {source : List Char} {tokens : List Token}
    (read : tokens? limit (normalize source) = some tokens) {name : String}
    (member : .name name ∈ tokens) : name.toList <:+: source := by
  obtain ⟨isWord, stands⟩ := (Token.scans_named _ _ _ _ _ _).of_found read name member
  exact (normalize_adds_no_word source).stands isWord stands

end Narrative.Script
