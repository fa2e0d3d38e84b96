import Narrative.Elementary
import Narrative.Json.Reader
import Narrative.Json.Writer

/-!
# Tokens in written texts

How the scanner takes up what the writer puts down: marks, words, quoted texts and numbers, each with
anything behind it. A number is the only token whose end is seen one letter late, so what follows it
must not go on like a number.
-/

namespace Narrative.Json

set_option autoImplicit false

/-- The tokens of a text, put behind tokens found before it. -/
def tokensFrom? (found : List Token) (text : List Char) : Option (List Token) :=
  (Scan.run? ⟨.between, found⟩ text).bind Scan.finish?

theorem tokens_from_nil (text : List Char) : tokens? text = tokensFrom? [] text := rfl

theorem Scan.run_append (scan : Scan) (first second : List Char) :
    Scan.run? scan (first ++ second) = (Scan.run? scan first).bind fun next => next.run? second := by
  induction first generalizing scan with
  | nil => rfl
  | cons letter rest ih =>
      cases next : scan.step? letter with
      | none => simp [Scan.run?, next]
      | some after => simp [Scan.run?, next, ih]

/-- What comes next does not go on like a number. -/
def Breaks (rest : List Char) : Prop :=
  ∀ letter later, rest = letter :: later → isFigureLetter letter = false

theorem breaks_nil : Breaks [] := by
  intro letter later same
  simp at same

theorem breaks_cons {letter : Char} {later : List Char} (other : isFigureLetter letter = false) :
    Breaks (letter :: later) := by
  intro first rest same
  obtain ⟨rfl, -⟩ := List.cons.inj same
  exact other

theorem tokens_from_space {letter : Char} (space : isSpace letter = true) (found : List Token)
    (rest : List Char) : tokensFrom? found (letter :: rest) = tokensFrom? found rest := by
  simp [tokensFrom?, Scan.run?, Scan.step?, Scan.fresh?, space]

theorem tokens_from_null (found : List Token) (rest : List Char) :
    tokensFrom? found (['n', 'u', 'l', 'l'] ++ rest) = tokensFrom? (.null :: found) rest := rfl

theorem tokens_from_true (found : List Token) (rest : List Char) :
    tokensFrom? found (['t', 'r', 'u', 'e'] ++ rest) =
      tokensFrom? (.boolean true :: found) rest := rfl

theorem tokens_from_false (found : List Token) (rest : List Char) :
    tokensFrom? found (['f', 'a', 'l', 's', 'e'] ++ rest) =
      tokensFrom? (.boolean false :: found) rest := rfl

theorem hexadecimal_value (digit : Nat) (bound : digit < 16) :
    hexadecimalValue? (hexadecimal digit) = some digit := by
  have all : ∀ small < 16, hexadecimalValue? (hexadecimal small) = some small := by decide
  exact all digit bound

/-- A quoted text in progress whose letters all stood for characters. -/
def quotedSoFar (letters : List Char) (found : List Token) : Scan :=
  ⟨.quoted ⟨letters, true, none⟩, found⟩

theorem run_escape {letter meant : Char} (escape : escaped? letter = some meant)
    (plain : letter ≠ 'u') (letters : List Char) (found : List Token) :
    Scan.run? (quotedSoFar letters found) ['\\', letter] =
      some (quotedSoFar (meant :: letters) found) := by
  simp [quotedSoFar, Scan.run?, Scan.step?, escape, plain, Quoted.push]

/-- A letter without a sign of its own is written by its code, which has two digits. -/
theorem run_code {letter : Char} (low : letter.toNat < 0x20) (letters : List Char)
    (found : List Token) :
    Scan.run? (quotedSoFar letters found)
      ['\\', 'u', '0', '0', hexadecimal (letter.toNat / 16), hexadecimal (letter.toNat % 16)] =
      some (quotedSoFar (letter :: letters) found) := by
  have high := hexadecimal_value (letter.toNat / 16) (by omega)
  have rest := hexadecimal_value (letter.toNat % 16) (by omega)
  have zero : hexadecimalValue? '0' = some 0 := rfl
  have code : letter.toNat / 16 * 16 + letter.toNat % 16 = letter.toNat := by omega
  have notHigh : ¬0xD800 ≤ letter.toNat := by omega
  have notLow : ¬0xDC00 ≤ letter.toNat := by omega
  simp [quotedSoFar, Scan.run?, Scan.step?, high, rest, zero, code, Quoted.pushUnit, notHigh,
    notLow]

/-- The letters that have a sign of their own after a backslash. -/
def signs : List Char :=
  ['\x22', '\\', '\x08', '\x0c', '\n', '\r', '\t']

theorem escape_of_sign {letter : Char} (sign : letter ∈ signs) :
    ∃ short, escapedLetter letter = ['\\', short] ∧ escaped? short = some letter ∧ short ≠ 'u' := by
  simp only [signs, List.mem_cons, List.not_mem_nil, or_false] at sign
  rcases sign with rfl | rfl | rfl | rfl | rfl | rfl | rfl <;>
    exact ⟨_, rfl, rfl, by decide⟩

theorem run_escaped_letter (letter : Char) (letters : List Char) (found : List Token) :
    Scan.run? (quotedSoFar letters found) (escapedLetter letter) =
      some (quotedSoFar (letter :: letters) found) := by
  by_cases sign : letter ∈ signs
  · obtain ⟨short, written, escape, plain⟩ := escape_of_sign sign
    rw [written]
    exact run_escape escape plain letters found
  · simp only [signs, List.mem_cons, List.not_mem_nil, or_false, not_or] at sign
    by_cases low : letter.toNat < 0x20
    · simpa [escapedLetter, sign, low] using run_code low letters found
    · simp [escapedLetter, sign, low, quotedSoFar, Scan.run?, Scan.step?, Quoted.push]

theorem run_escaped_letters (text letters : List Char) (found : List Token) :
    Scan.run? (quotedSoFar letters found) (text.flatMap escapedLetter) =
      some (quotedSoFar (text.reverse ++ letters) found) := by
  induction text generalizing letters with
  | nil => rfl
  | cons letter rest ih =>
      rw [List.flatMap_cons, Scan.run_append, run_escaped_letter, Option.bind_some, ih]
      simp

theorem tokens_from_quote (text : String) (found : List Token) (rest : List Char) :
    tokensFrom? found (quote text.toList ++ rest) =
      tokensFrom? (.text (some text) :: found) rest := by
  have opened : Scan.run? ⟨.between, found⟩ ['\x22'] = some (quotedSoFar [] found) := rfl
  have closed : Scan.run? (quotedSoFar (text.toList.reverse ++ []) found) ['\x22'] =
      some ⟨.between, .text (some text) :: found⟩ := by
    simp [quotedSoFar, Scan.run?, Scan.step?, Quoted.close]
  have split : quote text.toList ++ rest =
      ['\x22'] ++ (text.toList.flatMap escapedLetter ++ (['\x22'] ++ rest)) := by simp [quote]
  rw [tokensFrom?, split, Scan.run_append, opened, Option.bind_some, Scan.run_append,
    run_escaped_letters, Option.bind_some, Scan.run_append, closed, Option.bind_some, tokensFrom?]

theorem figure_of_digit {letter : Char} (digit : letter.isDigit = true) :
    isFigureLetter letter = true := by
  simp [isFigureLetter, digit]

theorem ne_of_digit {letter : Char} (digit : letter.isDigit = true) (other : Char)
    (foreign : other.isDigit = false) : letter ≠ other := by
  rintro rfl
  rw [digit] at foreign
  cases foreign

theorem digits_of_natural {letters : List Char} {number : Nat}
    (read : Number.naturalOf? letters = some number) :
    ∀ letter ∈ letters, letter.isDigit = true := by
  unfold Number.naturalOf? at read
  split at read
  · simp at read
  · rename_i allowed
    have digits : ¬letters = [] ∧ ∀ letter ∈ letters, letter.isDigit = true := by
      simpa using allowed
    exact digits.2

/-- All that the sign of a number takes is a minus or a plus. -/
theorem mem_take_sign {letters : List Char} {letter : Char} (member : letter ∈ letters) :
    letter = '-' ∨ letter = '+' ∨ letter ∈ (Number.takeSign letters).2 := by
  unfold Number.takeSign
  split
  · rcases List.mem_cons.mp member with same | later
    · exact Or.inl same
    · exact Or.inr (Or.inr later)
  · rcases List.mem_cons.mp member with same | later
    · exact Or.inr (Or.inl same)
    · exact Or.inr (Or.inr later)
  · exact Or.inr (Or.inr member)

theorem figures_of_exponent {letters : List Char} {exponent : Option (Bool × List Char)}
    (read : Figure.exponentPart? letters = some exponent) :
    ∀ letter ∈ letters, isFigureLetter letter = true := by
  cases letters with
  | nil => simp
  | cons first rest =>
      by_cases mark : first = 'e' ∨ first = 'E'
      · obtain ⟨number, natural, -⟩ : ∃ number,
            Number.naturalOf? (Number.takeSign rest).2 = some number ∧
              some (Number.takeSign rest) = exponent := by
          simpa [Figure.exponentPart?, mark] using read
        intro letter member
        rcases List.mem_cons.mp member with same | later
        · rcases mark with small | large
          · simp [isFigureLetter, same, small]
          · simp [isFigureLetter, same, large]
        · rcases mem_take_sign later with minus | plus | digit
          · simp [isFigureLetter, minus]
          · simp [isFigureLetter, plus]
          · exact figure_of_digit (digits_of_natural natural letter digit)
      · simp [Figure.exponentPart?, mark] at read

/-- An unsigned number begins with a digit and goes on with letters of numbers. -/
structure Unsigned (letters : List Char) : Prop where
  first : ∃ digit later, letters = digit :: later ∧ digit.isDigit = true
  figures : ∀ letter ∈ letters, isFigureLetter letter = true

theorem first_of_whole_part {letters : List Char}
    (whole : Figure.isWholePart (letters.takeWhile Char.isDigit) = true) :
    ∃ digit later, letters = digit :: later ∧ digit.isDigit = true := by
  cases letters with
  | nil => simp [Figure.isWholePart] at whole
  | cons first rest =>
      cases digit : first.isDigit with
      | true => exact ⟨first, rest, rfl, digit⟩
      | false => simp [digit, Figure.isWholePart] at whole

theorem unsigned_of_tail {letters : List Char}
    (whole : Figure.isWholePart (letters.takeWhile Char.isDigit) = true)
    (tail : ∀ letter ∈ letters.dropWhile Char.isDigit, isFigureLetter letter = true) :
    Unsigned letters := by
  refine ⟨first_of_whole_part whole, ?_⟩
  intro letter member
  rcases mem_drop_while member with digit | later
  · exact figure_of_digit digit
  · exact tail letter later

theorem unsigned_of_spelling {negative : Bool} {letters : List Char} {spelling : Figure.Spelling}
    (read : Figure.unsignedSpelling? negative letters = some spelling) : Unsigned letters := by
  unfold Figure.unsignedSpelling? at read
  by_cases whole : Figure.isWholePart (letters.takeWhile Char.isDigit) = true
  · apply unsigned_of_tail whole
    simp only [whole, Bool.not_true, Bool.false_eq_true, if_false] at read
    split at read
    · rename_i rest pointed
      rw [pointed]
      split at read
      · simp at read
      · obtain ⟨exponent, part, -⟩ := Option.map_eq_some_iff.mp read
        intro letter member
        rcases List.mem_cons.mp member with point | later
        · simp [isFigureLetter, point]
        · rcases mem_drop_while later with digit | last
          · exact figure_of_digit digit
          · exact figures_of_exponent part letter last
    · obtain ⟨exponent, part, -⟩ := Option.map_eq_some_iff.mp read
      exact figures_of_exponent part
  · simp [whole] at read

/-- The letters of a number are letters of numbers, and the first one is none of any other token. -/
theorem figure_of_spelling {letters : List Char} {spelling : Figure.Spelling}
    (read : Figure.spelling? letters = some spelling) :
    ∃ first later, letters = first :: later ∧ (first.isDigit = true ∨ first = '-') ∧
      ∀ letter ∈ letters, isFigureLetter letter = true := by
  unfold Figure.spelling? at read
  split at read
  · rename_i rest
    refine ⟨'-', rest, rfl, Or.inr rfl, ?_⟩
    intro letter member
    rcases List.mem_cons.mp member with minus | later
    · simp [isFigureLetter, minus]
    · exact (unsigned_of_spelling read).figures letter later
  · obtain ⟨digit, later, split, isDigit⟩ := (unsigned_of_spelling read).first
    exact ⟨digit, later, split, Or.inl isDigit, (unsigned_of_spelling read).figures⟩

theorem fresh_figure {first : Char} (opening : first.isDigit = true ∨ first = '-')
    (found : List Token) : Scan.fresh? found first = some ⟨.figure [first], found⟩ := by
  rcases opening with digit | minus
  · have apart := ne_of_digit digit
    have solid : isSpace first = false := by
      simp [isSpace, apart ' ' rfl, apart '\n' rfl, apart '\t' rfl, apart '\r' rfl]
    have unmarked : mark? first = none := by
      simp [mark?, apart '[' rfl, apart ']' rfl, apart '{' rfl, apart '}' rfl, apart ',' rfl,
        apart ':' rfl]
    simp [Scan.fresh?, solid, unmarked, digit, apart '\x22' rfl, apart 'n' rfl, apart 't' rfl,
      apart 'f' rfl]
  · subst minus
    rfl

theorem run_figures {letters : List Char}
    (figures : ∀ letter ∈ letters, isFigureLetter letter = true) (before : List Char)
    (found : List Token) :
    Scan.run? ⟨.figure before, found⟩ letters =
      some ⟨.figure (letters.reverse ++ before), found⟩ := by
  induction letters generalizing before with
  | nil => rfl
  | cons first rest ih =>
      have own := figures first (by simp)
      have others := ih (by intro letter member; exact figures letter (by simp [member]))
        (first :: before)
      simpa [Scan.run?, Scan.step?, own] using others

/-- At the end of its letters a number is as good as found. -/
theorem finish_figure {letters : List Char} {token : Token}
    (read : Scan.figureToken? letters = some token) (found : List Token) {rest : List Char}
    (breaks : Breaks rest) :
    (Scan.run? ⟨.figure letters, found⟩ rest).bind Scan.finish? =
      tokensFrom? (token :: found) rest := by
  cases rest with
  | nil => simp [Scan.run?, Scan.finish?, tokensFrom?, read]
  | cons next later =>
      have other := breaks next later rfl
      have step : Scan.step? ⟨.figure letters, found⟩ next =
          Scan.step? ⟨.between, token :: found⟩ next := by
        simp [Scan.step?, other, read]
      simp only [tokensFrom?, Scan.run?, step]

theorem tokens_from_figure {letters : List Char} {spelling : Figure.Spelling}
    (read : Figure.spelling? letters = some spelling) (found : List Token) {rest : List Char}
    (breaks : Breaks rest) :
    tokensFrom? found (letters ++ rest) =
      tokensFrom? (.number spelling.value? :: found) rest := by
  obtain ⟨first, later, split, opening, figures⟩ := figure_of_spelling read
  have token : Scan.figureToken? letters.reverse = some (.number spelling.value?) := by
    simp [Scan.figureToken?, read]
  have run : Scan.run? ⟨.between, found⟩ letters = some ⟨.figure letters.reverse, found⟩ := by
    have tail := run_figures
      (by intro letter member; exact figures letter (by simp [split, member]) :
        ∀ letter ∈ later, isFigureLetter letter = true) [first] found
    simpa [split, Scan.run?, Scan.step?, fresh_figure opening found] using tail
  rw [tokensFrom?, Scan.run_append, run, Option.bind_some]
  exact finish_figure token found breaks

end Narrative.Json
