import Narrative.Elementary

/-!
# Blanks

The white space characters of Unicode, and cutting them off the ends of a text. Main facts: trimming
stops at the first letter that is no blank (`trim_end_append`), and trimming an end first changes
nothing in the whole (`trim_trim_end`).
-/

namespace Narrative.Text

set_option autoImplicit false

/-- Characters with the Unicode property `White_Space`. -/
def isBlank (letter : Char) : Bool :=
  let code := letter.toNat
  (9 ≤ code && code ≤ 13) || code == 0x20 || code == 0x85 || code == 0xA0 || code == 0x1680 ||
    (0x2000 ≤ code && code ≤ 0x200A) || code == 0x2028 || code == 0x2029 || code == 0x202F ||
    code == 0x205F || code == 0x3000

theorem visible_of_alphanum {letter : Char} (alphanum : letter.isAlphanum = true) :
    isBlank letter = false := by
  have ranges : ((65 ≤ letter.toNat ∧ letter.toNat ≤ 90) ∨ (97 ≤ letter.toNat ∧ letter.toNat ≤ 122)) ∨
      (48 ≤ letter.toNat ∧ letter.toNat ≤ 57) := by
    obtain alpha | digit := Bool.or_eq_true_iff.mp alphanum
    · obtain upper | lower := Bool.or_eq_true_iff.mp alpha
      · exact .inl (.inl (of_decide_eq_true upper))
      · obtain ⟨low, high⟩ := Bool.and_eq_true_iff.mp lower
        exact .inl (.inr ⟨of_decide_eq_true low, of_decide_eq_true high⟩)
    · exact .inr (Char.isDigit_iff_toNat.mp digit)
  simp only [isBlank, Bool.or_eq_false_iff, Bool.and_eq_false_iff, beq_eq_false_iff_ne,
    decide_eq_false_iff_not]
  omega

/-- The text without the blanks it begins with. -/
def trimStart (text : List Char) : List Char :=
  text.dropWhile isBlank

/-- The text without the blanks it ends with. -/
def trimEnd (text : List Char) : List Char :=
  (text.reverse.dropWhile isBlank).reverse

/-- The text without the blanks at either end. -/
def trim (text : List Char) : List Char :=
  trimEnd (trimStart text)

/-- `trim` on strings. -/
def trimmed (text : String) : String :=
  String.ofList (trim text.toList)

/-- What a first blank does not change, no blanks at the beginning change. -/
theorem trim_start_congr {α : Type} {reading : List Char → α}
    (skips : ∀ letter rest, isBlank letter = true → reading (letter :: rest) = reading rest)
    (text : List Char) : reading (trimStart text) = reading text := by
  induction text with
  | nil => rfl
  | cons letter rest induction =>
      cases blank : isBlank letter with
      | true =>
          rw [trimStart, List.dropWhile_cons_of_pos blank, ← trimStart, induction,
            skips letter rest blank]
      | false => rw [trimStart, List.dropWhile_cons_of_neg (by simp [blank])]

theorem trim_start_append {text : List Char} (visible : trimStart text ≠ []) (more : List Char) :
    trimStart (text ++ more) = trimStart text ++ more := by
  unfold trimStart at visible ⊢
  rw [List.dropWhile_append, if_neg (by simpa using visible)]

theorem trim_start_blank_append {text : List Char} (blank : trimStart text = []) (more : List Char) :
    trimStart (text ++ more) = trimStart more := by
  unfold trimStart at blank ⊢
  rw [List.dropWhile_append, if_pos (by simp [blank])]

theorem trim_start_line_feed (more : List Char) :
    trimStart ('\n' :: more) = trimStart more :=
  List.dropWhile_cons_of_pos (by decide)

theorem trim_end_cons (letter : Char) (rest : List Char) :
    trimEnd (letter :: rest) =
      if isBlank letter = true ∧ trimEnd rest = [] then [] else letter :: trimEnd rest := by
  unfold trimEnd
  rw [List.reverse_cons, List.dropWhile_append]
  cases reversed : rest.reverse.dropWhile isBlank with
  | nil => cases blank : isBlank letter <;> simp [blank]
  | cons last before => simp

theorem trim_end_append (before : List Char) {letter : Char} (after : List Char)
    (visible : isBlank letter = false) :
    trimEnd (before ++ letter :: after) = before ++ letter :: trimEnd after := by
  induction before with
  | nil => simp [trim_end_cons, visible]
  | cons first before induction => simp [trim_end_cons, induction]

theorem trim_end_append_blank (text : List Char) {letter : Char} (blank : isBlank letter = true) :
    trimEnd (text ++ [letter]) = trimEnd text := by
  simp [trimEnd, blank]

theorem trim_end_append_blanks (text : List Char) {blanks : List Char}
    (blank : ∀ letter ∈ blanks, isBlank letter = true) : trimEnd (text ++ blanks) = trimEnd text := by
  induction blanks generalizing text with
  | nil => rw [List.append_nil]
  | cons letter rest induction =>
      rw [List.append_cons, induction (text ++ [letter]) (fun other member => blank other (by simp [member])),
        trim_end_append_blank text (blank letter (by simp))]

/-- Only blanks are cut off. -/
theorem exists_blanks_end (text : List Char) :
    ∃ blanks, text = trimEnd text ++ blanks ∧ ∀ letter ∈ blanks, isBlank letter = true := by
  refine ⟨(text.reverse.takeWhile isBlank).reverse, ?_, fun letter member => ?_⟩
  · rw [trimEnd, ← List.reverse_append, List.takeWhile_append_dropWhile, List.reverse_reverse]
  · exact List.all_eq_true.mp List.all_takeWhile letter (List.mem_reverse.mp member)

theorem trim_end_trim_end (text : List Char) : trimEnd (trimEnd text) = trimEnd text := by
  induction text with
  | nil => rfl
  | cons letter rest induction =>
      rw [trim_end_cons]
      split
      · rfl
      · rename_i visible
        rw [trim_end_cons, induction, if_neg visible]

theorem trim_trim_end (text : List Char) : trim (trimEnd text) = trim text := by
  unfold trim trimStart
  induction text with
  | nil => rfl
  | cons letter rest induction =>
      cases blank : isBlank letter with
      | true =>
          rw [List.dropWhile_cons_of_pos blank, ← induction, trim_end_cons]
          split
          · rename_i empty
            rw [empty.2]
          · rw [List.dropWhile_cons_of_pos blank]
      | false =>
          have visible : ¬isBlank letter = true := by simp [blank]
          rw [List.dropWhile_cons_of_neg visible, trim_end_cons, if_neg (by simp [blank]),
            List.dropWhile_cons_of_neg visible, trim_end_cons, if_neg (by simp [blank]),
            trim_end_trim_end]

theorem trim_blank_cons {letter : Char} (rest : List Char) (blank : isBlank letter = true) :
    trim (letter :: rest) = trim rest := by
  unfold trim trimStart
  rw [List.dropWhile_cons_of_pos blank]

theorem trim_append_blanks (text : List Char) {blanks : List Char}
    (blank : ∀ letter ∈ blanks, isBlank letter = true) : trim (text ++ blanks) = trim text := by
  rw [← trim_trim_end, trim_end_append_blanks text blank, trim_trim_end]

theorem trim_blanks_append {blanks : List Char} (text : List Char)
    (blank : ∀ letter ∈ blanks, isBlank letter = true) : trim (blanks ++ text) = trim text := by
  induction blanks with
  | nil => rfl
  | cons letter rest induction =>
      rw [List.cons_append, trim_blank_cons (rest ++ text) (blank letter (by simp)),
        induction (fun other member => blank other (by simp [member]))]

theorem trim_trim (text : List Char) : trim (trim text) = trim text := by
  unfold trim
  rw [← trim, trim_trim_end]
  induction text with
  | nil => rfl
  | cons letter rest induction =>
      cases blank : isBlank letter with
      | true =>
          have skipped : trimStart (letter :: rest) = trimStart rest := List.dropWhile_cons_of_pos blank
          rw [skipped, induction]
      | false =>
          have kept : trimStart (letter :: rest) = letter :: rest :=
            List.dropWhile_cons_of_neg (by simp [blank])
          rw [kept, trim, kept]

/-- A trimmed text begins with no blank. -/
theorem visible_first {letter : Char} {rest : List Char}
    (trimmed : trim (letter :: rest) = letter :: rest) :
    isBlank letter = false := by
  cases blank : isBlank letter with
  | false => rfl
  | true =>
      have shorter := congrArg List.length ((trim_blank_cons rest blank).symm.trans trimmed)
      have start : (rest.dropWhile isBlank).length ≤ rest.length :=
        (List.dropWhile_sublist isBlank).length_le
      have finish : ((rest.dropWhile isBlank).reverse.dropWhile isBlank).length ≤
          (rest.dropWhile isBlank).reverse.length :=
        (List.dropWhile_sublist isBlank).length_le
      simp only [trim, trimStart, trimEnd, List.length_reverse, List.length_cons] at *
      omega

/-- A text that begins with no blank is trimmed at its end only. -/
theorem trim_of_visible {letter : Char} (rest : List Char) (visible : isBlank letter = false) :
    trim (letter :: rest) = trimEnd (letter :: rest) := by
  unfold trim trimStart
  rw [List.dropWhile_cons_of_neg (by simp [visible])]

theorem trim_end_of_all_visible {text : List Char}
    (visible : ∀ letter ∈ text, isBlank letter = false) : trimEnd text = text := by
  induction text with
  | nil => rfl
  | cons letter rest induction =>
      have first := visible letter (by simp)
      have later := induction fun other member => visible other (by simp [member])
      rw [trim_end_cons, if_neg (by simp [first]), later]

theorem trim_of_all_visible {text : List Char} (visible : ∀ letter ∈ text, isBlank letter = false) :
    trim text = text := by
  cases text with
  | nil => rfl
  | cons letter rest =>
      rw [trim_of_visible rest (visible letter (by simp)), trim_end_of_all_visible visible]

theorem mem_trim_of_visible {text : List Char} {letter : Char} (member : letter ∈ text)
    (visible : isBlank letter = false) : letter ∈ trim text := by
  have started : letter ∈ trimStart text := (mem_drop_while member).resolve_left (by simp [visible])
  obtain ⟨blanks, whole, blank⟩ := exists_blanks_end (trimStart text)
  rw [whole] at started
  rcases List.mem_append.mp started with kept | cut
  · exact kept
  · have gone := blank letter cut
    rw [visible] at gone
    cases gone

/-- A part with blanks around it. -/
def Padded (part text : List Char) : Prop :=
  ∃ before after, text = before ++ (part ++ after) ∧ (∀ letter ∈ before, isBlank letter = true) ∧
    ∀ letter ∈ after, isBlank letter = true

theorem Padded.trim {part text : List Char} (padded : Padded part text) : trim text = Text.trim part := by
  obtain ⟨before, after, rfl, front, back⟩ := padded
  rw [trim_blanks_append _ front, trim_append_blanks _ back]

/-- A letter that is no blank stands around a part only if it stands in it. -/
theorem Padded.absent {part text : List Char} {letter : Char} (padded : Padded part text)
    (absent : letter ∉ part) (visible : isBlank letter = false) : letter ∉ text := by
  obtain ⟨before, after, rfl, front, back⟩ := padded
  have apart {blanks : List Char} (blank : ∀ other ∈ blanks, isBlank other = true) :
      letter ∉ blanks := by
    intro member
    have gone := blank letter member
    rw [visible] at gone
    cases gone
  simp [absent, apart front, apart back]

theorem padded_trim (text : List Char) : Padded (trim text) text := by
  obtain ⟨blanks, whole, blank⟩ := exists_blanks_end (trimStart text)
  refine ⟨text.takeWhile isBlank, blanks, ?_, List.all_eq_true.mp List.all_takeWhile, blank⟩
  rw [trim, ← whole, trimStart, List.takeWhile_append_dropWhile]

/-- Trimming only takes letters away at the ends. -/
theorem trim_within (text : List Char) : trim text <:+: text := by
  obtain ⟨before, after, whole, -⟩ := padded_trim text
  exact ⟨before, after, by rw [List.append_assoc, ← whole]⟩

theorem blank_of_trim_nil {text : List Char} (nothing : trim text = []) :
    ∀ letter ∈ text, isBlank letter = true := by
  intro letter member
  cases visible : isBlank letter with
  | true => rfl
  | false =>
      have kept := mem_trim_of_visible member visible
      rw [nothing] at kept
      cases kept

/-- The lines of a text: a line feed ends a line, a carriage return right before it belongs to the
line end, and nothing follows a line feed that is the last character. `current` holds the line in
progress, backwards. -/
def linesFrom (current : List Char) : List Char → List (List Char)
  | [] => if current.isEmpty then [] else [current.reverse]
  | letter :: rest =>
    if letter = '\n' then
      (match current with
        | '\r' :: earlier => earlier.reverse
        | other => other.reverse) :: linesFrom [] rest
    else linesFrom (letter :: current) rest

def lines (text : List Char) : List (List Char) :=
  linesFrom [] text

theorem lines_from_other {letter : Char} (other : letter ≠ '\n') (current rest : List Char) :
    linesFrom current (letter :: rest) = linesFrom (letter :: current) rest := by
  rw [linesFrom.eq_def current]
  exact if_neg other

/-- A line feed ends a line, which loses a carriage return at its end. -/
theorem exists_lines_line_feed (current text : List Char) :
    ∃ line, linesFrom current ('\n' :: text) = line :: linesFrom [] text ∧
      (current.reverse = line ∨ current.reverse = line ++ ['\r']) := by
  simp only [linesFrom, if_true]
  split
  · rename_i earlier
    exact ⟨earlier.reverse, rfl, .inr (by simp)⟩
  · exact ⟨current.reverse, rfl, .inl rfl⟩

theorem exists_lines_append {line : List Char} (free : '\n' ∉ line) (current rest : List Char) :
    ∃ ended, linesFrom current (line ++ '\n' :: rest) = ended :: linesFrom [] rest ∧
      (current.reverse ++ line = ended ∨ current.reverse ++ line = ended ++ ['\r']) := by
  induction line generalizing current with
  | nil => simpa using exists_lines_line_feed current rest
  | cons letter line induction =>
      simp only [List.mem_cons, not_or] at free
      obtain ⟨ended, same, stripped⟩ := induction free.2 (letter :: current)
      refine ⟨ended, ?_, by simpa using stripped⟩
      rw [List.cons_append, lines_from_other (Ne.symm free.1), same]

/-- The pieces between separators, one more than there are separators. -/
def splitOn (separator : Char) : List Char → List (List Char)
  | [] => [[]]
  | letter :: rest =>
    if letter = separator then [] :: splitOn separator rest
    else match splitOn separator rest with
      | [] => [[letter]]
      | piece :: pieces => (letter :: piece) :: pieces

theorem split_on_append {separator : Char} {piece : List Char} (absent : separator ∉ piece)
    (rest : List Char) :
    splitOn separator (piece ++ separator :: rest) = piece :: splitOn separator rest := by
  induction piece with
  | nil => simp [splitOn]
  | cons letter piece induction =>
      simp only [List.mem_cons, not_or] at absent
      rw [List.cons_append, splitOn, if_neg (Ne.symm absent.1), induction absent.2]

/-- The part before the first separator and the part after it. -/
def cutAt? (separator : Char) : List Char → Option (List Char × List Char)
  | [] => none
  | letter :: rest =>
    if letter = separator then some ([], rest)
    else (cutAt? separator rest).map fun parts => (letter :: parts.1, parts.2)

theorem cut_at_append {separator : Char} {before : List Char} (absent : separator ∉ before)
    (rest : List Char) : cutAt? separator (before ++ separator :: rest) = some (before, rest) := by
  induction before with
  | nil => simp [cutAt?]
  | cons letter before induction =>
      simp only [List.mem_cons, not_or] at absent
      rw [List.cons_append, cutAt?, if_neg (Ne.symm absent.1), induction absent.2]
      rfl

theorem cut_of_absent {separator : Char} {text : List Char} (absent : separator ∉ text) :
    cutAt? separator text = none := by
  induction text with
  | nil => rfl
  | cons letter rest induction =>
      simp only [List.mem_cons, not_or] at absent
      rw [cutAt?, if_neg (Ne.symm absent.1), induction absent.2]
      rfl

theorem cut_at_some_iff {separator : Char} {text before rest : List Char} :
    cutAt? separator text = some (before, rest) ↔
      separator ∉ before ∧ text = before ++ separator :: rest := by
  constructor
  · intro cut
    induction text generalizing before with
    | nil => cases cut
    | cons letter text induction =>
        rw [cutAt?] at cut
        split at cut
        · rename_i same
          cases cut
          simp [same]
        · rename_i other
          obtain ⟨⟨first, last⟩, found, parts⟩ := Option.map_eq_some_iff.mp cut
          cases parts
          obtain ⟨absent, here⟩ := induction found
          simp [here, absent, Ne.symm other]
  · rintro ⟨absent, rfl⟩
    exact cut_at_append absent rest

theorem cut_at_none_iff {separator : Char} {text : List Char} :
    cutAt? separator text = none ↔ separator ∉ text := by
  refine ⟨fun missing member => ?_, cut_of_absent⟩
  obtain ⟨before, rest, rfl, absent⟩ := List.eq_append_cons_of_mem member
  rw [cut_at_append absent] at missing
  cases missing

/-- The text after a word that a text begins with. -/
def after? : List Char → List Char → Option (List Char)
  | [], text => some text
  | _ :: _, [] => none
  | expected :: word, letter :: rest => if letter = expected then after? word rest else none

theorem after_append (word rest : List Char) : after? word (word ++ rest) = some rest := by
  induction word with
  | nil => rfl
  | cons letter word induction => rw [List.cons_append, after?, if_pos rfl, induction]

theorem append_of_after {word text rest : List Char} (found : after? word text = some rest) :
    text = word ++ rest := by
  induction word generalizing text with
  | nil => exact Option.some.inj found
  | cons expected word induction =>
      cases text with
      | nil => cases found
      | cons letter text =>
          rw [after?] at found
          split at found
          · rename_i same
            rw [same, induction found, List.cons_append]
          · cases found

/-- ASCII capitals become small letters; all other characters stay. -/
def lowerAscii (text : List Char) : List Char :=
  text.map Char.toLower

end Narrative.Text
