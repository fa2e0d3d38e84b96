import Mathlib.Data.List.Forall2
import Narrative.Elementary
import Narrative.Story.View

/-!
# Blocks in content

Content has one division into blocks and the letters between them: each block begins where the first one
can begin, and its body ends at the first closing tag. Main fact: the bodies are what is run and the
letters between them are what is shown, so nothing is run twice, and nothing is lost.
-/

namespace Narrative.Script.Block

set_option autoImplicit false

/-- Letters that spell a word of a tag, letter case aside. -/
def SpellsWord (word letters : List Char) : Prop :=
  List.Forall₂ (fun small letter => foldsTo small letter = true) word letters

/-- An opening tag: its word, which ends there, and any letters up to the first closing bracket. -/
inductive IsOpening : List Char → Prop where
  | tag {word attributes : List Char} (spelled : SpellsWord openingWord word)
      (ended : ∀ letter ∈ (attributes ++ ['>']).head?, Text.isWord letter = false)
      (inside : '>' ∉ attributes) : IsOpening (word ++ attributes ++ ['>'])

/-- A closing tag: its word and blanks before the closing bracket. -/
inductive IsClosing : List Char → Prop where
  | tag {word blanks : List Char} (spelled : SpellsWord closingWord word)
      (blank : ∀ letter ∈ blanks, Text.isBlank letter = true) : IsClosing (word ++ blanks ++ ['>'])

def IsBlock (letters : List Char) : Prop :=
  ∃ opening body closing, IsOpening opening ∧ IsClosing closing ∧ letters = opening ++ body ++ closing

def BeginsWith (kind : List Char → Prop) (text : List Char) : Prop :=
  ∃ letters rest, kind letters ∧ text = letters ++ rest

/-- A block with the letters before it. -/
structure Part where
  plain : List Char
  opening : List Char
  body : List Char
  closing : List Char
  deriving DecidableEq, Repr

namespace Part

def letters (part : Part) : List Char :=
  part.plain ++ part.opening ++ part.body ++ part.closing

def pieces (part : Part) : List Piece :=
  part.plain.map .plain ++ [.block part.body]

end Part

/-- Content as parts and the letters behind the last block. A block begins at the first place behind the
block before where one can begin, and its body ends at the first closing tag. -/
inductive Divided : List Char → List Part → List Char → Prop where
  | last {text : List Char} (none : ∀ start, ¬BeginsWith IsBlock (text.drop start)) :
      Divided text [] text
  | next {content rest last : List Char} {part : Part} {parts : List Part}
      (text : content = part.letters ++ rest) (opens : IsOpening part.opening)
      (closes : IsClosing part.closing)
      (first : ∀ start < part.plain.length, ¬BeginsWith IsBlock (content.drop start))
      (shortest : ∀ start < part.body.length,
        ¬BeginsWith IsClosing ((part.body ++ part.closing ++ rest).drop start))
      (others : Divided rest parts last) : Divided content (part :: parts) last

theorem after_word_iff {word text rest : List Char} :
    afterWord? word text = some rest ↔ ∃ letters, SpellsWord word letters ∧ text = letters ++ rest := by
  unfold SpellsWord
  induction word generalizing text with
  | nil =>
      simp only [afterWord?, Option.some.injEq, List.forall₂_nil_left_iff, exists_eq_left,
        List.nil_append]
  | cons small word induction =>
      cases text with
      | nil => simp [afterWord?, List.forall₂_cons_left_iff]
      | cons letter text =>
          simp only [afterWord?, List.forall₂_cons_left_iff]
          constructor
          · intro found
            split at found
            · rename_i folds
              obtain ⟨letters, spelled, rfl⟩ := induction.mp found
              exact ⟨letter :: letters, ⟨letter, letters, folds, spelled, rfl⟩, rfl⟩
            · cases found
          · rintro ⟨_, ⟨first, letters, folds, spelled, rfl⟩, same⟩
            obtain ⟨rfl, rfl⟩ := List.cons.inj same
            rw [if_pos folds]
            exact induction.mpr ⟨letters, spelled, rfl⟩

theorem drop_to_bracket_iff {text rest : List Char} :
    (text.dropWhile fun letter => letter != '>') = '>' :: rest ↔
      ∃ attributes, '>' ∉ attributes ∧ text = attributes ++ '>' :: rest := by
  rw [drop_while_iff rfl]
  refine exists_congr fun attributes => and_congr_left fun _ => ⟨fun inside member => ?_, ?_⟩
  · simpa using inside '>' member
  · intro inside letter member
    simpa using ne_of_mem_of_not_mem member inside

theorem head_of_attributes {letter : Char} {attributes behind rest : List Char}
    (same : letter :: behind = attributes ++ '>' :: rest) :
    (attributes ++ ['>']).head? = some letter := by
  cases attributes with
  | nil => rw [(List.cons.inj same).1]; rfl
  | cons first others => rw [(List.cons.inj same).1]; rfl

theorem after_opening_iff {text rest : List Char} :
    afterOpening? text = some rest ↔ ∃ opening, IsOpening opening ∧ text = opening ++ rest := by
  constructor
  · intro found
    unfold afterOpening? at found
    split at found
    · rename_i letter behind read
      obtain ⟨word, spelled, rfl⟩ := after_word_iff.mp read
      split at found
      · cases found
      · rename_i apart
        split at found
        · rename_i bracket after dropped
          obtain rfl : after = rest := Option.some.inj found
          have last := List.head?_dropWhile_not (fun letter => letter != '>') (letter :: behind)
          rw [dropped] at last
          obtain rfl : bracket = '>' := by simpa using last
          obtain ⟨attributes, inside, text⟩ := drop_to_bracket_iff.mp dropped
          have ended : ∀ other ∈ (attributes ++ ['>']).head?, Text.isWord other = false := by
            rw [head_of_attributes text]
            simpa using apart
          exact ⟨word ++ attributes ++ ['>'], .tag spelled ended inside, by simp [text]⟩
        · cases found
    · cases found
  · rintro ⟨_, @⟨word, attributes, spelled, ended, inside⟩, rfl⟩
    have read : afterWord? openingWord (word ++ attributes ++ ['>'] ++ rest) =
        some (attributes ++ '>' :: rest) := after_word_iff.mpr ⟨word, spelled, by simp⟩
    have dropped : (attributes ++ '>' :: rest).dropWhile (fun letter => letter != '>') = '>' :: rest :=
      drop_to_bracket_iff.mpr ⟨attributes, inside, rfl⟩
    obtain ⟨letter, behind, text⟩ : ∃ letter behind, attributes ++ '>' :: rest = letter :: behind :=
      List.exists_cons_of_ne_nil (by simp)
    have apart : Text.isWord letter = false := by
      apply ended letter
      rw [head_of_attributes text.symm]
      rfl
    rw [text] at read dropped
    simp only [afterOpening?, read, apart, dropped]
    rfl

theorem after_closing_iff {text rest : List Char} :
    afterClosing? text = some rest ↔ ∃ closing, IsClosing closing ∧ text = closing ++ rest := by
  constructor
  · intro found
    unfold afterClosing? at found
    split at found
    · rename_i after read
      obtain rfl : after = rest := Option.some.inj found
      obtain ⟨behind, there, trimmed⟩ := Option.map_eq_some_iff.mp read
      obtain ⟨word, spelled, rfl⟩ := after_word_iff.mp there
      obtain ⟨blanks, blank, rfl⟩ := (drop_while_iff rfl).mp trimmed
      exact ⟨_, .tag spelled blank, by simp⟩
    · cases found
  · rintro ⟨_, @⟨word, blanks, spelled, blank⟩, rfl⟩
    have behind : afterWord? closingWord (word ++ blanks ++ ['>'] ++ rest) =
        some (blanks ++ '>' :: rest) := after_word_iff.mpr ⟨word, spelled, by simp⟩
    have trimmed : Text.trimStart (blanks ++ '>' :: rest) = '>' :: rest :=
      (drop_while_iff rfl).mpr ⟨blanks, blank, rfl⟩
    rw [afterClosing?, behind, Option.map_some, trimmed]
    rfl

theorem begins_closing_iff {text : List Char} :
    BeginsWith IsClosing text ↔ ∃ after, afterClosing? text = some after := by
  constructor
  · rintro ⟨closing, rest, closes, same⟩
    exact ⟨rest, after_closing_iff.mpr ⟨closing, closes, same⟩⟩
  · rintro ⟨after, found⟩
    obtain ⟨closing, closes, same⟩ := after_closing_iff.mp found
    exact ⟨closing, after, closes, same⟩

theorem opening_nonempty {opening : List Char} (opens : IsOpening opening) : opening ≠ [] := by
  cases opens
  simp

theorem closing_nonempty {closing : List Char} (closes : IsClosing closing) : closing ≠ [] := by
  cases closes
  simp

/-- What begins neither here nor in the next places behind begins in no place from here on. -/
theorem absent_cons {kind : List Char → Prop} {letter : Char} {rest : List Char} {count : Nat}
    (here : ¬BeginsWith kind (letter :: rest))
    (behind : ∀ start < count, ¬BeginsWith kind (rest.drop start)) :
    ∀ start < count + 1, ¬BeginsWith kind ((letter :: rest).drop start) := by
  intro start before
  cases start with
  | zero => exact here
  | succ start => exact behind start (Nat.lt_of_succ_lt_succ before)

theorem until_closing_iff {text body after : List Char} :
    untilClosing? text = some (body, after) ↔ ∃ closing, IsClosing closing ∧
      text = body ++ closing ++ after ∧ ∀ start < body.length, ¬BeginsWith IsClosing (text.drop start) := by
  induction text generalizing body with
  | nil =>
      refine ⟨fun found => by simp [untilClosing?] at found, ?_⟩
      rintro ⟨closing, closes, same, -⟩
      have empty := closing_nonempty closes
      simp_all
  | cons letter rest induction =>
      cases here : afterClosing? (letter :: rest) with
      | some behind =>
          simp only [untilClosing?, here, Option.some.injEq, Prod.mk.injEq]
          constructor
          · rintro ⟨rfl, rfl⟩
            obtain ⟨closing, closes, same⟩ := after_closing_iff.mp here
            exact ⟨closing, closes, by simpa using same, by simp⟩
          · rintro ⟨closing, closes, same, earliest⟩
            have begins := begins_closing_iff.mpr ⟨behind, here⟩
            obtain rfl : body = [] := by
              by_contra filled
              exact earliest 0 (List.length_pos_iff.mpr filled) begins
            have found := after_closing_iff.mpr ⟨closing, closes, same⟩
            exact ⟨rfl, Option.some.inj (here.symm.trans found)⟩
      | none =>
          have absent : ¬BeginsWith IsClosing (letter :: rest) := by
            rw [begins_closing_iff, here]
            simp
          simp only [untilClosing?, here, Option.map_eq_some_iff]
          constructor
          · rintro ⟨⟨others, behind⟩, found, same⟩
            cases same
            obtain ⟨closing, closes, rfl, earliest⟩ := induction.mp found
            exact ⟨closing, closes, rfl, absent_cons absent earliest⟩
          · rintro ⟨closing, closes, same, earliest⟩
            cases body with
            | nil => exact absurd ⟨closing, after, closes, same⟩ absent
            | cons first others =>
                obtain ⟨rfl, rfl⟩ := List.cons.inj same
                refine ⟨(others, after), induction.mpr ⟨closing, closes, rfl, ?_⟩, rfl⟩
                exact fun start before => earliest (start + 1) (Nat.succ_lt_succ before)

theorem until_closing_of_closing {text : List Char} {start : Nat}
    (begins : BeginsWith IsClosing (text.drop start)) : ∃ found, untilClosing? text = some found := by
  induction text generalizing start with
  | nil =>
      obtain ⟨closing, rest, closes, same⟩ := begins
      have filled := closing_nonempty closes
      simp_all
  | cons letter rest induction =>
      cases here : afterClosing? (letter :: rest) with
      | some after => exact ⟨([], after), by simp [untilClosing?, here]⟩
      | none =>
          cases start with
          | zero =>
              obtain ⟨after, found⟩ := begins_closing_iff.mp begins
              rw [List.drop_zero, here] at found
              cases found
          | succ start =>
              obtain ⟨found, there⟩ := induction begins
              exact ⟨(letter :: found.1, found.2), by simp [untilClosing?, here, there]⟩

theorem block_at_iff {text body after : List Char} :
    blockAt? text = some (body, after) ↔ ∃ opening closing, IsOpening opening ∧ IsClosing closing ∧
      text = opening ++ body ++ closing ++ after ∧
      ∀ start < body.length, ¬BeginsWith IsClosing ((body ++ closing ++ after).drop start) := by
  rw [blockAt?, Option.bind_eq_some_iff]
  constructor
  · rintro ⟨inside, opened, closed⟩
    obtain ⟨opening, opens, rfl⟩ := after_opening_iff.mp opened
    obtain ⟨closing, closes, rfl, shortest⟩ := until_closing_iff.mp closed
    exact ⟨opening, closing, opens, closes, by simp, shortest⟩
  · rintro ⟨opening, closing, opens, closes, rfl, shortest⟩
    refine ⟨body ++ closing ++ after, after_opening_iff.mpr ⟨opening, opens, by simp⟩, ?_⟩
    exact until_closing_iff.mpr ⟨closing, closes, rfl, shortest⟩

theorem begins_block_iff {text : List Char} :
    BeginsWith IsBlock text ↔ ∃ found, blockAt? text = some found := by
  constructor
  · rintro ⟨_, rest, ⟨opening, body, closing, opens, closes, rfl⟩, rfl⟩
    have opened : afterOpening? (opening ++ body ++ closing ++ rest) = some (body ++ closing ++ rest) :=
      after_opening_iff.mpr ⟨opening, opens, by simp⟩
    have begins : BeginsWith IsClosing ((body ++ closing ++ rest).drop body.length) :=
      ⟨closing, rest, closes, by simp⟩
    obtain ⟨found, closed⟩ := until_closing_of_closing begins
    exact ⟨found, by rw [blockAt?, opened, Option.bind_some, closed]⟩
  · rintro ⟨⟨body, after⟩, found⟩
    obtain ⟨opening, closing, opens, closes, same, -⟩ := block_at_iff.mp found
    exact ⟨opening ++ body ++ closing, after, ⟨opening, body, closing, opens, closes, rfl⟩, same⟩

theorem piece_at_some {text : List Char} {piece : Piece} {count : Nat}
    (found : pieceAt? text = some (piece, count)) :
    ∃ body after, piece = .block body ∧ blockAt? text = some (body, after) ∧ text.drop count = after ∧
      0 < count ∧ count ≤ text.length := by
  obtain ⟨⟨body, after⟩, here, same⟩ := Option.map_eq_some_iff.mp found
  cases same
  obtain ⟨opening, closing, opens, -, whole, -⟩ := block_at_iff.mp here
  have filled := List.length_pos_iff.mpr (opening_nonempty opens)
  have block : text.length - after.length = (opening ++ body ++ closing).length := by
    rw [whole, List.length_append, Nat.add_sub_cancel]
  refine ⟨body, after, rfl, here, ?_, ?_, Nat.sub_le _ _⟩
  · rw [block, whole, List.drop_left]
  · simp only [block, List.length_append]
    omega

theorem fits_blocks : Text.Fits pieceAt? := by
  intro text piece count found
  obtain ⟨body, after, -, -, -, fits⟩ := piece_at_some found
  exact fits

/-- A letter where no block begins stands before the first block, or behind the last if there is none. -/
theorem Divided.cons {letter : Char} {rest last : List Char} {parts : List Part}
    (absent : ¬BeginsWith IsBlock (letter :: rest)) (divided : Divided rest parts last) :
    ∃ more ending, Divided (letter :: rest) more ending ∧
      more.flatMap Part.pieces ++ ending.map .plain =
        .plain letter :: (parts.flatMap Part.pieces ++ last.map .plain) := by
  cases divided with
  | last none =>
      refine ⟨[], letter :: rest, .last fun start => ?_, rfl⟩
      exact absent_cons absent (fun start _ => none start) start (Nat.lt_succ_self start)
  | @next _ behind _ part parts text opens closes first shortest others =>
      refine ⟨{ part with plain := letter :: part.plain } :: parts, last, ?_, rfl⟩
      exact .next (by rw [text]; rfl) opens closes (absent_cons absent first) shortest others

/-- Content has a division, and its pieces are those of the parts. -/
theorem exists_division (content : List Char) : ∃ parts last, Divided content parts last ∧
    pieces content = parts.flatMap Part.pieces ++ last.map .plain := by
  induction content using fits_blocks.by_first_piece with
  | nil =>
      refine ⟨[], [], .last fun start begins => ?_, rfl⟩
      obtain ⟨found, here⟩ := begins_block_iff.mp begins
      rw [List.drop_nil] at here
      cases here
  | read content piece count here induction =>
      obtain ⟨body, after, rfl, block, behind, -⟩ := piece_at_some here
      obtain ⟨opening, closing, opens, closes, text, shortest⟩ := block_at_iff.mp block
      rw [behind] at induction
      obtain ⟨parts, last, divided, same⟩ := induction
      refine ⟨⟨[], opening, body, closing⟩ :: parts, last, ?_, ?_⟩
      · exact .next (by simpa [Part.letters] using text) opens closes (by simp) shortest divided
      · rw [pieces, fits_blocks.pieces_read here, behind, ← pieces, same]
        rfl
  | plain letter rest here induction =>
      have absent : ¬BeginsWith IsBlock (letter :: rest) := by
        rw [begins_block_iff]
        rintro ⟨found, block⟩
        rw [pieceAt?, block] at here
        cases here
      obtain ⟨parts, last, divided, same⟩ := induction
      obtain ⟨more, ending, longer, same_pieces⟩ := divided.cons absent
      exact ⟨more, ending, longer, by rw [pieces, Text.pieces_plain here, ← pieces, same, same_pieces]⟩

/-- What a reader takes off a text is decided by the text. -/
theorem taken_once {kind : List Char → Prop} {reader : List Char → Option (List Char)}
    (reads : ∀ {text rest}, reader text = some rest ↔ ∃ letters, kind letters ∧ text = letters ++ rest)
    {one two rest behind : List Char} (first : kind one) (second : kind two)
    (same : one ++ rest = two ++ behind) : one = two ∧ rest = behind := by
  have left : reader (one ++ rest) = some rest := reads.mpr ⟨one, first, rfl⟩
  have right : reader (one ++ rest) = some behind := reads.mpr ⟨two, second, same⟩
  obtain rfl := Option.some.inj (left.symm.trans right)
  exact ⟨List.append_cancel_right same, rfl⟩

theorem begins_behind_plain {content rest : List Char} {part : Part} (text : content = part.letters ++ rest)
    (opens : IsOpening part.opening) (closes : IsClosing part.closing) :
    BeginsWith IsBlock (content.drop part.plain.length) := by
  refine ⟨part.opening ++ part.body ++ part.closing, rest, ⟨_, _, _, opens, closes, rfl⟩, ?_⟩
  simp [text, Part.letters]

theorem Divided.unique {content last rest : List Char} {parts others : List Part}
    (one : Divided content parts last) (two : Divided content others rest) :
    parts = others ∧ last = rest := by
  induction one generalizing others rest with
  | last none =>
      cases two with
      | last => exact ⟨rfl, rfl⟩
      | next text opens closes => exact absurd (begins_behind_plain text opens closes) (none _)
  | @next content behind _ part _ text opens closes first shortest _ induction =>
      have begins := begins_behind_plain text opens closes
      cases two with
      | last none => exact absurd begins (none _)
      | @next _ beyond _ other _ reading opened closed earliest least later =>
          have began := begins_behind_plain reading opened closed
          have aligned : part.plain.length = other.plain.length := by
            rcases Nat.lt_trichotomy part.plain.length other.plain.length with before | same | after
            · exact absurd begins (earliest _ before)
            · exact same
            · exact absurd began (first _ after)
          have whole : part.plain ++ (part.opening ++ (part.body ++ part.closing ++ behind)) =
              other.plain ++ (other.opening ++ (other.body ++ other.closing ++ beyond)) := by
            simpa [Part.letters] using text.symm.trans reading
          obtain ⟨plain, blocks⟩ := List.append_inj whole aligned
          obtain ⟨opening, insides⟩ := taken_once after_opening_iff opens opened blocks
          have left := until_closing_iff.mpr ⟨part.closing, closes, rfl, shortest⟩
          have right := until_closing_iff.mpr ⟨other.closing, closed, insides, by rwa [insides]⟩
          obtain ⟨body, rfl⟩ := Prod.mk.inj (Option.some.inj (left.symm.trans right))
          rw [body, List.append_assoc, List.append_assoc] at insides
          obtain ⟨closing, -⟩ := taken_once after_closing_iff closes closed
            (List.append_cancel_left insides)
          obtain ⟨rfl, rfl⟩ := induction later
          refine ⟨?_, rfl⟩
          rw [show part = other from by cases part; cases other; simp_all]

theorem Divided.reassembled {content last : List Char} {parts : List Part}
    (divided : Divided content parts last) : parts.flatMap Part.letters ++ last = content := by
  induction divided with
  | last => rfl
  | next text _ _ _ _ _ induction => rw [text, List.flatMap_cons, List.append_assoc, induction]

theorem bodies_of_plain (letters : List Char) : (letters.map Piece.plain).filterMap Piece.body? = [] := by
  rw [List.filterMap_map, List.filterMap_eq_nil_iff]
  exact fun letter _ => rfl

theorem letters_of_plain (letters : List Char) :
    (letters.map Piece.plain).filterMap Piece.plain? = letters := by
  rw [List.filterMap_map]
  exact List.filterMap_some

theorem bodies_of_parts (parts : List Part) :
    (parts.flatMap Part.pieces).filterMap Piece.body? = parts.map Part.body := by
  induction parts with
  | nil => rfl
  | cons part parts induction =>
      rw [List.flatMap_cons, List.filterMap_append, induction, Part.pieces, List.filterMap_append,
        bodies_of_plain]
      rfl

theorem letters_of_parts (parts : List Part) :
    (parts.flatMap Part.pieces).filterMap Piece.plain? = parts.flatMap Part.plain := by
  induction parts with
  | nil => rfl
  | cons part parts induction =>
      rw [List.flatMap_cons, List.filterMap_append, induction, Part.pieces, List.filterMap_append,
        letters_of_plain]
      simp [Piece.plain?]

/-- What is run of the parts, in order. -/
def codes (parts : List Part) : List (List Char) :=
  (parts.map fun part => Text.trim part.body).filter fun code => !code.isEmpty

/-- What is shown of the parts, and of the letters behind them. -/
def between (parts : List Part) (last : List Char) : List Char :=
  Text.trim (parts.flatMap Part.plain ++ last)

theorem fragments_of_division {content last : List Char} {parts : List Part}
    (same : pieces content = parts.flatMap Part.pieces ++ last.map .plain) :
    fragments content = codes parts := by
  rw [fragments, same, List.filterMap_append, bodies_of_plain, List.append_nil, bodies_of_parts,
    List.map_map]
  rfl

theorem shown_of_division {content last : List Char} {parts : List Part}
    (same : pieces content = parts.flatMap Part.pieces ++ last.map .plain) :
    shownContent content = between parts last := by
  rw [shownContent, same, List.filterMap_append, letters_of_parts, letters_of_plain, between]

theorem code_of_node (node : Node) :
    Story.codeOf node = List.intercalate ['\n'] (fragments node.contentText.toList) := by
  unfold Story.codeOf
  split
  · rename_i none
    rw [none]
    rfl
  · rename_i first others filled
    rw [filled, intercalate_cons]
    rfl

/-- Content divides in one way into blocks and the letters between them. A node runs the bodies of the
blocks, once each and in order, and shows the other letters. -/
theorem content_divides (content : List Char) : ∃ parts last,
    Divided content parts last ∧
    (∀ others rest, Divided content others rest → others = parts ∧ rest = last) ∧
    parts.flatMap Part.letters ++ last = content ∧
    fragments content = codes parts ∧
    shownContent content = between parts last ∧
    ∀ node : Node, node.contentText.toList = content →
      (∀ limits store, Story.runScripts limits node store =
        if codes parts = [] then store
        else Script.run limits (List.intercalate ['\n'] (codes parts)) store) ∧
      (node.isContent = true → ∀ store, Story.shownContent node store =
        String.ofList (Interpolation.shown store (between parts last))) := by
  obtain ⟨parts, last, divided, same⟩ := exists_division content
  have run := fragments_of_division same
  have shown := shown_of_division same
  refine ⟨parts, last, divided, fun others rest other => other.unique divided, divided.reassembled, run,
    shown, ?_⟩
  rintro node rfl
  refine ⟨fun limits store => ?_, fun content store => ?_⟩
  · simp only [Story.runScripts, code_of_node, run, List.isEmpty_iff]
  · rw [Story.shownContent, if_pos content, shown]

/-- Tags in either case, a blank block, and an opening tag that nothing closes. -/
def patched : List Char :=
  "<p>One.</p> <SCRIPT id=a>x = 1</script\n>two<script> </script><scripted><script>".toList

theorem patched_divided : ∃ parts last, Divided patched parts last ∧
    codes parts = ["x = 1".toList] ∧ between parts last = "<p>One.</p> two<scripted><script>".toList := by
  obtain ⟨parts, last, divided, -, -, run, shown, -⟩ := content_divides patched
  refine ⟨parts, last, divided, ?_, ?_⟩
  · rw [← run]
    decide +kernel
  · rw [← shown]
    decide +kernel

end Narrative.Script.Block
