import Narrative.Proofs.Script.Blocks

/-!
# Seams of removed blocks

Where a block is taken out of content, the letters before it and those behind it come together. Main
fact: the text that is left holds a block exactly where a block was taken out of the word of an opening
tag, so that the two ends of the word meet; everywhere else nothing is left to be taken out.
-/

namespace Narrative.Script.Block

set_option autoImplicit false

/-- A complete block stands somewhere in the text. -/
def HoldsBlock (text : List Char) : Prop :=
  ∃ block, IsBlock block ∧ block <:+: text

/-- A block was taken out of the word of an opening tag: the letters before it begin the word, those
behind it end the word, and there the word is the beginning of a block. -/
inductive Mended : List Part → List Char → Prop where
  | here {part : Part} {parts : List Part} {start finish rest last : List Char}
      (begun : start ≠ []) (before : start <:+ part.plain) (ended : finish ≠ [])
      (behind : parts.flatMap Part.plain ++ last = finish ++ rest)
      (word : SpellsWord openingWord (start ++ finish))
      (block : BeginsWith IsBlock (start ++ (finish ++ rest))) : Mended (part :: parts) last
  | later {part : Part} {parts : List Part} {last : List Char} (mended : Mended parts last) :
      Mended (part :: parts) last

theorem holds_block_iff {text : List Char} :
    HoldsBlock text ↔ ∃ before behind, text = before ++ behind ∧ BeginsWith IsBlock behind := by
  constructor
  · rintro ⟨block, isBlock, before, rest, rfl⟩
    exact ⟨before, block ++ rest, by simp, block, rest, isBlock, rfl⟩
  · rintro ⟨before, _, rfl, block, rest, isBlock, rfl⟩
    exact ⟨block, isBlock, before, rest, by simp⟩

theorem HoldsBlock.behind {text : List Char} (holds : HoldsBlock text) (before : List Char) :
    HoldsBlock (before ++ text) := by
  obtain ⟨block, isBlock, part⟩ := holds
  exact ⟨block, isBlock, part.trans (List.suffix_append before text).isInfix⟩

/-! ## Blanks around a text -/

theorem folds_to_bracket {letter : Char} (folds : foldsTo '<' letter = true) : letter = '<' := by
  have small : letter.toLower = '<' := by simpa [foldsTo] using folds
  unfold Char.toLower at small
  split at small
  · rename_i capital
    have value : letter.val + 32 = 60 := congrArg Char.val small
    have sum := congrArg UInt32.toNat value
    have low : 65 ≤ letter.val.toNat := capital.1
    have high : letter.val.toNat ≤ 90 := capital.2
    rw [UInt32.toNat_add, show (32 : UInt32).toNat = 32 from rfl, show (60 : UInt32).toNat = 60 from rfl,
      Nat.mod_eq_of_lt (by omega)] at sum
    omega
  · exact small

theorem opening_first {opening : List Char} (opens : IsOpening opening) :
    ∃ rest, opening = '<' :: rest := by
  obtain @⟨word, attributes, spelled, -, -⟩ := opens
  obtain ⟨letter, rest, folds, -, rfl⟩ := List.forall₂_cons_left_iff.mp spelled
  exact ⟨rest ++ attributes ++ ['>'], by simp [folds_to_bracket folds]⟩

theorem block_ends {block : List Char} (isBlock : IsBlock block) :
    ∃ inside, block = '<' :: inside ++ ['>'] := by
  obtain ⟨opening, body, closing, opens, closes, rfl⟩ := isBlock
  obtain ⟨rest, rfl⟩ := opening_first opens
  obtain @⟨word, blanks, -, -⟩ := closes
  exact ⟨rest ++ body ++ word ++ blanks, by simp⟩

/-- What begins and ends with letters that are no blanks is not cut off. -/
theorem infix_trim {text inside : List Char} {first last : Char}
    (visibleFirst : Text.isBlank first = false) (visibleLast : Text.isBlank last = false)
    (part : first :: inside ++ [last] <:+: text) : first :: inside ++ [last] <:+: Text.trim text := by
  obtain ⟨before, rest, rfl⟩ := part
  have start : ∃ kept, Text.trimStart (before ++ first :: (inside ++ last :: rest)) =
      kept ++ first :: (inside ++ last :: rest) := by
    unfold Text.trimStart
    rw [List.dropWhile_append, List.dropWhile_cons_of_neg (by simp [visibleFirst])]
    split
    · exact ⟨[], rfl⟩
    · exact ⟨_, rfl⟩
  obtain ⟨kept, trimmed⟩ := start
  have ends := Text.trim_end_append (kept ++ first :: inside) rest visibleLast
  have whole : Text.trim (before ++ (first :: inside ++ [last]) ++ rest) =
      kept ++ first :: inside ++ last :: Text.trimEnd rest := by
    rw [← ends, Text.trim]
    simp only [List.append_assoc, List.cons_append, List.nil_append] at trimmed ⊢
    rw [trimmed]
  rw [whole]
  exact ⟨kept, Text.trimEnd rest, by simp⟩

theorem holds_block_trim_iff {text : List Char} : HoldsBlock (Text.trim text) ↔ HoldsBlock text := by
  constructor
  · rintro ⟨block, isBlock, part⟩
    exact ⟨block, isBlock, part.trans (Text.trim_within text)⟩
  · rintro ⟨block, isBlock, part⟩
    obtain ⟨inside, rfl⟩ := block_ends isBlock
    exact ⟨_, isBlock, infix_trim (by decide) (by decide) part⟩

/-! ## Where the word of an opening tag stands -/

/-- A block begins at every word of an opening tag that has another block behind it. -/
theorem begins_block_of_word {word more opening closing : List Char}
    (spelled : SpellsWord openingWord word)
    (ended : ∀ letter ∈ (more ++ opening).head?, Text.isWord letter = false)
    (opens : IsOpening opening) (closes : IsClosing closing) (body rest : List Char) :
    BeginsWith IsBlock (word ++ (more ++ (opening ++ body ++ closing ++ rest))) := by
  have bracket : '>' ∈ more ++ opening := by
    obtain @⟨word, attributes, -, -, -⟩ := opens
    simp
  obtain ⟨attributes, tail, split, inside⟩ := List.eq_append_cons_of_mem bracket
  have head : (attributes ++ ['>']).head? = (more ++ opening).head? := by
    rw [split]
    cases attributes <;> rfl
  have tag : IsOpening (word ++ attributes ++ ['>']) := .tag spelled (by rwa [head]) inside
  refine ⟨word ++ attributes ++ ['>'] ++ (tail ++ body) ++ closing, rest,
    ⟨_, _, _, tag, closes, rfl⟩, ?_⟩
  calc
    word ++ (more ++ (opening ++ body ++ closing ++ rest)) =
        word ++ ((more ++ opening) ++ (body ++ closing ++ rest)) := by simp
    _ = word ++ attributes ++ ['>'] ++ (tail ++ body) ++ closing ++ rest := by
      rw [split]
      simp

/-- The word of a block that begins among the letters before a removed block ends behind that block. -/
theorem word_cut {content rest before tail behind : List Char} {part : Part}
    (text : content = part.letters ++ rest) (opens : IsOpening part.opening)
    (closes : IsClosing part.closing)
    (first : ∀ start < part.plain.length, ¬BeginsWith IsBlock (content.drop start))
    (plain : part.plain = before ++ tail) (some : tail ≠ [])
    (begins : BeginsWith IsBlock (tail ++ behind)) :
    ∃ finish later, finish ≠ [] ∧ SpellsWord openingWord (tail ++ finish) ∧
      behind = finish ++ later := by
  obtain ⟨_, last, ⟨_, body, closing, @⟨word, attributes, spelled, ended, -⟩, -, rfl⟩, same⟩ := begins
  have whole : tail ++ behind = word ++ (attributes ++ '>' :: (body ++ closing ++ last)) := by
    simpa using same
  -- A whole word would begin a block there, since the removed block ends one.
  have apart : ∀ more, tail ≠ word ++ more := by
    rintro more rfl
    have within : before.length < part.plain.length := by
      rw [plain, List.length_append]
      exact Nat.lt_add_of_pos_right (List.length_pos_iff.mpr some)
    apply first before.length within
    have here : content.drop before.length =
        word ++ (more ++ (part.opening ++ part.body ++ part.closing ++ rest)) := by
      simp [text, Part.letters, plain]
    rw [here]
    refine begins_block_of_word spelled ?_ opens closes part.body rest
    intro letter head
    cases more with
    | nil =>
        obtain ⟨others, bracket⟩ := opening_first opens
        obtain rfl : '<' = letter := by simpa [bracket] using head
        decide
    | cons second more =>
        obtain rfl : second = letter := by simpa using head
        rw [List.append_assoc] at whole
        exact ended second (head_of_attributes (List.append_cancel_left whole))
  rcases List.append_eq_append_iff.mp whole with ⟨finish, spelling, later⟩ | ⟨more, here, -⟩
  · refine ⟨finish, _, ?_, spelling ▸ spelled, later⟩
    rintro rfl
    exact apart [] (by simp [spelling])
  · exact absurd here (apart more)

theorem mended_of_block {content last before behind : List Char} {parts : List Part}
    (divided : Divided content parts last)
    (text : parts.flatMap Part.plain ++ last = before ++ behind)
    (begins : BeginsWith IsBlock behind) : Mended parts last := by
  induction divided generalizing before with
  | @last content none =>
      have whole : content = before ++ behind := text
      exfalso
      apply none before.length
      rwa [whole, List.drop_left]
  | @next content rest last part parts content_text opens closes first shortest others induction =>
      rw [List.flatMap_cons, List.append_assoc] at text
      rcases List.append_eq_append_iff.mp text with ⟨more, -, later⟩ | ⟨tail, plain, same⟩
      · exact .later (induction later)
      · by_cases none : tail = []
        · subst none
          have later : parts.flatMap Part.plain ++ last = [] ++ behind := same.symm
          exact .later (induction later)
        · subst same
          obtain ⟨finish, later, some, word, behind⟩ :=
            word_cut content_text opens closes first plain none begins
          rw [behind] at begins
          exact .here none ⟨before, plain.symm⟩ some behind word begins

theorem Mended.block {parts : List Part} {last : List Char} (mended : Mended parts last) :
    HoldsBlock (parts.flatMap Part.plain ++ last) := by
  induction mended with
  | here _ before _ behind _ block =>
      obtain ⟨front, plain⟩ := before
      apply holds_block_iff.mpr
      exact ⟨front, _, by rw [List.flatMap_cons, List.append_assoc, behind, ← plain]; simp, block⟩
  | later _ induction =>
      rw [List.flatMap_cons, List.append_assoc]
      exact induction.behind _

theorem shown_holds_block_iff {content last : List Char} {parts : List Part}
    (divided : Divided content parts last) :
    HoldsBlock (between parts last) ↔ Mended parts last := by
  rw [between, holds_block_trim_iff]
  constructor
  · intro holds
    obtain ⟨before, behind, text, begins⟩ := holds_block_iff.mp holds
    exact mended_of_block divided text begins
  · exact Mended.block

/-! ## Taking blocks out again -/

/-- A text without a block is not changed but for the blanks around it. -/
theorem shown_of_no_block {text : List Char} (without : ¬HoldsBlock text) :
    fragments text = [] ∧ shownContent text = Text.trim text := by
  obtain ⟨parts, last, divided, same⟩ := exists_division text
  have whole : Divided text [] text := by
    apply Divided.last
    intro start begins
    apply without
    exact holds_block_iff.mpr ⟨_, _, (List.take_append_drop start text).symm, begins⟩
  obtain ⟨rfl, rfl⟩ := divided.unique whole
  exact ⟨fragments_of_division same, shown_of_division same⟩

theorem Divided.length_le {content last : List Char} {parts : List Part}
    (divided : Divided content parts last) :
    (parts.flatMap Part.plain ++ last).length + parts.length ≤ content.length := by
  induction divided with
  | last => simp
  | next text opens closes _ _ _ induction =>
      have some := List.length_pos_iff.mpr (opening_nonempty opens)
      rw [text]
      simp only [Part.letters, List.flatMap_cons, List.length_append, List.length_cons] at *
      omega

theorem shorter_of_block {text : List Char} (holds : HoldsBlock text) :
    (shownContent text).length < text.length := by
  obtain ⟨parts, last, divided, same⟩ := exists_division text
  have shown : (shownContent text).length ≤ (parts.flatMap Part.plain ++ last).length := by
    rw [shown_of_division same]
    exact (Text.trim_within _).length_le
  have whole := divided.length_le
  have some : 0 < parts.length := by
    apply List.length_pos_iff.mpr
    rintro rfl
    cases divided with
    | last none =>
        obtain ⟨before, behind, rfl, begins⟩ := holds_block_iff.mp holds
        exact none before.length (by rwa [List.drop_left])
  omega

theorem shown_again_iff (content : List Char) :
    shownContent (shownContent content) = shownContent content ↔
      ¬HoldsBlock (shownContent content) := by
  constructor
  · intro same holds
    have shorter := shorter_of_block holds
    rw [same] at shorter
    exact Nat.lt_irrefl _ shorter
  · intro without
    rw [(shown_of_no_block without).2, shownContent, Text.trim_trim]

/-- Content shows no block, and has no block taken out of it a second time, exactly where no block was
taken out of the word of an opening tag. -/
theorem shown_block_iff_mended (content : List Char) : ∃ parts last,
    Divided content parts last ∧
    (∀ others rest, Divided content others rest → others = parts ∧ rest = last) ∧
    (HoldsBlock (shownContent content) ↔ Mended parts last) ∧
    (shownContent (shownContent content) = shownContent content ↔ ¬Mended parts last) ∧
    (¬Mended parts last → fragments (shownContent content) = []) := by
  obtain ⟨parts, last, divided, same⟩ := exists_division content
  have holds : HoldsBlock (shownContent content) ↔ Mended parts last := by
    rw [shown_of_division same]
    exact shown_holds_block_iff divided
  refine ⟨parts, last, divided, fun others rest other => other.unique divided, holds, ?_, ?_⟩
  · rw [shown_again_iff, holds]
  · intro whole
    exact (shown_of_no_block (holds.not.mpr whole)).1

/-- A script within a script, whose outer end stays behind. -/
def nested : List Char :=
  "One.<script>x = 1 <script>y = 2</script> two</script>".toList

theorem nested_shown_without_block : shownContent nested = "One. two</script>".toList ∧
    ¬HoldsBlock (shownContent nested) ∧ fragments (shownContent nested) = [] := by
  obtain ⟨parts, last, -, -, holds, again, none⟩ := shown_block_iff_mended nested
  have whole := again.mp (by decide +kernel)
  exact ⟨by decide +kernel, holds.not.mpr whole, none whole⟩

/-- A script in the middle of an opening tag. -/
def torn : List Char :=
  "<scr<script>x = 1</script>ipt>y = 2</script>".toList

/-- What is left around a script that was taken out is a script itself. -/
theorem torn_shown_as_block :
    fragments torn = ["x = 1".toList] ∧ shownContent torn = "<script>y = 2</script>".toList ∧
    HoldsBlock (shownContent torn) ∧ fragments (shownContent torn) = ["y = 2".toList] ∧
    shownContent (shownContent torn) = [] := by
  refine ⟨by decide +kernel, by decide +kernel, ?_, by decide +kernel, by decide +kernel⟩
  apply Classical.byContradiction
  intro without
  have none := (shown_of_no_block without).1
  exact absurd none (by decide +kernel)

end Narrative.Script.Block
