import Mathlib.Data.List.Forall2
import Narrative.Placeholder

/-!
# Placeholders in texts

Placeholders cannot overlap, whatever braces stand around them, so a text has one division into
placeholders and other letters. Main fact: a text is shown piece by piece, each placeholder as what it
names and everything else as it stands, and nothing that is put in is looked at again.
-/

namespace Narrative

set_option autoImplicit false

namespace Placeholder

/-- What the text between the braces has to look like to name something. The part of an element's index is
a count, blanks aside. -/
inductive Form (inner : List Char) : Placeholder → Prop where
  | element {before within : List Char} {index : Nat}
      (indexed : Text.trim inner = before ++ '[' :: (within ++ [']'])) (first : '[' ∉ before)
      (named : Text.trim before ≠ []) (counted : Number.count? (Text.trim within) = some index) :
      Form inner (.element (Text.trim before) index)
  | entry {before after : List Char} (keyed : Text.trim inner = before ++ '.' :: after)
      (first : '.' ∉ before) (unindexed : '[' ∉ Text.trim inner) (named : Text.trim before ≠ [])
      (key : Text.trim after ≠ []) : Form inner (.entry (Text.trim before) (Text.trim after))
  | whole (named : Text.trim inner ≠ []) (unindexed : '[' ∉ Text.trim inner)
      (unkeyed : '.' ∉ Text.trim inner) : Form inner (.whole (Text.trim inner))

/-- The text that stands for a placeholder in a store: an element of a list, an entry of an object, or a
variable as a whole. -/
inductive Shows (store : Store) : Placeholder → String → Prop where
  | element {name : List Char} {index : Nat} {known : Variable} {kind : ScalarKind}
      {elements : List Scalar} {element : Scalar}
      (found : store.find? (String.ofList name) = some known)
      (list : known.value = .list kind elements) (inRange : elements[index]? = some element) :
      Shows store (.element name index) element.display
  | entry {name key : List Char} {known : Variable} {members : Dictionary Entry} {entry : Entry}
      (found : store.find? (String.ofList name) = some known)
      (object : known.value = .object members)
      (held : Keyed.find? (String.ofList key) members.entries = some entry) :
      Shows store (.entry name key) entry.value.display
  | whole {name : List Char} {known : Variable}
      (found : store.find? (String.ofList name) = some known) :
      Shows store (.whole name) known.display

/-- What the text between the braces stands for in a store. -/
def Means (store : Store) (inner : List Char) (text : String) : Prop :=
  ∃ place, Form inner place ∧ Shows store place text

theorem before_bracket_iff {letters inner : List Char} :
    beforeBracket? letters = some inner ↔ letters = inner ++ [']'] := by
  unfold beforeBracket?
  split
  · rename_i last found
    obtain ⟨before, rfl⟩ := List.getLast?_eq_some_iff.mp found
    split
    · rename_i same
      simp [same]
    · rename_i other
      simp [other]
  · rename_i missing
    simp [List.getLast?_eq_none_iff.mp missing]

theorem of_indexed_iff {before after : List Char} {place : Placeholder} (valid : place ≠ .invalid) :
    ofIndexed before after = place ↔ ∃ within index, after = within ++ [']'] ∧
      Text.trim before ≠ [] ∧ Number.count? (Text.trim within) = some index ∧
        .element (Text.trim before) index = place := by
  unfold ofIndexed
  cases read : (beforeBracket? after).bind fun inner => Number.count? (Text.trim inner) with
  | none =>
      refine ⟨fun same => absurd same.symm valid, ?_⟩
      rintro ⟨within, index, rfl, -, counted, -⟩
      simp [before_bracket_iff.mpr rfl, counted] at read
  | some count =>
      obtain ⟨within, closed, counted⟩ := Option.bind_eq_some_iff.mp read
      rw [before_bracket_iff] at closed
      subst closed
      by_cases named : Text.trim before = []
      · simpa [named] using valid.symm
      · simp [named, counted]

theorem of_keyed_iff {before after : List Char} {place : Placeholder} (valid : place ≠ .invalid) :
    ofKeyed before after = place ↔ Text.trim before ≠ [] ∧ Text.trim after ≠ [] ∧
      .entry (Text.trim before) (Text.trim after) = place := by
  by_cases named : Text.trim before = []
  · simpa [ofKeyed, named] using valid.symm
  · by_cases keyed : Text.trim after = []
    · simpa [ofKeyed, keyed] using valid.symm
    · simp [ofKeyed, named, keyed]

/-- What is read from the text between the braces is what that text has the form of. -/
theorem parse_iff_form {inner : List Char} {place : Placeholder} (valid : place ≠ .invalid) :
    parse inner = place ↔ Form inner place := by
  unfold parse
  by_cases empty : Text.trim inner = []
  · simp only [empty, List.isEmpty_nil, if_true, valid.symm, false_iff]
    intro form
    cases form with
    | element indexed => simp [empty] at indexed
    | entry keyed => simp [empty] at keyed
    | whole named => exact named empty
  · simp only [List.isEmpty_iff, empty, if_false]
    cases bracket : Text.cutAt? '[' (Text.trim inner) with
    | some parts =>
        obtain ⟨before, after⟩ := parts
        obtain ⟨first, text⟩ := Text.cut_at_some_iff.mp bracket
        have present : '[' ∈ Text.trim inner := by simp [text]
        refine (of_indexed_iff valid).trans ⟨?_, fun form => ?_⟩
        · rintro ⟨within, index, rfl, named, counted, rfl⟩
          exact .element text first named counted
        · cases form with
          | element indexed other named counted =>
              rw [Text.cut_at_some_iff.mpr ⟨other, indexed⟩] at bracket
              cases bracket
              exact ⟨_, _, rfl, named, counted, rfl⟩
          | entry _ _ unindexed => exact absurd present unindexed
          | whole _ unindexed => exact absurd present unindexed
    | none =>
        have unindexed := Text.cut_at_none_iff.mp bracket
        cases dot : Text.cutAt? '.' (Text.trim inner) with
        | some parts =>
            obtain ⟨before, after⟩ := parts
            obtain ⟨first, text⟩ := Text.cut_at_some_iff.mp dot
            refine (of_keyed_iff valid).trans ⟨?_, fun form => ?_⟩
            · rintro ⟨named, key, rfl⟩
              exact .entry text first unindexed named key
            · cases form with
              | element indexed => simp [indexed] at unindexed
              | entry keyed other _ named key =>
                  rw [Text.cut_at_some_iff.mpr ⟨other, keyed⟩] at dot
                  cases dot
                  exact ⟨named, key, rfl⟩
              | whole _ _ unkeyed => simp [text] at unkeyed
        | none =>
            have unkeyed := Text.cut_at_none_iff.mp dot
            refine ⟨?_, fun form => ?_⟩
            · rintro rfl
              exact .whole empty unindexed unkeyed
            · cases form with
              | element indexed => simp [indexed] at unindexed
              | entry keyed => simp [keyed] at unkeyed
              | whole => rfl

theorem resolve_iff {store : Store} {place : Placeholder} {text : String} :
    place.resolve? store = some text ↔ Shows store place text := by
  constructor
  · intro resolved
    cases place with
    | element name index =>
        simp only [resolve?] at resolved
        split at resolved
        · rename_i kind elements holds
          obtain ⟨known, found, list⟩ := Option.map_eq_some_iff.mp holds
          obtain ⟨element, inRange, rfl⟩ := Option.map_eq_some_iff.mp resolved
          exact .element found list inRange
        · cases resolved
    | entry name key =>
        simp only [resolve?] at resolved
        split at resolved
        · rename_i members holds
          obtain ⟨known, found, object⟩ := Option.map_eq_some_iff.mp holds
          obtain ⟨entry, held, rfl⟩ := Option.map_eq_some_iff.mp resolved
          exact .entry found object held
        · cases resolved
    | whole name =>
        obtain ⟨known, found, rfl⟩ := Option.map_eq_some_iff.mp resolved
        exact .whole found
    | invalid => cases resolved
  · intro shows
    cases shows with
    | element found list inRange => simp [resolve?, found, list, inRange]
    | entry found object held => simp [resolve?, found, object, held]
    | whole found => simp [resolve?, found]

theorem means_iff {store : Store} {inner : List Char} {text : String} :
    (parse inner).resolve? store = some text ↔ Means store inner text := by
  rw [resolve_iff]
  constructor
  · intro shows
    have valid : parse inner ≠ .invalid := by
      intro invalid
      rw [invalid] at shows
      cases shows
    exact ⟨parse inner, (parse_iff_form valid).mp rfl, shows⟩
  · rintro ⟨place, form, shows⟩
    have valid : place ≠ .invalid := by
      rintro rfl
      cases form
    rw [(parse_iff_form valid).mpr form]
    exact shows

end Placeholder

namespace Interpolation

/-- Letters of which none is a brace. -/
def Braceless (letters : List Char) : Prop :=
  '{' ∉ letters ∧ '}' ∉ letters

/-- Behind the first `start` letters of a text stands a placeholder with this text between its braces. -/
def Stands (letters : List Char) (start : Nat) (inner : List Char) : Prop :=
  Braceless inner ∧ ∃ after, letters.drop start = '{' :: '{' :: inner ++ '}' :: '}' :: after

/-- How a piece of a text is shown: a placeholder that means something by what it means, everything else
as it stands. -/
inductive Replaced (store : Store) : Piece → List Char → Prop where
  | plain (letter : Char) : Replaced store (.plain letter) [letter]
  | filled {inner : List Char} {text : String} (means : Placeholder.Means store inner text) :
      Replaced store (.slot inner) text.toList
  | kept {inner : List Char} (unknown : ∀ text, ¬Placeholder.Means store inner text) :
      Replaced store (.slot inner) (Piece.slot inner).source

theorem braceless_cons {letter : Char} {letters : List Char} :
    Braceless (letter :: letters) ↔ ¬(letter = '{' ∨ letter = '}') ∧ Braceless letters := by
  simp only [Braceless, List.mem_cons, eq_comm, not_or]
  exact ⟨fun ⟨⟨a, b⟩, c, d⟩ => ⟨⟨a, c⟩, b, d⟩, fun ⟨⟨a, c⟩, b, d⟩ => ⟨⟨a, b⟩, c, d⟩⟩

theorem closed_iff {letters inner : List Char} : closed? letters = some inner ↔
    Braceless inner ∧ ∃ after, letters = inner ++ '}' :: '}' :: after := by
  fun_induction closed? letters generalizing inner with
  | case1 rest =>
      cases inner with
      | nil => simp [Braceless]
      | cons letter others =>
          simp only [reduceCtorEq, Option.some.injEq, false_iff, braceless_cons]
          rintro ⟨⟨plain, -⟩, after, same⟩
          exact plain (Or.inr (List.cons.inj same).1.symm)
  | case2 letter rest unclosed brace =>
      simp only [reduceCtorEq, false_iff]
      rintro ⟨plain, after, same⟩
      cases inner with
      | nil =>
          obtain ⟨here, behind⟩ := List.cons.inj same
          exact unclosed after here behind
      | cons first others =>
          obtain ⟨here, -⟩ := List.cons.inj same
          subst here
          exact (braceless_cons.mp plain).1 (by simpa using brace)
  | case3 letter rest unclosed plain induction =>
      cases inner with
      | nil =>
          simp only [Option.map_eq_some_iff, reduceCtorEq, and_false, exists_false, false_iff]
          rintro ⟨-, after, same⟩
          obtain ⟨here, behind⟩ := List.cons.inj same
          exact unclosed after here behind
      | cons first others =>
          have visible : ¬(letter = '{' ∨ letter = '}') := by simpa using plain
          simp only [Option.map_eq_some_iff, List.cons.injEq, induction, braceless_cons,
            List.cons_append]
          constructor
          · rintro ⟨inner, ⟨free, after, rfl⟩, rfl, rfl⟩
            exact ⟨⟨visible, free⟩, after, rfl, rfl⟩
          · rintro ⟨⟨-, free⟩, after, rfl, rfl⟩
            exact ⟨others, ⟨free, after, rfl⟩, rfl, rfl⟩
  | case4 => simp

theorem slot_at_iff {letters inner : List Char} : slotAt? letters = some inner ↔
    Braceless inner ∧ ∃ after, letters = (Piece.slot inner).source ++ after := by
  unfold slotAt? Piece.source
  split
  · rw [closed_iff]
    simp
  · rename_i other
    simp only [reduceCtorEq, false_iff]
    rintro ⟨-, after, rfl⟩
    exact other _ (by simp; rfl)

theorem stands_iff {letters inner : List Char} {start : Nat} :
    Stands letters start inner ↔ slotAt? (letters.drop start) = some inner := by
  rw [slot_at_iff, Stands]
  simp [Piece.source]

/-- Behind its first two letters, a placeholder has no opening brace. -/
theorem opening_in_slot {inner after : List Char} (free : Braceless inner) {place : Nat}
    (inside : place < inner.length + 4)
    (brace : ((Piece.slot inner).source ++ after)[place]? = some '{') : place < 2 := by
  match place with
  | 0 => omega
  | 1 => omega
  | place + 2 =>
      exfalso
      have behind : (inner ++ ['}', '}'])[place]? = some '{' := by
        have length : place < (inner ++ ['}', '}']).length := by
          simp
          omega
        calc
          (inner ++ ['}', '}'])[place]? = (inner ++ ['}', '}'] ++ after)[place]? :=
            (List.getElem?_append_left length).symm
          _ = some '{' := by
            rw [← brace]
            simp [Piece.source]
      have member := List.mem_of_getElem? behind
      simp [free.1] at member

theorem source_append (inner after : List Char) :
    (Piece.slot inner).source ++ after = '{' :: '{' :: inner ++ '}' :: '}' :: after := by
  simp [Piece.source]

theorem source_length (inner : List Char) :
    (Piece.slot inner).source.length = inner.length + 4 := by
  simp [Piece.source]

theorem piece_at_slot {inner : List Char} (free : Braceless inner) (after : List Char) :
    pieceAt? ((Piece.slot inner).source ++ after) =
      some (.slot inner, (Piece.slot inner).source.length) := by
  rw [pieceAt?, slot_at_iff.mpr ⟨free, after, rfl⟩, source_length]
  rfl

theorem piece_at_some {letters : List Char} {piece : Piece} {count : Nat}
    (found : pieceAt? letters = some (piece, count)) :
    ∃ inner after, Braceless inner ∧ piece = .slot inner ∧ letters = piece.source ++ after ∧
      count = piece.source.length := by
  obtain ⟨inner, here, same⟩ := Option.map_eq_some_iff.mp found
  obtain ⟨free, after, text⟩ := slot_at_iff.mp here
  cases same
  exact ⟨inner, after, free, rfl, text, (source_length inner).symm⟩

theorem fits_slots : Text.Fits pieceAt? := by
  intro letters piece count found
  obtain ⟨inner, after, -, rfl, rfl, rfl⟩ := piece_at_some found
  rw [List.length_append, source_length]
  omega

theorem pieces_slot {inner : List Char} (free : Braceless inner) (after : List Char) :
    pieces ((Piece.slot inner).source ++ after) = .slot inner :: pieces after := by
  rw [pieces, fits_slots.pieces_read (piece_at_slot free after), List.drop_left]
  rfl

theorem pieces_source (letters : List Char) : (pieces letters).flatMap Piece.source = letters := by
  induction letters using fits_slots.by_first_piece with
  | nil => rfl
  | read letters piece count here induction =>
      obtain ⟨inner, after, free, rfl, rfl, rfl⟩ := piece_at_some here
      rw [List.drop_left] at induction
      rw [pieces_slot free, List.flatMap_cons, induction]
  | plain letter rest here induction =>
      rw [pieces, Text.pieces_plain here, List.flatMap_cons, ← pieces, induction]
      rfl

theorem slot_braceless {letters inner : List Char} (member : .slot inner ∈ pieces letters) :
    Braceless inner := by
  rcases fits_slots.read_of_mem member with ⟨letter, plain⟩ | ⟨rest, count, here⟩
  · cases plain
  · obtain ⟨found, after, free, same, -⟩ := piece_at_some here
    cases same
    exact free

/-- A placeholder that begins in a text does not reach into one that stands right behind the text. -/
theorem slot_at_before {before inner after inside : List Char} (nonempty : before ≠ [])
    (here : slotAt? (before ++ ((Piece.slot inner).source ++ after)) = some inside) :
    slotAt? before = some inside := by
  obtain ⟨free, rest, same⟩ := slot_at_iff.mp here
  rcases List.append_eq_append_iff.mp same with ⟨more, longer, -⟩ | ⟨more, shorter, -⟩
  · have opening : ∀ offset < 2,
        ((Piece.slot inside).source ++ rest)[before.length + offset]? = some '{' := by
      intro offset small
      rw [← same, List.getElem?_append_right (by omega), Nat.add_sub_cancel_left]
      match offset with
      | 0 => rfl
      | 1 => rfl
      | more + 2 => omega
    have positive := List.length_pos_iff.mpr nonempty
    have lengths := congrArg List.length longer
    rw [source_length, List.length_append] at lengths
    by_cases inner_end : more = []
    · exact slot_at_iff.mpr ⟨free, [], by simpa [inner_end] using longer.symm⟩
    · have left := List.length_pos_iff.mpr inner_end
      have first := opening_in_slot free (by omega) (opening 0 (by omega))
      have second := opening_in_slot free (by omega) (opening 1 (by omega))
      omega
  · exact slot_at_iff.mpr ⟨free, more, shorter⟩

theorem slot_at_append {text inner : List Char} (some : text ≠ []) (after : List Char) :
    slotAt? (text ++ ((Piece.slot inner).source ++ after)) = slotAt? text := by
  apply Option.ext
  intro inside
  refine ⟨slot_at_before some, fun here => ?_⟩
  obtain ⟨free, rest, rfl⟩ := slot_at_iff.mp here
  exact slot_at_iff.mpr ⟨free, _, List.append_assoc _ _ _⟩

/-- The pieces before and behind a placeholder are those of the texts before and behind it. -/
theorem pieces_around_slot {inner : List Char} (free : Braceless inner) (before after : List Char) :
    pieces (before ++ ((Piece.slot inner).source ++ after)) =
      pieces before ++ .slot inner :: pieces after := by
  rw [← pieces_slot free]
  apply fits_slots.pieces_append
  intro text some _
  rw [pieceAt?, slot_at_append some, ← pieceAt?]

/-- The placeholders among the pieces of a text are those that stand in it. -/
theorem stands_iff_piece {letters inner : List Char} {start : Nat} :
    Stands letters start inner ↔ ∃ before after, pieces letters = before ++ .slot inner :: after ∧
      (before.flatMap Piece.source).length = start := by
  constructor
  · rintro ⟨free, after, behind⟩
    have within : start ≤ letters.length := by
      by_contra beyond
      rw [List.drop_eq_nil_of_le (by omega)] at behind
      cases behind
    have text : letters = letters.take start ++ ((Piece.slot inner).source ++ after) := by
      rw [source_append, ← behind, List.take_append_drop]
    refine ⟨pieces (letters.take start), pieces after, ?_, ?_⟩
    · rw [← pieces_around_slot free, ← text]
    · rw [pieces_source, List.length_take, Nat.min_eq_left within]
  · rintro ⟨before, after, divided, rfl⟩
    refine ⟨slot_braceless (by rw [divided]; simp), after.flatMap Piece.source, ?_⟩
    have text := pieces_source letters
    rw [divided, List.flatMap_append, List.flatMap_cons] at text
    rw [← text, List.drop_left, source_append]

theorem stands_apart {letters inner other : List Char} {first second : Nat}
    (one : Stands letters first inner) (two : Stands letters second other) (before : first < second) :
    first + inner.length + 4 ≤ second := by
  obtain ⟨free, rest, here⟩ := one
  obtain ⟨-, behind, there⟩ := two
  have opening : ∀ offset < 2,
      ((Piece.slot inner).source ++ rest)[second - first + offset]? = some '{' := by
    intro offset small
    have place : first + (second - first + offset) = second + offset := by omega
    rw [source_append, ← here, List.getElem?_drop, place,
      ← List.getElem?_drop, there]
    match offset with
    | 0 => rfl
    | 1 => rfl
    | more + 2 => omega
  by_contra near
  have one := opening_in_slot free (by omega) (opening 0 (by omega))
  have two := opening_in_slot free (by omega) (opening 1 (by omega))
  omega

theorem shown_of_means {store : Store} {inner : List Char} {text : String}
    (means : Placeholder.Means store inner text) : (Piece.slot inner).shown store = text.toList := by
  rw [Piece.shown, Placeholder.means_iff.mpr means]

theorem shown_of_unknown {store : Store} {inner : List Char}
    (unknown : ∀ text, ¬Placeholder.Means store inner text) :
    (Piece.slot inner).shown store = (Piece.slot inner).source := by
  have unresolved : (Placeholder.parse inner).resolve? store = none := by
    rw [Option.eq_none_iff_forall_ne_some]
    exact fun text resolved => unknown text (Placeholder.means_iff.mp resolved)
  rw [Piece.shown, unresolved]

theorem replaced_shown (store : Store) (piece : Piece) : Replaced store piece (piece.shown store) := by
  cases piece with
  | plain letter => exact .plain letter
  | slot inner =>
      by_cases known : ∃ text, Placeholder.Means store inner text
      · obtain ⟨text, means⟩ := known
        rw [shown_of_means means]
        exact .filled means
      · have unknown := not_exists.mp known
        rw [shown_of_unknown unknown]
        exact .kept unknown

/-- Showing a text shows what stands before and behind a placeholder by itself. -/
theorem shown_around_slot (store : Store) {inner : List Char} (free : Braceless inner)
    (before after : List Char) :
    shown store (before ++ '{' :: '{' :: inner ++ '}' :: '}' :: after) =
      shown store before ++ (Piece.slot inner).shown store ++ shown store after := by
  have text : before ++ '{' :: '{' :: inner ++ '}' :: '}' :: after =
      before ++ ((Piece.slot inner).source ++ after) := by simp [Piece.source]
  simp [text, shown, pieces_around_slot free]

theorem shown_of_no_meaning {store : Store} {letters : List Char}
    (nothing : ∀ start inner text, Stands letters start inner → ¬Placeholder.Means store inner text) :
    shown store letters = letters := by
  have kept : ∀ piece ∈ pieces letters, piece.shown store = piece.source := by
    intro piece member
    obtain ⟨before, after, divided⟩ := List.append_of_mem member
    cases piece with
    | plain letter => rfl
    | slot inner =>
        have stands := stands_iff_piece.mpr ⟨before, after, divided, rfl⟩
        exact shown_of_unknown fun text => nothing _ inner text stands
  calc
    shown store letters = (pieces letters).flatMap Piece.source := List.flatMap_congr kept
    _ = letters := pieces_source letters

/-- The placeholders of a text lie apart, and divide it into pieces. It is shown with each placeholder
replaced by what it means, if it means anything, and with all other letters in their order. What is put in
is not looked at again. -/
theorem shown_replaces_placeholders (store : Store) (letters : List Char) :
    (∀ first second inner other, Stands letters first inner → Stands letters second other →
      (first = second ∧ inner = other) ∨ first + inner.length + 4 ≤ second ∨
        second + other.length + 4 ≤ first) ∧
    (∃ division parts, division.flatMap Piece.source = letters ∧
      (∀ start inner, Stands letters start inner ↔ ∃ before after,
        division = before ++ .slot inner :: after ∧
          (before.flatMap Piece.source).length = start) ∧
      List.Forall₂ (Replaced store) division parts ∧ shown store letters = parts.flatten) ∧
    (∀ before inner after text, letters = before ++ '{' :: '{' :: inner ++ '}' :: '}' :: after →
      Braceless inner → Placeholder.Means store inner text →
      shown store letters = shown store before ++ text.toList ++ shown store after) ∧
    ((∀ start inner text, Stands letters start inner → ¬Placeholder.Means store inner text) →
      shown store letters = letters) := by
  refine ⟨?_, ⟨pieces letters, (pieces letters).map (Piece.shown store), pieces_source letters,
    fun start inner => stands_iff_piece, ?_, rfl⟩, ?_, shown_of_no_meaning⟩
  · intro first second inner other one two
    rcases Nat.lt_trichotomy first second with before | same | behind
    · exact Or.inr (Or.inl (stands_apart one two before))
    · subst same
      exact Or.inl ⟨rfl, Option.some.inj ((stands_iff.mp one).symm.trans (stands_iff.mp two))⟩
    · exact Or.inr (Or.inr (stands_apart two one behind))
  · rw [List.forall₂_map_right_iff, List.forall₂_same]
    exact fun piece _ => replaced_shown store piece
  · rintro before inner after text rfl free means
    rw [shown_around_slot store free, shown_of_means means]

/-- A variable whose text holds a placeholder for the other one. -/
def mirrors : Store :=
  [⟨"m", "mirror", .text "\x7b\x7bdepth\x7d\x7d"⟩, ⟨"d", "depth", .text "deep"⟩]

/-- Between three braces on each side the inner two count, and the placeholder that is put in stays. -/
theorem mirror_shown_once :
    Placeholder.Means mirrors "mirror".toList "\x7b\x7bdepth\x7d\x7d" ∧
      shown mirrors "\x7b\x7b\x7bmirror\x7d\x7d\x7d".toList =
        "\x7b\x7b\x7bdepth\x7d\x7d\x7d".toList := by
  have means : Placeholder.Means mirrors "mirror".toList "\x7b\x7bdepth\x7d\x7d" :=
    Placeholder.means_iff.mp rfl
  have free : Braceless "mirror".toList := ⟨by decide, by decide⟩
  have replaced := (shown_replaces_placeholders mirrors "\x7b\x7b\x7bmirror\x7d\x7d\x7d".toList).2.2.1
    ['{'] "mirror".toList ['}'] _ rfl free means
  exact ⟨means, replaced.trans rfl⟩

end Interpolation

end Narrative
