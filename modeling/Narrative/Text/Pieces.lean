import Narrative.Text.Blank

/-!
# Texts in pieces

A text is cut into pieces from left to right. A reader tells whether a piece begins a text, and how many
letters the piece takes; a letter where none begins stands by itself. Main fact: a text is cut by itself,
whatever stands behind it, if the reader finds the same in all its ends with and without what stands there
(`Fits.pieces_append`).
-/

namespace Narrative.Text

set_option autoImplicit false

section Pieces

variable {α : Type}

/-- The pieces of a text; the first `skip` letters belong to a piece before. -/
def piecesFrom (read? : List Char → Option (α × Nat)) (plain : Char → α) (skip : Nat) :
    List Char → List α
  | [] => []
  | letter :: rest =>
    match skip with
    | more + 1 => piecesFrom read? plain more rest
    | 0 =>
      match read? (letter :: rest) with
      | some (piece, count) => piece :: piecesFrom read? plain (count - 1) rest
      | none => plain letter :: piecesFrom read? plain 0 rest

def pieces (read? : List Char → Option (α × Nat)) (plain : Char → α) (text : List Char) : List α :=
  piecesFrom read? plain 0 text

/-- A piece takes a letter at least, and no more letters than there are. -/
def Fits (read? : List Char → Option (α × Nat)) : Prop :=
  ∀ text piece count, read? text = some (piece, count) → 0 < count ∧ count ≤ text.length

variable {read? : List Char → Option (α × Nat)} {plain : Char → α}

theorem pieces_from_skip (skip : Nat) (text : List Char) :
    piecesFrom read? plain skip text = pieces read? plain (text.drop skip) := by
  induction text generalizing skip with
  | nil => rw [List.drop_nil, pieces, piecesFrom, piecesFrom]
  | cons letter rest induction =>
      cases skip with
      | zero => rfl
      | succ more => rw [piecesFrom, induction, List.drop_succ_cons]

theorem pieces_plain {letter : Char} {rest : List Char} (none : read? (letter :: rest) = none) :
    pieces read? plain (letter :: rest) = plain letter :: pieces read? plain rest := by
  rw [pieces, piecesFrom, none]
  rfl

namespace Fits

variable (fits : Fits read?)

include fits

theorem pieces_read {text : List Char} {piece : α} {count : Nat} (here : read? text = some (piece, count)) :
    pieces read? plain text = piece :: pieces read? plain (text.drop count) := by
  obtain ⟨positive, short⟩ := fits text piece count here
  cases text with
  | nil => exact absurd positive (Nat.not_lt_of_le short)
  | cons letter rest =>
      obtain ⟨more, rfl⟩ := Nat.exists_eq_add_one.mpr positive
      rw [pieces, piecesFrom, here, List.drop_succ_cons, ← pieces_from_skip]
      rfl

/-- Induction on a text by its first piece: it has none, a piece is read at its beginning, or it begins
with a letter that stands by itself. -/
theorem by_first_piece {motive : List Char → Prop} (nil : motive [])
    (read : ∀ text piece count, read? text = some (piece, count) → motive (text.drop count) → motive text)
    (plain : ∀ letter rest, read? (letter :: rest) = none → motive rest → motive (letter :: rest))
    (text : List Char) : motive text := by
  match text with
  | [] => exact nil
  | letter :: rest =>
      cases here : read? (letter :: rest) with
      | none => exact plain letter rest here (by_first_piece nil read plain rest)
      | some found =>
          obtain ⟨positive, -⟩ := fits (letter :: rest) found.1 found.2 here
          have shorter : ((letter :: rest).drop found.2).length < rest.length + 1 := by
            rw [List.length_drop, List.length_cons]
            omega
          exact read _ found.1 found.2 here (by_first_piece nil read plain _)
termination_by text.length

/-- A piece stands for a letter by itself, or it is read somewhere. -/
theorem read_of_mem {text : List Char} {piece : α} (member : piece ∈ pieces read? plain text) :
    (∃ letter, piece = plain letter) ∨ ∃ rest count, read? rest = some (piece, count) := by
  induction text using fits.by_first_piece with
  | nil => cases member
  | read text found count here induction =>
      rw [fits.pieces_read here] at member
      rcases List.mem_cons.mp member with rfl | later
      · exact .inr ⟨text, count, here⟩
      · exact induction later
  | plain letter rest here induction =>
      rw [pieces_plain here] at member
      rcases List.mem_cons.mp member with rfl | later
      · exact .inl ⟨letter, rfl⟩
      · exact induction later

/-- A text is cut by itself where what stands behind it changes nothing that is read in it. -/
theorem pieces_append {before after : List Char}
    (same : ∀ text, text ≠ [] → text <:+ before → read? (text ++ after) = read? text) :
    pieces read? plain (before ++ after) = pieces read? plain before ++ pieces read? plain after := by
  induction before using fits.by_first_piece with
  | nil => rfl
  | read text piece count here induction =>
      obtain ⟨positive, short⟩ := fits text piece count here
      have some : text ≠ [] := List.length_pos_iff.mp (by omega)
      have longer := (same text some List.suffix_rfl).trans here
      rw [fits.pieces_read longer, fits.pieces_read here, List.drop_append_of_le_length short,
        induction fun rest filled inner => same rest filled (inner.trans (List.drop_suffix count text)),
        List.cons_append]
  | plain letter rest here induction =>
      have longer := (same (letter :: rest) (List.cons_ne_nil letter rest) List.suffix_rfl).trans here
      rw [List.cons_append] at longer ⊢
      rw [pieces_plain longer, pieces_plain here,
        induction fun text filled inner => same text filled (inner.trans (List.suffix_cons letter rest)),
        List.cons_append]

end Fits

end Pieces

/-- A text with what is read in it replaced, from left to right. -/
def rewrite (read? : List Char → Option (List Char × Nat)) (text : List Char) : List Char :=
  (pieces read? (fun letter => [letter]) text).flatten

theorem Fits.rewrite_append {read? : List Char → Option (List Char × Nat)} (fits : Fits read?)
    {before after : List Char}
    (same : ∀ text, text ≠ [] → text <:+ before → read? (text ++ after) = read? text) :
    rewrite read? (before ++ after) = rewrite read? before ++ rewrite read? after := by
  rw [rewrite, fits.pieces_append same, List.flatten_append]
  rfl

theorem Fits.rewrite_read {read? : List Char → Option (List Char × Nat)} (fits : Fits read?)
    {text letters : List Char} {count : Nat} (here : read? text = some (letters, count)) :
    rewrite read? text = letters ++ rewrite read? (text.drop count) := by
  rw [rewrite, fits.pieces_read here, List.flatten_cons]
  rfl

theorem rewrite_plain {read? : List Char → Option (List Char × Nat)} {letter : Char} {rest : List Char}
    (none : read? (letter :: rest) = none) :
    rewrite read? (letter :: rest) = letter :: rewrite read? rest := by
  rw [rewrite, pieces_plain none, List.flatten_cons]
  rfl

/-- What is put for a word that begins a text. The empty word begins none. -/
def wordAt? (word replacement text : List Char) : Option (List Char × Nat) :=
  if !word.isEmpty && (after? word text).isSome then some (replacement, word.length) else none

/-- Replaces a word wherever it stands, from left to right. -/
def replace (word replacement text : List Char) : List Char :=
  rewrite (wordAt? word replacement) text

theorem word_at_some {word replacement text letters : List Char} {count : Nat}
    (found : wordAt? word replacement text = some (letters, count)) :
    word ≠ [] ∧ letters = replacement ∧ count = word.length ∧ ∃ rest, text = word ++ rest := by
  unfold wordAt? at found
  split at found
  · rename_i stands
    obtain ⟨some, begins⟩ : word ≠ [] ∧ (after? word text).isSome = true := by simpa using stands
    obtain ⟨rest, begins⟩ := Option.isSome_iff_exists.mp begins
    cases found
    exact ⟨some, rfl, rfl, rest, append_of_after begins⟩
  · cases found

theorem replace_other {word : List Char} {letter : Char} (other : word.head? ≠ some letter)
    (replacement rest : List Char) :
    replace word replacement (letter :: rest) = letter :: replace word replacement rest := by
  apply rewrite_plain
  rw [Option.eq_none_iff_forall_ne_some]
  rintro ⟨letters, count⟩ found
  obtain ⟨some, -, -, behind, begins⟩ := word_at_some found
  obtain ⟨first, others, rfl⟩ := List.exists_cons_of_ne_nil some
  exact other (congrArg Option.some (List.cons.inj begins).1.symm)

theorem fits_word (word replacement : List Char) : Fits (wordAt? word replacement) := by
  intro text letters count found
  obtain ⟨some, -, rfl, rest, rfl⟩ := word_at_some found
  exact ⟨List.length_pos_iff.mpr some, by simp⟩

end Narrative.Text
