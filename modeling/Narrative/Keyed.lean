/-!
# Keyed entries

Maps from names to values as lists of entries whose names go up strictly by code points. Inserting
keeps that order and replaces what a name had before.
-/

namespace Narrative

set_option autoImplicit false

/-- Order of texts by code points, the first difference deciding and a shorter text going first. -/
def lettersBefore : List Char → List Char → Bool
  | _, [] => false
  | [], _ :: _ => true
  | left :: lefts, right :: rights =>
    if left = right then lettersBefore lefts rights else left.toNat < right.toNat

/-- Order of names by code points. -/
def nameBefore (left right : String) : Bool :=
  lettersBefore left.toList right.toList

theorem letters_before_irrefl (letters : List Char) : lettersBefore letters letters = false := by
  induction letters with
  | nil => rfl
  | cons letter rest ih => simpa [lettersBefore] using ih

theorem letters_before_trans {left middle right : List Char}
    (first : lettersBefore left middle = true) (second : lettersBefore middle right = true) :
    lettersBefore left right = true := by
  induction left generalizing middle right with
  | nil =>
      cases right with
      | nil => cases middle <;> simp [lettersBefore] at second
      | cons letter rest => rfl
  | cons letter rest ih =>
      cases middle with
      | nil => simp [lettersBefore] at first
      | cons middleLetter middleRest =>
          cases right with
          | nil => simp [lettersBefore] at second
          | cons rightLetter rightRest =>
              simp only [lettersBefore] at first second ⊢
              by_cases same : letter = middleLetter
              · subst same
                by_cases again : letter = rightLetter
                · simp only [again, if_true] at first second ⊢
                  exact ih first second
                · simpa [again] using second
              · by_cases again : middleLetter = rightLetter
                · subst again
                  simpa [same] using first
                · have less : letter.toNat < middleLetter.toNat := by simpa [same] using first
                  have more : middleLetter.toNat < rightLetter.toNat := by simpa [again] using second
                  have apart : letter ≠ rightLetter := by
                    intro equal
                    rw [equal] at less
                    omega
                  simp only [apart, if_false, decide_eq_true_eq]
                  omega

/-- Of two different texts one goes before the other. -/
theorem letters_before_of_not {left right : List Char} (apart : left ≠ right)
    (not : lettersBefore left right = false) : lettersBefore right left = true := by
  induction left generalizing right with
  | nil =>
      cases right with
      | nil => exact absurd rfl apart
      | cons letter rest => simp [lettersBefore] at not
  | cons letter rest ih =>
      cases right with
      | nil => rfl
      | cons rightLetter rightRest =>
          by_cases same : letter = rightLetter
          · subst same
            simp only [lettersBefore, if_true] at not ⊢
            exact ih (by simpa using apart) not
          · have codes : letter.toNat ≠ rightLetter.toNat := by
              intro equal
              exact same (Char.toNat_inj.mp equal)
            have less : ¬letter.toNat < rightLetter.toNat := by
              simpa [lettersBefore, same] using not
            simp only [lettersBefore, Ne.symm same, if_false, decide_eq_true_eq]
            omega

theorem name_before_irrefl (name : String) : nameBefore name name = false :=
  letters_before_irrefl name.toList

theorem name_before_trans {left middle right : String} (first : nameBefore left middle = true)
    (second : nameBefore middle right = true) : nameBefore left right = true :=
  letters_before_trans first second

theorem name_before_of_not {left right : String} (apart : left ≠ right)
    (not : nameBefore left right = false) : nameBefore right left = true :=
  letters_before_of_not (fun same => apart (String.toList_inj.mp same)) not

theorem name_before_asymm {left right : String} (before : nameBefore left right = true) :
    nameBefore right left = false := by
  cases after : nameBefore right left with
  | false => rfl
  | true =>
      have loop := name_before_trans before after
      rw [name_before_irrefl] at loop
      simp at loop

/-- Entries of a map, in the order of their names. -/
abbrev Keyed (α : Type) := List (String × α)

namespace Keyed

/-- The value that a name has. -/
def find? {α : Type} (name : String) : Keyed α → Option α
  | [] => none
  | entry :: rest => if entry.1 = name then some entry.2 else find? name rest

/-- Gives a name a value, in its place in the order. -/
def insert {α : Type} (name : String) (value : α) : Keyed α → Keyed α
  | [] => [(name, value)]
  | entry :: rest =>
    if entry.1 = name then (name, value) :: rest
    else if nameBefore name entry.1 then (name, value) :: entry :: rest
    else entry :: insert name value rest

/-- Takes a name out. -/
def erase {α : Type} (name : String) : Keyed α → Keyed α
  | [] => []
  | entry :: rest => if entry.1 = name then rest else entry :: erase name rest

/-- Inserts pairs one after another, so that of several with one name the last stays. -/
def ofPairs {α : Type} (pairs : List (String × α)) : Keyed α :=
  pairs.foldl (fun entries pair => insert pair.1 pair.2 entries) []

@[simp] theorem find?_nil {α : Type} (name : String) : find? name ([] : Keyed α) = none := rfl

theorem find?_insert_self {α : Type} (name : String) (value : α) (entries : Keyed α) :
    find? name (insert name value entries) = some value := by
  induction entries with
  | nil => simp [insert, find?]
  | cons entry rest ih =>
    by_cases named : entry.1 = name
    · simp [insert, find?, named]
    · by_cases before : nameBefore name entry.1 = true <;> simp [insert, find?, named, before, ih]

theorem find?_insert_of_ne {α : Type} {name other : String} (value : α) (entries : Keyed α)
    (different : other ≠ name) :
    find? other (insert name value entries) = find? other entries := by
  induction entries with
  | nil => simp [insert, find?, Ne.symm different]
  | cons entry rest ih =>
    by_cases named : entry.1 = name
    · subst named
      simp [insert, find?, Ne.symm different]
    · by_cases before : nameBefore name entry.1 = true <;>
        simp [insert, find?, named, before, ih, Ne.symm different]

theorem mem_insert {α : Type} {name : String} {value : α} {entries : Keyed α}
    {entry : String × α} (member : entry ∈ insert name value entries) :
    entry = (name, value) ∨ entry ∈ entries := by
  induction entries with
  | nil => exact Or.inl (by simpa [insert] using member)
  | cons first rest ih =>
      by_cases named : first.1 = name
      · rcases List.mem_cons.mp (by simpa [insert, named] using member) with same | later
        · exact Or.inl same
        · exact Or.inr (by simp [later])
      · by_cases before : nameBefore name first.1 = true
        · simpa [insert, named, before] using member
        · rcases List.mem_cons.mp (by simpa [insert, named, before] using member) with same | later
          · exact Or.inr (by simp [same])
          · rcases ih later with same | old
            · exact Or.inl same
            · exact Or.inr (by simp [old])

theorem mem_of_pairs {α : Type} {pairs : List (String × α)} {entry : String × α}
    (member : entry ∈ ofPairs pairs) : entry ∈ pairs := by
  have grown : ∀ (pairs : List (String × α)) (entries : Keyed α),
      entry ∈ pairs.foldl (fun entries pair => insert pair.1 pair.2 entries) entries →
        entry ∈ pairs ∨ entry ∈ entries := by
    intro pairs
    induction pairs with
    | nil => exact fun _ held => Or.inr held
    | cons pair rest ih =>
        intro entries held
        rcases ih _ held with later | inserted
        · exact Or.inl (List.mem_cons_of_mem pair later)
        · rcases mem_insert inserted with same | old
          · exact Or.inl (by simp [same])
          · exact Or.inr old
  simpa using grown pairs [] member

/-- The names of the entries go up strictly. -/
def Ordered {α : Type} (entries : Keyed α) : Prop :=
  entries.Pairwise fun first second => nameBefore first.1 second.1 = true

theorem ordered_insert {α : Type} {entries : Keyed α} (ordered : Ordered entries) (name : String)
    (value : α) : Ordered (insert name value entries) := by
  induction entries with
  | nil => simp [insert, Ordered]
  | cons first rest ih =>
      obtain ⟨lowest, others⟩ := List.pairwise_cons.mp ordered
      by_cases named : first.1 = name
      · simp only [insert, named, if_true]
        exact List.pairwise_cons.mpr ⟨by simpa [named] using lowest, others⟩
      · by_cases before : nameBefore name first.1 = true
        · simp only [insert, named, before, if_true, if_false]
          apply List.pairwise_cons.mpr ⟨_, ordered⟩
          intro entry member
          rcases List.mem_cons.mp member with same | later
          · rw [same]
            exact before
          · exact name_before_trans before (lowest entry later)
        · simp only [insert, named, before, if_false]
          apply List.pairwise_cons.mpr ⟨_, ih others⟩
          intro entry member
          rcases mem_insert member with same | old
          · rw [same]
            exact name_before_of_not (Ne.symm named) (by simpa using before)
          · exact lowest entry old

/-- A name that comes after all others goes to the end. -/
theorem insert_last {α : Type} {entries : Keyed α} {name : String} (value : α)
    (last : ∀ entry ∈ entries, nameBefore entry.1 name = true) :
    insert name value entries = entries ++ [(name, value)] := by
  induction entries with
  | nil => rfl
  | cons first rest ih =>
      have before := last first (by simp)
      have named : first.1 ≠ name := by
        intro same
        rw [same, name_before_irrefl] at before
        simp at before
      have after : nameBefore name first.1 = false := name_before_asymm before
      have others := ih (by intro entry member; exact last entry (by simp [member]))
      simp [insert, named, after, others]

theorem ordered_of_pairs {α : Type} (pairs : List (String × α)) : Ordered (ofPairs pairs) := by
  have grown : ∀ entries : Keyed α, Ordered entries →
      Ordered (pairs.foldl (fun entries pair => insert pair.1 pair.2 entries) entries) := by
    induction pairs with
    | nil => exact fun _ ordered => ordered
    | cons pair rest ih => exact fun _ ordered => ih _ (ordered_insert ordered pair.1 pair.2)
  exact grown [] List.Pairwise.nil

/-- Pairs in order are the entries that they make. -/
theorem of_pairs_of_ordered {α : Type} {pairs : List (String × α)} (ordered : Ordered pairs) :
    ofPairs pairs = pairs := by
  have grown : ∀ entries : Keyed α, Ordered (entries ++ pairs) →
      pairs.foldl (fun entries pair => insert pair.1 pair.2 entries) entries = entries ++ pairs := by
    induction pairs with
    | nil => simp
    | cons pair rest ih =>
        intro entries all
        have last : ∀ entry ∈ entries, nameBefore entry.1 pair.1 = true := by
          intro entry member
          exact (List.pairwise_append.mp all).2.2 entry member pair (by simp)
        rw [List.foldl_cons, insert_last pair.2 last, ih (List.pairwise_cons.mp ordered).2 _
          (by simpa using all)]
        simp
  exact grown [] ordered

/-- Only the names decide about the order. -/
theorem Ordered.map {α β : Type} {entries : Keyed α} (ordered : Ordered entries) (change : α → β) :
    Ordered (entries.map fun entry => (entry.1, change entry.2)) :=
  List.pairwise_map.mpr ordered

end Keyed

/-- A map with its entries in the order of their names, each name once. -/
structure Dictionary (α : Type) where
  entries : Keyed α
  ordered : entries.Ordered

namespace Dictionary

/-- Inserts pairs one after another, so that of several with one name the last stays. -/
def ofPairs {α : Type} (pairs : List (String × α)) : Dictionary α :=
  ⟨Keyed.ofPairs pairs, Keyed.ordered_of_pairs pairs⟩

@[ext]
theorem ext {α : Type} {left right : Dictionary α} (same : left.entries = right.entries) :
    left = right := by
  cases left
  cases right
  subst same
  rfl

theorem of_pairs_entries {α : Type} (dictionary : Dictionary α) :
    ofPairs dictionary.entries = dictionary :=
  ext (Keyed.of_pairs_of_ordered dictionary.ordered)

def map {α β : Type} (change : α → β) (dictionary : Dictionary α) : Dictionary β :=
  ⟨dictionary.entries.map fun entry => (entry.1, change entry.2), dictionary.ordered.map change⟩

end Dictionary

end Narrative
