import Narrative.Proofs.Json.Figures
import Narrative.Proofs.Json.Scanning

/-!
# Documents read back

The compact text and the indented text of a document have the same tokens, and these build the same
value: `heard`. It is the document itself where every number survives being written.
-/

namespace Narrative.Json

set_option autoImplicit false

/-- The number that letters spell. -/
def figure? (letters : List Char) : Option (Int ⊕ Float) :=
  (Figure.spelling? letters).bind Figure.Spelling.value?

mutual

/-- Every number of the document is the number that its own letters spell. -/
def Legible : Json → Prop
  | .null => True
  | .boolean _ => True
  | .whole number => figure? (Number.wholeText number) = some (.inl number)
  | .real number => figure? (realText number) = some (.inr number)
  | .text _ => True
  | .list items => LegibleItems items
  | .object members => LegibleMembers members

def LegibleItems : List Json → Prop
  | [] => True
  | item :: rest => Legible item ∧ LegibleItems rest

def LegibleMembers : List (String × Json) → Prop
  | [] => True
  | (_, member) :: rest => Legible member ∧ LegibleMembers rest

end

theorem legible_items_iff {items : List Json} :
    LegibleItems items ↔ ∀ item ∈ items, Legible item := by
  induction items with
  | nil => simp [LegibleItems]
  | cons item rest ih => simp [LegibleItems, ih]

theorem legible_items_map {α : Type} {write : α → Json} {values : List α}
    (each : ∀ value ∈ values, (write value).Legible) : LegibleItems (values.map write) := by
  apply legible_items_iff.mpr
  intro item member
  obtain ⟨value, here, rfl⟩ := List.mem_map.mp member
  exact each value here

theorem legible_members_iff {members : List (String × Json)} :
    LegibleMembers members ↔ ∀ member ∈ members, Legible member.2 := by
  induction members with
  | nil => simp [LegibleMembers]
  | cons member rest ih => simp [LegibleMembers, ih]

mutual

/-- What the text of a document says: the document, with the numbers that their letters spell. -/
def heard : Json → Raw
  | .null => .null
  | .boolean flag => .boolean flag
  | .whole number => .number (figure? (Number.wholeText number))
  | .real number =>
    if Number.isFinite number then .number (figure? (realText number)) else .null
  | .text letters => .text (some letters)
  | .list items => .list (heardItems items)
  | .object members => .object (heardMembers members)

def heardItems : List Json → List Raw
  | [] => []
  | item :: rest => heard item :: heardItems rest

def heardMembers : List (String × Json) → List (Option String × Raw)
  | [] => []
  | (name, member) :: rest => (some name, heard member) :: heardMembers rest

end

mutual

/-- A legible document is heard as it is. -/
theorem heard_of_legible {document : Json} (legible : Legible document) :
    heard document = document.toRaw := by
  cases document with
  | whole number =>
      have read : figure? (Number.wholeText number) = some (.inl number) := legible
      rw [heard, read, toRaw]
  | real number =>
      have read : figure? (realText number) = some (.inr number) := legible
      cases finite : Number.isFinite number with
      | true => simp [heard, read, toRaw, finite]
      | false =>
          have unread : realText number = ['n', 'u', 'l', 'l'] := by
            cases meaning : Number.Binary.ofFloat number with
            | finite negative significand exponent => simp [Number.isFinite, meaning] at finite
            | _ => simp [realText, meaning]
          rw [unread] at read
          have nothing : figure? ['n', 'u', 'l', 'l'] = none := rfl
          simp [nothing] at read
  | list items => rw [heard, heard_items_of_legible legible, toRaw]
  | object members => rw [heard, heard_members_of_legible legible, toRaw]
  | _ => rfl

theorem heard_items_of_legible {items : List Json} (legible : LegibleItems items) :
    heardItems items = itemsToRaw items := by
  cases items with
  | nil => rfl
  | cons item rest =>
      rw [heardItems, heard_of_legible legible.1, heard_items_of_legible legible.2, itemsToRaw]

theorem heard_members_of_legible {members : List (String × Json)}
    (legible : LegibleMembers members) : heardMembers members = membersToRaw members := by
  cases members with
  | nil => rfl
  | cons member rest =>
      rw [heardMembers, heard_of_legible legible.1, heard_members_of_legible legible.2, membersToRaw]

end

mutual

/-- The tokens of a document, up to the blanks between them. -/
def spelled : Json → List Token
  | .null => [.null]
  | .boolean flag => [.boolean flag]
  | .whole number => [.number (figure? (Number.wholeText number))]
  | .real number =>
    if Number.isFinite number then [.number (figure? (realText number))] else [.null]
  | .text letters => [.text (some letters)]
  | .list items => .listOpen :: spelledItems items
  | .object members => .objectOpen :: spelledMembers members

def spelledItems : List Json → List Token
  | [] => [.listClose]
  | item :: rest => spelled item ++ spelledLaterItems rest

def spelledLaterItems : List Json → List Token
  | [] => [.listClose]
  | item :: rest => .comma :: (spelled item ++ spelledLaterItems rest)

def spelledMembers : List (String × Json) → List Token
  | [] => [.objectClose]
  | (name, member) :: rest =>
    .text (some name) :: .colon :: (spelled member ++ spelledLaterMembers rest)

def spelledLaterMembers : List (String × Json) → List Token
  | [] => [.objectClose]
  | (name, member) :: rest =>
    .comma :: .text (some name) :: .colon :: (spelled member ++ spelledLaterMembers rest)

end

theorem tokens_from_number {letters : List Char} (spelled : (Figure.spelling? letters).isSome = true)
    (found : List Token) {rest : List Char} (breaks : Breaks rest) :
    tokensFrom? found (letters ++ rest) = tokensFrom? (.number (figure? letters) :: found) rest := by
  obtain ⟨spelling, read⟩ := Option.isSome_iff_exists.mp spelled
  rw [tokens_from_figure read found breaks, figure?, read, Option.bind_some]

theorem tokens_from_whole (number : Int) (found : List Token) {rest : List Char}
    (breaks : Breaks rest) :
    tokensFrom? found (Number.wholeText number ++ rest) =
      tokensFrom? ((spelled (.whole number)).reverse ++ found) rest :=
  tokens_from_number (Figure.spelled_of_whole number) found breaks

theorem tokens_from_real (number : Float) (found : List Token) {rest : List Char}
    (breaks : Breaks rest) :
    tokensFrom? found (realText number ++ rest) =
      tokensFrom? ((spelled (.real number)).reverse ++ found) rest := by
  cases meaning : Number.Binary.ofFloat number with
  | finite negative significand exponent =>
      have text : realText number = Number.documentText negative significand exponent := by
        rw [realText, meaning]
      have finite : Number.isFinite number = true := by simp [Number.isFinite, meaning]
      have token := tokens_from_number (Figure.spelled_of_document negative significand exponent)
        found breaks
      simpa [spelled, finite, text] using token
  | _ =>
      have finite : Number.isFinite number = false := by simp [Number.isFinite, meaning]
      have text : realText number = ['n', 'u', 'l', 'l'] := by rw [realText, meaning]
      rw [text]
      simpa [spelled, finite] using tokens_from_null found rest

/-- The compact text of the items that follow breaks a number before it. -/
theorem breaks_later_items (items : List Json) (rest : List Char) :
    Breaks (compactLaterItems items ++ rest) := by
  cases items with
  | nil => exact breaks_cons rfl
  | cons item others => exact breaks_cons rfl

theorem breaks_later_members (members : List (String × Json)) (rest : List Char) :
    Breaks (compactLaterMembers members ++ rest) := by
  cases members with
  | nil => exact breaks_cons rfl
  | cons member others => exact breaks_cons rfl

mutual

theorem tokens_from_compact (document : Json) (found : List Token) (rest : List Char)
    (breaks : Breaks rest) :
    tokensFrom? found (compact document ++ rest) =
      tokensFrom? ((spelled document).reverse ++ found) rest := by
  cases document with
  | null => exact tokens_from_null found rest
  | boolean flag =>
      cases flag with
      | true => exact tokens_from_true found rest
      | false => exact tokens_from_false found rest
  | whole number => exact tokens_from_whole number found breaks
  | real number => exact tokens_from_real number found breaks
  | text letters => exact tokens_from_quote letters found rest
  | list items =>
      change tokensFrom? (.listOpen :: found) (compactItems items ++ rest) = _
      rw [tokens_from_compact_items items, spelled]
      simp
  | object members =>
      change tokensFrom? (.objectOpen :: found) (compactMembers members ++ rest) = _
      rw [tokens_from_compact_members members, spelled]
      simp

theorem tokens_from_compact_items (items : List Json) (found : List Token) (rest : List Char) :
    tokensFrom? found (compactItems items ++ rest) =
      tokensFrom? ((spelledItems items).reverse ++ found) rest := by
  cases items with
  | nil => rfl
  | cons item others =>
      rw [compactItems, List.append_assoc,
        tokens_from_compact item found _ (breaks_later_items others rest),
        tokens_from_later_items others, spelledItems]
      simp

theorem tokens_from_later_items (items : List Json) (found : List Token) (rest : List Char) :
    tokensFrom? found (compactLaterItems items ++ rest) =
      tokensFrom? ((spelledLaterItems items).reverse ++ found) rest := by
  cases items with
  | nil => rfl
  | cons item others =>
      rw [compactLaterItems, List.cons_append, List.append_assoc]
      change tokensFrom? (.comma :: found) _ = _
      rw [tokens_from_compact item _ _ (breaks_later_items others rest),
        tokens_from_later_items others, spelledLaterItems]
      simp

theorem tokens_from_compact_members (members : List (String × Json)) (found : List Token)
    (rest : List Char) :
    tokensFrom? found (compactMembers members ++ rest) =
      tokensFrom? ((spelledMembers members).reverse ++ found) rest := by
  match members with
  | [] => rfl
  | (name, member) :: others =>
      rw [compactMembers, List.append_assoc, tokens_from_quote, List.cons_append]
      change tokensFrom? (.colon :: .text (some name) :: found) _ = _
      rw [List.append_assoc,
        tokens_from_compact member _ _ (breaks_later_members others rest),
        tokens_from_later_members others, spelledMembers]
      simp

theorem tokens_from_later_members (members : List (String × Json)) (found : List Token)
    (rest : List Char) :
    tokensFrom? found (compactLaterMembers members ++ rest) =
      tokensFrom? ((spelledLaterMembers members).reverse ++ found) rest := by
  match members with
  | [] => rfl
  | (name, member) :: others =>
      rw [compactLaterMembers, List.cons_append]
      change tokensFrom? (.comma :: found) _ = _
      rw [List.append_assoc, tokens_from_quote, List.cons_append]
      change tokensFrom? (.colon :: .text (some name) :: .comma :: found) _ = _
      rw [List.append_assoc,
        tokens_from_compact member _ _ (breaks_later_members others rest),
        tokens_from_later_members others, spelledLaterMembers]
      simp

end

theorem tokens_from_line (level : Nat) (found : List Token) (rest : List Char) :
    tokensFrom? found (lineAt level ++ rest) = tokensFrom? found rest := by
  have blanks : ∀ count, tokensFrom? found (List.replicate count ' ' ++ rest) =
      tokensFrom? found rest := by
    intro count
    induction count with
    | zero => rfl
    | succ count ih =>
        rw [List.replicate_succ, List.cons_append, tokens_from_space rfl]
        exact ih
  rw [lineAt, List.cons_append, tokens_from_space rfl]
  exact blanks (2 * level)

theorem breaks_indented_items (level : Nat) (items : List Json) (rest : List Char) :
    Breaks (indentedItems level items ++ rest) := by
  cases items with
  | nil => exact breaks_cons rfl
  | cons item others => exact breaks_cons rfl

theorem breaks_indented_members (level : Nat) (members : List (String × Json))
    (rest : List Char) : Breaks (indentedMembers level members ++ rest) := by
  cases members with
  | nil => exact breaks_cons rfl
  | cons member others => exact breaks_cons rfl

mutual

theorem tokens_from_indented (level : Nat) (document : Json) (found : List Token)
    (rest : List Char) (breaks : Breaks rest) :
    tokensFrom? found (indented level document ++ rest) =
      tokensFrom? ((spelled document).reverse ++ found) rest := by
  match document with
  | .null => exact tokens_from_null found rest
  | .boolean true => exact tokens_from_true found rest
  | .boolean false => exact tokens_from_false found rest
  | .whole number => exact tokens_from_whole number found breaks
  | .real number => exact tokens_from_real number found breaks
  | .text letters => exact tokens_from_quote letters found rest
  | .list [] => rfl
  | .list (item :: others) =>
      rw [indented, List.cons_append]
      change tokensFrom? (.listOpen :: found) _ = _
      rw [List.append_assoc, tokens_from_line, List.append_assoc,
        tokens_from_indented (level + 1) item _ _ (breaks_indented_items level others rest),
        tokens_from_indented_items level others, spelled, spelledItems]
      simp
  | .object [] => rfl
  | .object ((name, member) :: others) =>
      rw [indented, List.cons_append]
      change tokensFrom? (.objectOpen :: found) _ = _
      rw [List.append_assoc, tokens_from_line, List.append_assoc, tokens_from_quote,
        List.cons_append]
      change tokensFrom? (.colon :: .text (some name) :: .objectOpen :: found) _ = _
      rw [List.cons_append, tokens_from_space rfl, List.append_assoc,
        tokens_from_indented (level + 1) member _ _
          (breaks_indented_members level others rest),
        tokens_from_indented_members level others, spelled, spelledMembers]
      simp

theorem tokens_from_indented_items (level : Nat) (items : List Json) (found : List Token)
    (rest : List Char) :
    tokensFrom? found (indentedItems level items ++ rest) =
      tokensFrom? ((spelledLaterItems items).reverse ++ found) rest := by
  match items with
  | [] =>
      rw [indentedItems, List.append_assoc, tokens_from_line]
      rfl
  | item :: others =>
      rw [indentedItems, List.cons_append]
      change tokensFrom? (.comma :: found) _ = _
      rw [List.append_assoc, tokens_from_line, List.append_assoc,
        tokens_from_indented (level + 1) item _ _ (breaks_indented_items level others rest),
        tokens_from_indented_items level others, spelledLaterItems]
      simp

theorem tokens_from_indented_members (level : Nat) (members : List (String × Json))
    (found : List Token) (rest : List Char) :
    tokensFrom? found (indentedMembers level members ++ rest) =
      tokensFrom? ((spelledLaterMembers members).reverse ++ found) rest := by
  match members with
  | [] =>
      rw [indentedMembers, List.append_assoc, tokens_from_line]
      rfl
  | (name, member) :: others =>
      rw [indentedMembers, List.cons_append]
      change tokensFrom? (.comma :: found) _ = _
      rw [List.append_assoc, tokens_from_line, List.append_assoc, tokens_from_quote,
        List.cons_append]
      change tokensFrom? (.colon :: .text (some name) :: .comma :: found) _ = _
      rw [List.cons_append, tokens_from_space rfl, List.append_assoc,
        tokens_from_indented (level + 1) member _ _
          (breaks_indented_members level others rest),
        tokens_from_indented_members level others, spelledLaterMembers]
      simp

end

mutual

/-- The tokens of a document build it wherever a value may begin. -/
theorem run_spelled (document : Json) (frames : List Frame) {want : Want}
    (ready : want = .value ∨ want = .firstItem) (rest : List Token) :
    Build.run? (.open frames want) (spelled document ++ rest) =
      Build.run? (Build.put frames document.heard) rest := by
  match document with
  | .null => rcases ready with rfl | rfl <;> rfl
  | .boolean flag => rcases ready with rfl | rfl <;> rfl
  | .whole number => rcases ready with rfl | rfl <;> rfl
  | .real number =>
      rw [spelled, heard]
      cases Number.isFinite number <;> rcases ready with rfl | rfl <;> rfl
  | .text letters => rcases ready with rfl | rfl <;> rfl
  | .list items =>
      have items' := run_spelled_items items frames rest
      rcases ready with rfl | rfl <;> exact items'
  | .object members =>
      have members' := run_spelled_members members frames rest
      rcases ready with rfl | rfl <;> exact members'

theorem run_spelled_items (items : List Json) (outer : List Frame) (rest : List Token) :
    Build.run? (.open (.list [] :: outer) .firstItem) (spelledItems items ++ rest) =
      Build.run? (Build.put outer (.list (heardItems items))) rest := by
  match items with
  | [] => rfl
  | item :: others =>
      rw [spelledItems, List.append_assoc, run_spelled item _ (Or.inr rfl)]
      exact run_later_items others [item.heard] outer rest

theorem run_later_items (items : List Json) (earlier : List Raw) (outer : List Frame)
    (rest : List Token) :
    Build.run? (.open (.list earlier :: outer) .separator) (spelledLaterItems items ++ rest) =
      Build.run? (Build.put outer (.list (earlier.reverse ++ heardItems items))) rest := by
  match items with
  | [] =>
      rw [heardItems, List.append_nil]
      rfl
  | item :: others =>
      rw [spelledLaterItems, List.cons_append, List.append_assoc]
      change Build.run? (.open (.list earlier :: outer) .value) _ = _
      rw [run_spelled item _ (Or.inl rfl)]
      change Build.run? (.open (.list (item.heard :: earlier) :: outer) .separator) _ = _
      rw [run_later_items others]
      simp [heardItems]

theorem run_spelled_members (members : List (String × Json)) (outer : List Frame)
    (rest : List Token) :
    Build.run? (.open (.object [] none :: outer) .firstName) (spelledMembers members ++ rest) =
      Build.run? (Build.put outer (.object (heardMembers members))) rest := by
  match members with
  | [] => rfl
  | (name, member) :: others =>
      rw [spelledMembers, List.cons_append, List.cons_append, List.append_assoc]
      change Build.run? (.open (.object [] (some name) :: outer) .value) _ = _
      rw [run_spelled member _ (Or.inl rfl)]
      exact run_later_members others [(some name, member.heard)] outer rest

theorem run_later_members (members : List (String × Json)) (earlier : List (Option String × Raw))
    (outer : List Frame) (rest : List Token) :
    Build.run? (.open (.object earlier none :: outer) .separator)
        (spelledLaterMembers members ++ rest) =
      Build.run? (Build.put outer (.object (earlier.reverse ++ heardMembers members))) rest := by
  match members with
  | [] =>
      rw [heardMembers, List.append_nil]
      rfl
  | (name, member) :: others =>
      rw [spelledLaterMembers, List.cons_append, List.cons_append, List.cons_append,
        List.append_assoc]
      change Build.run? (.open (.object earlier (some name) :: outer) .value) _ = _
      rw [run_spelled member _ (Or.inl rfl)]
      change Build.run? (.open (.object ((some name, member.heard) :: earlier) none :: outer)
        .separator) _ = _
      rw [run_later_members others]
      simp [heardMembers]

end

/-- A text with the tokens of a document says what is heard of it. -/
theorem raw_of_tokens {text : List Char} {document : Json}
    (tokens : tokens? text = some (spelled document)) : raw? text = some document.heard := by
  have run := run_spelled document [] (Or.inl rfl) []
  rw [List.append_nil] at run
  simp [raw?, tokens, run, Build.put, Build.run?]

theorem raw_of_compact (document : Json) : raw? document.compact = some document.heard := by
  apply raw_of_tokens
  have tokens := tokens_from_compact document [] [] breaks_nil
  rw [List.append_nil, List.append_nil] at tokens
  rw [tokens_from_nil, tokens]
  simp [tokensFrom?, Scan.run?, Scan.finish?]

theorem raw_of_indented (document : Json) : raw? (indented 0 document) = some document.heard := by
  apply raw_of_tokens
  have tokens := tokens_from_indented 0 document [] [] breaks_nil
  rw [List.append_nil, List.append_nil] at tokens
  rw [tokens_from_nil, tokens]
  simp [tokensFrom?, Scan.run?, Scan.finish?]

theorem raw_compact {document : Json} (legible : Legible document) :
    raw? document.compact = some document.toRaw := by
  rw [raw_of_compact, heard_of_legible legible]

theorem raw_indented {document : Json} (legible : Legible document) :
    raw? (indented 0 document) = some document.toRaw := by
  rw [raw_of_indented, heard_of_legible legible]

end Narrative.Json
