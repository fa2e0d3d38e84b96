import Narrative.Player.Report
import Narrative.Proofs.Json.RoundTrip

/-!
# Reading reports back

A report is printed one record a line. Texts of authors are quoted in it, while names of nodes and paths
stand as they are. Main fact: where none of these names leaves its line, a reader gets every field of a
report back from what is printed, so reports that differ in a field are printed differently.
-/

namespace Narrative

set_option autoImplicit false

namespace Json

/-- A letter in quotes is a sign behind a backslash, a code of two digits, or the letter itself. -/
theorem escaped_cases (letter : Char) :
    (∃ short, escapedLetter letter = ['\\', short] ∧ short ≠ '\n') ∨
      (∃ high low, escapedLetter letter = ['\\', 'u', '0', '0', high, low] ∧ high ∉ signs ∧ low ∉ signs) ∨
      (escapedLetter letter = [letter] ∧ letter ∉ signs) := by
  by_cases sign : letter ∈ signs
  · obtain ⟨short, written, escape, -⟩ := escape_of_sign sign
    refine Or.inl ⟨short, written, ?_⟩
    rintro rfl
    simp [escaped?] at escape
  · have others := sign
    simp only [signs, List.mem_cons, List.not_mem_nil, or_false, not_or] at others
    by_cases low : letter.toNat < 0x20
    · have digits : ∀ digit < 16, hexadecimal digit ∉ signs := by decide
      have written : escapedLetter letter =
          ['\\', 'u', '0', '0', hexadecimal (letter.toNat / 16), hexadecimal (letter.toNat % 16)] := by
        simp [escapedLetter, others, low]
      exact Or.inr (Or.inl ⟨_, _, written, digits (letter.toNat / 16) (by omega),
        digits (letter.toNat % 16) (by omega)⟩)
    · exact Or.inr (Or.inr ⟨by simp [escapedLetter, others, low], sign⟩)

theorem ne_of_no_sign {letter : Char} (plain : letter ∉ signs) (other : Char) (sign : other ∈ signs) :
    letter ≠ other := by
  rintro rfl
  exact plain sign

/-- What is quoted stays on its line. -/
theorem line_feed_not_quoted (letters : List Char) : '\n' ∉ quote letters := by
  have escaped : ∀ letter, '\n' ∉ escapedLetter letter := by
    intro letter
    rcases escaped_cases letter with ⟨short, written, other⟩ | ⟨high, low, written, first, second⟩ |
      ⟨written, plain⟩
    · simp [written, other.symm]
    · have apart := ne_of_no_sign first '\n' (by decide)
      have again := ne_of_no_sign second '\n' (by decide)
      simp [written, apart.symm, again.symm]
    · simpa [written] using (ne_of_no_sign plain '\n' (by decide)).symm
  simp [quote, escaped]

end Json

/-- What a report tells about a view, and about the file where the run was saved. -/
structure Told where
  event : String
  node : Option String
  label : String
  content : String
  choices : List Story.Choice
  canGoBack : Bool
  saved : String
  deriving DecidableEq

namespace Told

def of (view : Story.View) (saved : Option String) : Told :=
  { event := view.status.event
    node := view.node
    label := view.label
    content := view.content
    choices := view.choices
    canGoBack := view.canGoBack
    saved := saved.getD "NONE" }

/-- The letters up to the mark that closes a quoted text, and the letters after it. A backslash takes the
next letter with it. -/
def quotedPart? (escaped : Bool) : List Char → Option (List Char × List Char)
  | [] => none
  | letter :: rest =>
    if !escaped && letter = '\x22' then some ([letter], rest)
    else (quotedPart? (!escaped && letter = '\\') rest).map fun parts => (letter :: parts.1, parts.2)

/-- The text that stands in quotes. -/
def text? (letters : List Char) : Option String :=
  match Json.read? letters with
  | some (.text found) => some found
  | _ => none

/-- The choice of a record, given the letters after its name. -/
def choice? (letters : List Char) : Option Story.Choice := do
  let (digits, rest) ← Text.cutAt? '|' letters
  let index ← Number.naturalOf? digits
  let opened ← Text.after? ['\x22'] rest
  let (quoted, after) ← quotedPart? false opened
  let label ← text? ('\x22' :: quoted)
  let target ← Text.after? ['|'] after
  some ⟨index, label, String.ofList target⟩

/-- The choices at the head of records, and the records after them. -/
def choices? : List (List Char) → Option (List Story.Choice × List (List Char))
  | [] => some ([], [])
  | record :: records =>
    match Text.after? "CHOICE:".toList record with
    | none => some ([], record :: records)
    | some letters => do
      let choice ← choice? letters
      let (others, after) ← choices? records
      some (choice :: others, after)

/-- The node at the head of records, if there is one, and the records after it. -/
def node? : List (List Char) → Option String × List (List Char)
  | [] => (none, [])
  | record :: records =>
    match Text.after? "NODE:".toList record with
    | none => (none, record :: records)
    | some letters => (some (String.ofList letters), records)

def flag? (letters : List Char) : Option Bool :=
  if letters = "true".toList then some true else if letters = "false".toList then some false else none

/-- What the records behind those of the event and the node tell. -/
def ofFields? (event : String) (node : Option String) : List (List Char) → Option Told
  | label :: content :: records => do
    let label ← (Text.after? "LABEL_JSON:".toList label).bind text?
    let content ← (Text.after? "CONTENT_JSON:".toList content).bind text?
    match ← choices? records with
    | (choices, [back, saved]) => do
      let canGoBack ← (Text.after? "CAN_GO_BACK:".toList back).bind flag?
      let saved ← Text.after? "STATE_OUT:".toList saved
      some ⟨event, node, label, content, choices, canGoBack, String.ofList saved⟩
    | _ => none
  | _ => none

/-- What records tell. -/
def ofRecords? : List (List Char) → Option Told
  | result :: event :: records => do
    let _ ← Text.after? "RESULT:OK".toList result
    let event ← Text.after? "EVENT:".toList event
    let (node, records) := node? records
    ofFields? (String.ofList event) node records
  | _ => none

/-- The records of what is printed, one a line. -/
def recordsOf (printed : String) : List (List Char) :=
  (Text.splitOn '\n' printed.toList).dropLast

/-- What something printed tells. -/
def read? (printed : String) : Option Told :=
  ofRecords? (recordsOf printed)

end Told

/-- The names that a report holds as they are have no line feed. -/
structure Story.View.KeepsLines (view : Story.View) (saved : Option String) : Prop where
  node : ∀ name ∈ view.node, '\n' ∉ name.toList
  targets : ∀ choice ∈ view.choices, '\n' ∉ choice.target.toList
  saved : ∀ path ∈ saved, '\n' ∉ path.toList

namespace Told

theorem lines_text_letters (lines : List String) :
    (linesText lines).toList = lines.flatMap fun line => line.toList ++ ['\n'] := by
  unfold linesText
  induction lines with
  | nil => rfl
  | cons line lines induction =>
      rw [List.map_cons, String.join_cons, String.toList_append, induction, String.toList_append,
        List.flatMap_cons]
      rfl

theorem records_of_lines {lines : List String} (single : ∀ line ∈ lines, '\n' ∉ line.toList) :
    recordsOf (linesText lines) = lines.map String.toList := by
  have pieces : Text.splitOn '\n' (linesText lines).toList = lines.map String.toList ++ [[]] := by
    rw [lines_text_letters]
    induction lines with
    | nil => rfl
    | cons line lines induction =>
        have later := induction fun other member => single other (by simp [member])
        rw [List.flatMap_cons, List.append_assoc, List.singleton_append,
          Text.split_on_append (single line (by simp)), later]
        rfl
  rw [recordsOf, pieces, List.dropLast_concat]

theorem quoted_part_of_escaped (letter : Char) (rest : List Char) :
    quotedPart? false (Json.escapedLetter letter ++ rest) =
      (quotedPart? false rest).map fun parts => (Json.escapedLetter letter ++ parts.1, parts.2) := by
  rcases Json.escaped_cases letter with ⟨short, written, -⟩ | ⟨high, low, written, first, second⟩ |
    ⟨written, plain⟩
  · simp [written, quotedPart?, Function.comp_def]
  · have closing := Json.ne_of_no_sign first '\x22' (by decide)
    have escape := Json.ne_of_no_sign first '\\' (by decide)
    have closing' := Json.ne_of_no_sign second '\x22' (by decide)
    have escape' := Json.ne_of_no_sign second '\\' (by decide)
    simp [written, quotedPart?, closing, escape, closing', escape', Function.comp_def]
  · have closing := Json.ne_of_no_sign plain '\x22' (by decide)
    have escape := Json.ne_of_no_sign plain '\\' (by decide)
    simp [written, quotedPart?, closing, escape]

theorem quoted_part_of_quote (letters rest : List Char) :
    quotedPart? false (letters.flatMap Json.escapedLetter ++ '\x22' :: rest) =
      some (letters.flatMap Json.escapedLetter ++ ['\x22'], rest) := by
  induction letters with
  | nil => rfl
  | cons letter letters induction =>
      rw [List.flatMap_cons, List.append_assoc, quoted_part_of_escaped, induction, Option.map_some,
        List.append_assoc]

theorem text_of_quote (text : String) : text? (Json.quote text.toList) = some text := by
  have raw : Json.raw? (Json.quote text.toList) = some (.text (some text)) :=
    Json.raw_of_compact (.text text)
  simp [text?, Json.read?, raw, Raw.json?]

theorem choice_of_record (choice : Story.Choice) :
    ∃ letters, choice.record.toList = "CHOICE:".toList ++ letters ∧ choice? letters = some choice := by
  obtain ⟨index, label, target⟩ := choice
  refine ⟨Number.digitsOf index ++
    '|' :: ('\x22' :: (label.toList.flatMap Json.escapedLetter ++ '\x22' :: '|' :: target.toList)), ?_, ?_⟩
  · simp [Story.Choice.record, quotedText, Json.quote, Nat.repr, Number.digitsOf]
  · have digits : '|' ∉ Number.digitsOf index := by
      intro member
      have digit := Json.Figure.is_digit_of_digits index _ member
      simp at digit
    have cut := Text.cut_at_append digits
      ('\x22' :: (label.toList.flatMap Json.escapedLetter ++ '\x22' :: '|' :: target.toList))
    have quoted := quoted_part_of_quote label.toList ('|' :: target.toList)
    have text : text? ('\x22' :: (label.toList.flatMap Json.escapedLetter ++ ['\x22'])) = some label :=
      text_of_quote label
    simp [choice?, cut, Json.Figure.natural_of_digits, Text.after?, quoted, text]

theorem choices_of_records (choices : List Story.Choice) {rest : List (List Char)}
    (ends : ∀ record later, rest = record :: later → Text.after? "CHOICE:".toList record = none) :
    choices? (choices.map (fun choice => choice.record.toList) ++ rest) = some (choices, rest) := by
  induction choices with
  | nil =>
      cases rest with
      | nil => rfl
      | cons record later =>
          rw [List.map_nil, List.nil_append, choices?, ends record later rfl]
  | cons choice choices induction =>
      obtain ⟨letters, written, read⟩ := choice_of_record choice
      rw [List.map_cons, List.cons_append, written, choices?, Text.after_append]
      simp [read, induction]

theorem after_name (name letters : String) :
    Text.after? name.toList (name ++ letters).toList = some letters.toList := by
  rw [String.toList_append, Text.after_append]

theorem quoted_after_name (name text : String) :
    (Text.after? name.toList (name ++ quotedText text).toList).bind text? = some text := by
  rw [after_name, Option.bind_some, quotedText, String.toList_ofList, text_of_quote]

theorem flag_of_text (flag : Bool) : flag? (Value.booleanText flag).toList = some flag := by
  cases flag <;> rfl

theorem fields_of_report (event : String) (view : Story.View) (saved : Option String) :
    ofFields? event view.node
      (("LABEL_JSON:" ++ quotedText view.label).toList :: ("CONTENT_JSON:" ++ quotedText view.content).toList ::
        (view.choices.map (fun choice => choice.record.toList) ++
          [("CAN_GO_BACK:" ++ Value.booleanText view.canGoBack).toList,
            ("STATE_OUT:" ++ saved.getD "NONE").toList])) =
      some { of view saved with event := event } := by
  have ends : ∀ record later,
      [("CAN_GO_BACK:" ++ Value.booleanText view.canGoBack).toList,
        ("STATE_OUT:" ++ saved.getD "NONE").toList] = record :: later →
      Text.after? "CHOICE:".toList record = none := by
    intro record later same
    obtain ⟨rfl, -⟩ := List.cons.inj same
    rw [String.toList_append]
    rfl
  rw [ofFields?, quoted_after_name, quoted_after_name, choices_of_records view.choices ends]
  simp only [Option.bind_eq_bind, Option.bind_some, flag_of_text, after_name, String.ofList_toList]
  rfl

theorem of_report (view : Story.View) (saved : Option String) :
    ofRecords? ((view.report saved).map String.toList) = some (of view saved) := by
  have fields := fields_of_report view.status.event view saved
  have result : Text.after? "RESULT:OK".toList "RESULT:OK".toList = some [] := rfl
  rw [Story.View.report]
  cases node : view.node with
  | none =>
      rw [node] at fields
      -- The record of the label stands where the reader looks for the node.
      have unnamed : Text.after? "NODE:".toList ("LABEL_JSON:" ++ quotedText view.label).toList = none := by
        rw [String.toList_append]
        rfl
      simp only [Option.map_none, Option.toList_none, List.append_nil, List.cons_append, List.nil_append,
        List.map_cons, List.map_append, List.map_map, List.map_nil]
      rw [ofRecords?, result, after_name]
      simp only [Option.bind_eq_bind, Option.bind_some, node?, unnamed, String.ofList_toList]
      exact fields
  | some name =>
      rw [node] at fields
      simp only [Option.map_some, Option.toList_some, List.cons_append, List.nil_append, List.map_cons,
        List.map_append, List.map_map, List.map_nil]
      rw [ofRecords?, result, after_name]
      simp only [Option.bind_eq_bind, Option.bind_some, node?, after_name, String.ofList_toList]
      exact fields

end Told

theorem line_feed_not_in_choice {choice : Story.Choice} (target : '\n' ∉ choice.target.toList) :
    '\n' ∉ choice.record.toList := by
  have digits : '\n' ∉ Nat.toDigits 10 choice.index := by
    intro member
    have digit := Json.Figure.is_digit_of_digits choice.index _ member
    simp at digit
  simp [Story.Choice.record, quotedText, digits, target, Json.line_feed_not_quoted]

/-- Quoting and the words of the protocol bring no line feed into a record. -/
theorem Story.View.KeepsLines.records {view : Story.View} {saved : Option String}
    (keeps : view.KeepsLines saved) : ∀ record ∈ view.report saved, '\n' ∉ record.toList := by
  have event : '\n' ∉ view.status.event.toList := by
    cases view.status <;> decide
  have flag : '\n' ∉ (Value.booleanText view.canGoBack).toList := by
    cases view.canGoBack <;> decide
  have path : '\n' ∉ (saved.getD "NONE").toList := by
    cases given : saved with
    | none => decide
    | some path => exact keeps.saved path given
  intro record member
  simp only [Story.View.report, List.mem_append, List.mem_cons, List.not_mem_nil, or_false, Option.mem_toList,
    Option.map_eq_some_iff, List.mem_map] at member
  rcases member with ((((rfl | rfl) | ⟨name, named, rfl⟩) | rfl | rfl) | ⟨choice, among, rfl⟩) | rfl | rfl
  · decide
  · simpa using event
  · simpa using keeps.node name named
  · simp [quotedText, Json.line_feed_not_quoted]
  · simp [quotedText, Json.line_feed_not_quoted]
  · exact line_feed_not_in_choice (keeps.targets choice among)
  · simpa using flag
  · simpa using path

theorem Told.read_of_report {view : Story.View} {saved : Option String} (keeps : view.KeepsLines saved) :
    read? (linesText (view.report saved)) = some (of view saved) := by
  rw [read?, records_of_lines keeps.records, of_report]

theorem Told.report_congr {view other : Story.View} {saved otherSaved : Option String}
    (same : of view saved = of other otherSaved) : view.report saved = other.report otherSaved := by
  obtain ⟨event, node, label, content, choices, back, path⟩ := Told.mk.inj same
  rw [Story.View.report, Story.View.report, event, node, label, content, choices, back, path]

/-- Where no name leaves its line, what is printed has one record a line, a reader gets every field back
from it, and two reports are printed alike exactly if they agree in every field. -/
theorem reports_can_be_read_back {view : Story.View} {saved : Option String}
    (keeps : view.KeepsLines saved) :
    Told.recordsOf (linesText (view.report saved)) = (view.report saved).map String.toList ∧
      Told.read? (linesText (view.report saved)) = some (Told.of view saved) ∧
      ∀ (other : Story.View) (otherSaved : Option String), other.KeepsLines otherSaved →
        (linesText (view.report saved) = linesText (other.report otherSaved) ↔
          Told.of view saved = Told.of other otherSaved) := by
  refine ⟨Told.records_of_lines keeps.records, Told.read_of_report keeps, ?_⟩
  intro other otherSaved otherKeeps
  constructor
  · intro printed
    have read := Told.read_of_report keeps
    rw [printed, Told.read_of_report otherKeeps] at read
    exact (Option.some.inj read).symm
  · intro same
    rw [Told.report_congr same]

/-- A fork in the road, with these choices. -/
def forkWith (choices : List Story.Choice) : Story.View :=
  { status := .paused, node := some "fork", label := "Fork | \"Y\"", content := "Left\nor right?"
    assets := [], choices := choices, store := [], canGoBack := true }

theorem fork_read_back :
    (forkWith [⟨0, "\"|NODE:x", "a|b"⟩, ⟨1, "", ""⟩]).KeepsLines none ∧
      Told.read? (linesText ((forkWith [⟨0, "\"|NODE:x", "a|b"⟩, ⟨1, "", ""⟩]).report none)) =
        some ⟨"CHOICES", some "fork", "Fork | \"Y\"", "Left\nor right?",
          [⟨0, "\"|NODE:x", "a|b"⟩, ⟨1, "", ""⟩], true, "NONE"⟩ ∧
      linesText ((forkWith [⟨0, "\"|NODE:x", "a|b"⟩, ⟨1, "", ""⟩]).report none) ≠
        linesText ((forkWith [⟨0, "\"|NODE:x", "a"⟩, ⟨1, "", ""⟩]).report none) := by
  have keeps : (forkWith [⟨0, "\"|NODE:x", "a|b"⟩, ⟨1, "", ""⟩]).KeepsLines none :=
    ⟨by decide, by decide, by decide⟩
  have others : (forkWith [⟨0, "\"|NODE:x", "a"⟩, ⟨1, "", ""⟩]).KeepsLines none :=
    ⟨by decide, by decide, by decide⟩
  obtain ⟨-, read, differ⟩ := reports_can_be_read_back keeps
  refine ⟨keeps, read, ?_⟩
  rw [Ne, differ _ none others]
  decide

/-- A target with a line feed looks like another choice, and a path may be the word for no path. -/
theorem fork_printed_alike :
    linesText ((forkWith [⟨0, "Left", "bog"⟩, ⟨1, "Right", "ford"⟩]).report none) =
        linesText ((forkWith [⟨0, "Left", "bog\nCHOICE:1|\"Right\"|ford"⟩]).report none) ∧
      (forkWith [⟨0, "Left", "bog"⟩, ⟨1, "Right", "ford"⟩]).choices ≠
        (forkWith [⟨0, "Left", "bog\nCHOICE:1|\"Right\"|ford"⟩]).choices ∧
      linesText ((forkWith []).report none) = linesText ((forkWith []).report (some "NONE")) := by
  decide +kernel

end Narrative
