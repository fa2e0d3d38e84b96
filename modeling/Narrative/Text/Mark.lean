import Narrative.Text.Blank

/-!
# Quotation marks

Texts are quoted by double, single and backward marks.
-/

namespace Narrative.Text

set_option autoImplicit false

def isMark (letter : Char) : Bool :=
  letter = '\x22' || letter = '\x27' || letter = '\x60'

section Sorts

variable {sort : Char → Bool}
  (unmarked : sort '\x22' = false ∧ sort '\x27' = false ∧ sort '\x60' = false)

include unmarked

theorem apart_of_mark {mark : Char} (marks : isMark mark = true) : sort mark = false := by
  simp only [isMark, Bool.or_eq_true, decide_eq_true_eq] at marks
  rcases marks with (rfl | rfl) | rfl
  · exact unmarked.1
  · exact unmarked.2.1
  · exact unmarked.2.2

theorem unmarked_of {letter : Char} (sorted : sort letter = true) : isMark letter = false := by
  rw [Bool.eq_false_iff]
  intro marks
  rw [apart_of_mark unmarked marks] at sorted
  cases sorted

end Sorts

theorem visible_mark {mark : Char} (marks : isMark mark = true) : isBlank mark = false :=
  apart_of_mark (by decide) marks

end Narrative.Text
