import Narrative.Script.Tree

/-!
# Selections

Which cases of a selection a value may be taken for. A label that is the very value goes before any
range: ranges are looked at only when no label is.
-/

namespace Narrative.Script

set_option autoImplicit false

namespace Label

/-- Whether a value is the one of a label. -/
def isExactly (value : Datum) : Label → Bool
  | .value found => found.isExactly value
  | .range _ _ _ => false

/-- Whether a number is in the range of a label. -/
def hasInRange (value : Datum) : Label → Bool
  | .value _ => false
  | .range low high closed =>
    match value with
    | .integer number => low ≤ number && (number < high || (closed && number == high))
    | .real number =>
      decide (Number.ofWhole low ≤ number) &&
        (decide (number < Number.ofWhole high) || (closed && number == Number.ofWhole high))
    | _ => false

end Label

namespace Case

def labels : Case → List Label
  | .mk labels _ _ => labels

end Case

/-- The cases that a value may be taken for, in their order. -/
def candidates (value : Datum) (cases : List Case) : List Case :=
  let exactly := cases.filter fun found => found.labels.any (Label.isExactly value)
  if exactly.isEmpty then cases.filter fun found => found.labels.any (Label.hasInRange value)
  else exactly

end Narrative.Script
