import Narrative.Variable

/-!
# Projects

What an author writes: variables, and boards with nodes and the edges between them.
-/

namespace Narrative

set_option autoImplicit false

inductive NodeKind where
  /-- Text that is shown, and where the player chooses. -/
  | content
  /-- Goes on by the first of its conditions that holds. -/
  | branch
  /-- Goes on at once. -/
  | jump
  /-- Notes, groups, pictures and other decorations of a board. -/
  | decorative
  deriving DecidableEq, Repr

/-- One way out of a branch node. -/
structure Branch where
  id : String
  label : String
  condition : String
  deriving DecidableEq, Repr

structure Node where
  id : String
  kind : NodeKind
  label : Option String
  content : Option String
  assets : List String
  branches : List Branch
  jumpTarget : Option String
  deriving DecidableEq, Repr

structure Edge where
  id : String
  source : String
  /-- The branch that the edge belongs to. -/
  handle : Option String
  target : String
  deriving DecidableEq, Repr

structure Board where
  id : String
  name : String
  nodes : List Node
  edges : List Edge

structure Project where
  store : Store
  boards : List Board
  activeBoard : Option String

/-- Whether a text is a word, blanks around it and the case of ASCII letters aside. -/
def isWord (word : String) (letters : String) : Bool :=
  String.ofList (Text.lowerAscii (Text.trim letters.toList)) == word

/-- The branch that is taken when no condition holds. -/
def Branch.isFallback (branch : Branch) : Bool :=
  isWord "else" branch.label

namespace Node

def labelText (node : Node) : String :=
  node.label.getD ""

def contentText (node : Node) : String :=
  node.content.getD ""

def isContent (node : Node) : Bool :=
  node.kind == .content

/-- A node with the label that marks where a board begins. -/
def isStart (node : Node) : Bool :=
  isWord "start" node.labelText

end Node

end Narrative
