import Outline.Kind
import Outline.Line

/-!
# Outline trees

A tree is an entry, which holds what is known about one node, with the trees
below it in the order of the document.
-/

namespace Outline

/-- One node of an outline without the nodes below it. -/
structure Entry where
  kind : Kind
  /-- The text of the line that the node was read from. -/
  content : String
  /-- The column of the line; minus one for the root. -/
  indent : Int := 0
  /-- The number of the line; zero for the root. -/
  lineNumber : Int := 1
  /-- The declared name, empty when there is none. -/
  name : String := ""
  /-- The note that precedes the line. -/
  note : Option String := none
  description : Option String := none
  deriving DecidableEq

namespace Entry

/-- The entry of a document as a whole. -/
def root : Entry where
  kind := .root
  content := "ROOT"
  indent := -1
  lineNumber := 0

/-- The column at which the nodes right below a node must begin. -/
def bodyIndent (entry : Entry) : Int :=
  if entry.kind = .root then 0 else entry.indent + indentUnit

/-- Whether a node declares a name. -/
def declares (entry : Entry) : Bool :=
  entry.kind.mayDeclare && entry.name != ""

end Entry

/-- A node of an outline together with all that stands below it. -/
structure Tree where
  entry : Entry
  /-- The trees right below the node, in the order of the document. -/
  children : List Tree

namespace Tree

mutual

/--
The entries of a tree, each with the entry above it, a node before all that
stands below it.
-/
def preorder (above : Option Entry) : Tree → List (Option Entry × Entry)
  | ⟨entry, children⟩ => (above, entry) :: preorderAll entry children

/-- The entries of the trees that stand right below an entry. -/
def preorderAll (above : Entry) : List Tree → List (Option Entry × Entry)
  | [] => []
  | tree :: rest => preorder (some above) tree ++ preorderAll above rest

end

/-- The entries of a tree, a node before all that stands below it. -/
def entries (tree : Tree) : List Entry :=
  (tree.preorder none).map Prod.snd

end Tree

end Outline
