/-!
# Kinds of nodes

An outline has a root and twelve kinds of nodes below it.  Eleven of them are
announced by a keyword; a statement is any other line of a behavior.
-/

namespace Outline

/-- What a node of an outline stands for. -/
inductive Kind where
  | root
  | moduleHeader
  | classBlock
  | function
  /-- A variable of a class. -/
  | field
  | description
  | inheritance
  | input
  | output
  | behavior
  /-- Statements that hold under a condition. -/
  | conditional
  /-- Statements that hold when the condition right before them fails. -/
  | alternative
  | statement
  deriving DecidableEq

namespace Kind

/--
The word for a kind; for all kinds but the root and the statement it is their
keyword.
-/
def label : Kind → String
  | root => "root"
  | moduleHeader => "module"
  | classBlock => "class"
  | function => "func"
  | field => "var"
  | description => "description"
  | inheritance => "inh"
  | input => "input"
  | output => "output"
  | behavior => "behavior"
  | conditional => "if"
  | alternative => "else"
  | statement => "statement"

/-- The kinds that a keyword announces. -/
def announced : List Kind :=
  [moduleHeader, classBlock, function, field, description, inheritance, input, output, behavior,
    conditional, alternative]

/-- The kind that a keyword announces. -/
def ofKeyword? (keyword : String) : Option Kind :=
  announced.find? fun kind => kind.label = keyword

/-- Whether other nodes may stand below a node of this kind. -/
def isContainer : Kind → Bool
  | root | classBlock | function | behavior | conditional | alternative => true
  | _ => false

/-- Whether a node of this kind opens a scope for the names declared below it. -/
def opensScope : Kind → Bool
  | classBlock | function => true
  | _ => false

/-- Whether a node of this kind may declare a name. -/
def mayDeclare : Kind → Bool
  | classBlock | function | field => true
  | _ => false

end Kind

end Outline
