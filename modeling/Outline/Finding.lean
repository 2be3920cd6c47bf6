import Outline.FileTree
import Outline.Kind

/-!
# Findings

A finding is a problem at a line.  A problem is kept as its cause; its category
and its wording are functions of the cause.
-/

namespace Outline

open Outline.Text

/-- What a problem is about. -/
inductive Category where
  | io
  | wording
  | indentation
  | structural
  | semantic
  deriving DecidableEq

namespace Category

/-- The word for a category. -/
def label : Category → String
  | io => "io"
  | wording => "syntax"
  | indentation => "indentation"
  | structural => "structural"
  | semantic => "semantic"

/-- The words that open a finding of a category. -/
def heading : Category → String
  | io => "File Error"
  | wording => "Syntax Error"
  | indentation => "Indentation Error"
  | structural => "Structural Error"
  | semantic => "Semantic Error"

/-- A finding of a category at a line, in words. -/
def report (category : Category) (lineNumber : Int) (message : String) : String :=
  category.heading ++ " (Line " ++ toString lineNumber ++ "): " ++ message

end Category

/-- What is wrong with a document. -/
inductive Problem where
  | unreadable (path : String) (failure : ReadFailure)
  /-- The line stands for no kind of node; a heading like its own may be known. -/
  | unrecognised (content : String) (suggestion : Option String)
  /-- The line leaves a block without returning to the column of an enclosing one. -/
  | rollback (expected actual : Int)
  /-- The line is deeper than the node before it allows. -/
  | overindented (expected actual : Int)
  /-- The line is below a node that has no children. -/
  | childless (parent : Kind)
  /-- The grammar does not admit the node at its place. -/
  | misplaced (child parent : Kind)
  /-- An annotation follows another one that no node has taken. -/
  | repeatedNote
  /-- The name has been declared in the same scope before. -/
  | alreadyDefined (name : String) (firstLine : Int)
  deriving DecidableEq

namespace Problem

/-- What a problem is about. -/
def category : Problem → Category
  | unreadable .. => .io
  | unrecognised .. => .wording
  | rollback .. | overindented .. => .indentation
  | childless .. | misplaced .. => .structural
  | repeatedNote | alreadyDefined .. => .semantic

/-- The wording of a problem. -/
def message : Problem → String
  | unreadable path failure => "Cannot read '" ++ path ++ "': " ++ failure.message path ++ "."
  | unrecognised content suggestion =>
    let hint := suggestion.elim "" fun heading => " Did you mean '" ++ heading ++ "'?"
    "Unrecognized keyword or line format: '" ++ content ++ "'." ++ hint
  | rollback expected actual =>
    "Illegal indentation rollback, expected indent of " ++ toString expected ++ ", but got "
      ++ toString actual ++ "."
  | overindented expected actual =>
    "Expected indent of " ++ toString expected ++ ", but got " ++ toString actual ++ "."
  | childless parent => "Node of type '" ++ parent.label ++ "' cannot have child nodes."
  | misplaced child parent =>
    "Node of type '" ++ child.label ++ "' cannot be placed here inside a '" ++ parent.label
      ++ "' node."
  | repeatedNote => "Consecutive '@' annotations are not allowed. Previous one ignored."
  | alreadyDefined name firstLine =>
    "Symbol '" ++ name ++ "' is already defined in the current scope (line " ++ toString firstLine
      ++ ")."

end Problem

/-- A problem at a line. -/
structure Finding where
  /-- The line, zero for the file as a whole. -/
  lineNumber : Int
  problem : Problem
  deriving DecidableEq

/-- A finding in words. -/
def Finding.report (finding : Finding) : String :=
  finding.problem.category.report finding.lineNumber finding.problem.message

end Outline
