import Outline.Report.Result
import Outline.Report.Styled

/-!
# The report as trees

Each document is shown as its tree, with guides that lead from a node to the
nodes below it, and then its findings.
-/

namespace Outline.Report.TreeView

open Outline.Text

/-- The number of columns of a guide. -/
def guideWidth : Nat :=
  4

/-- The guide at the first line of a node. -/
def branchGuide (isLast : Bool) : String :=
  if isLast then "└── " else "├── "

/-- The guide at all other lines of a node and of what is below it. -/
def trunkGuide (isLast : Bool) : String :=
  if isLast then "    " else "│   "

/-- What is shown of a node. -/
def label (entry : Entry) : Styled :=
  let note :=
    match entry.note with
    | none | some "" => []
    | some text => Styled.run .dim ("  @" ++ text)
  Styled.run .boldCyan entry.kind.label
    ++ Styled.run .plain (" L" ++ toString entry.lineNumber ++ " " ++ entry.content) ++ note

/--
The lines of a node, the first one behind one guide and the others behind
another one.
-/
def guided (first other : String) : List Styled → List String
  | [] => []
  | line :: rest => (first ++ line.write) :: rest.map fun next => other ++ next.write

/--
The lines of a text in the columns that some guides leave; without columns there
are no lines.
-/
def wrapWithin (width : Nat) (text : Styled) : List Styled :=
  if width = 0 then [] else text.fit width

mutual

/-- The lines of a tree. -/
def treeLines (depth : Nat) (lead : String) (isLast : Bool) : Tree → List String
  | ⟨entry, children⟩ =>
    let shown := wrapWithin (terminalWidth - guideWidth * depth) (label entry)
    guided (lead ++ branchGuide isLast) (lead ++ trunkGuide isLast) shown
      ++ childLines (depth + 1) (lead ++ trunkGuide isLast) children

/-- The lines of the trees below a node. -/
def childLines (depth : Nat) (lead : String) : List Tree → List String
  | [] => []
  | tree :: rest => treeLines depth lead rest.isEmpty tree ++ childLines depth lead rest

end

/-- The report on one document. -/
def document (result : Result) : String :=
  let path := (Styled.run .bold result.path.render).fit terminalWidth
  let nodes := childLines 1 "" result.outcome.tree.children
  let findings := result.outcome.findings.flatMap fun finding =>
    (Styled.run .red finding.report).fit terminalWidth
  Styled.writeLines path ++ String.join (nodes.map (· ++ "\n")) ++ Styled.writeLines findings

/-- The report on some documents. -/
def render (results : List Result) : String :=
  String.join (results.map document)

end Outline.Report.TreeView
