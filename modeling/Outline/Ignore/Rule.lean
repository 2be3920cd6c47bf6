import Outline.Ignore.Glob
import Outline.Text.Lines
import Outline.Text.Quoted

/-!
# Ignore rules

The rules of version control: each line is a pattern for paths, perhaps negated.
A path is ignored when the last strong match is by a rule that is not negated;
without a strong match the last weak one decides.
-/

namespace Outline.Ignore

open Outline.Text

/-- How the match of a pattern ends. -/
inductive Ending where
  /-- At a slash or at the end of the path. -/
  | boundary
  | slash
  deriving DecidableEq

/-- Which paths a rule is about. -/
inductive Pattern where
  | anyPath
  | anyBelow
  /-- The paths that begin with what some pieces stand for. -/
  | pieces (pieces : List Piece) (ending : Ending)
  deriving DecidableEq

/-- A rule about paths. -/
structure Rule where
  /-- Whether the rule takes paths back from earlier rules. -/
  negated : Bool
  /--
  Whether the pattern is written with a slash at its end, and so is about
  directories.
  -/
  forDirectories : Bool
  pattern : Pattern
  deriving DecidableEq

namespace Rule

/-- The strength of a match that ends at a slash. -/
def atSlash (rule : Rule) : Strength :=
  if rule.forDirectories then .weak else .strong

/--
The strength of a match that has the given rest of a path before it; a line feed
may be left.
-/
def finish (rule : Rule) : Ending → Continuation
  | .boundary, '/' :: _ => some .weak
  | .boundary, [] => some .strong
  | .boundary, ['\n'] => some .strong
  | .boundary, _ => none
  | .slash, '/' :: _ => some rule.atSlash
  | .slash, _ => none

/-- How strongly a rule matches a path, if it does. -/
def strength? (rule : Rule) (path : List Char) : Option Strength :=
  match rule.pattern with
  | .anyPath => if path.any (· ≠ '\n') then some .strong else none
  | .anyBelow => if path.contains '/' then some rule.atSlash else none
  | .pieces pieces ending => takeAll pieces (rule.finish ending) path

end Rule

/-- Why a line is no rule. -/
inductive RuleFault where
  /-- The line is no pattern. -/
  | invalidPattern (line : String)
  /-- The expression of the pattern has a reversed range. -/
  | reversedRange (range : ReversedRange) (expression : List Char)
  deriving DecidableEq

/-- The wording of a place in an expression; lines are told if there are several. -/
def placeIn (expression before : List Char) : String :=
  let place := " at position " ++ toString before.length
  if expression.contains '\n' then
    let column := (before.reverse.takeWhile (· ≠ '\n')).length + 1
    place ++ " (line " ++ toString (before.count '\n' + 1) ++ ", column " ++ toString column ++ ")"
  else
    place

/-- The wording of the refusal of a line. -/
def RuleFault.message : RuleFault → String
  | invalidPattern line => "Invalid git pattern: " ++ quoted line
  | reversedRange range expression =>
    "bad character range " ++
      String.ofList (writeMember range.low ++ '-' :: writeMember range.high) ++
        placeIn expression range.before

/-- The segment that stands for any number of directories. -/
def anyDepth : List Char :=
  ['*', '*']

/-- Segments with runs of `**` made one. -/
def mergeAnyDepth : List (List Char) → List (List Char)
  | [] => []
  | segment :: rest =>
    if segment = anyDepth && rest.head? = some anyDepth then
      mergeAnyDepth rest
    else
      segment :: mergeAnyDepth rest

/-- Segments with an empty one at the end made `**`. -/
def openEnd : List (List Char) → List (List Char)
  | [] => []
  | [segment] => [if segment.isEmpty then anyDepth else segment]
  | segment :: rest => segment :: openEnd rest

/--
The segments of a pattern.  A pattern with a slash in front, or between two
names, begins at the top; any other one begins at any depth.  A slash at the end
stands for all that is below.
-/
def segmentsOf (text : List Char) : List (List Char) :=
  mergeAnyDepth <| openEnd <|
    match separate (· = '/') text with
    | [] :: rest => rest
    | [segment] => [anyDepth, segment]
    | [segment, []] => [anyDepth, segment, []]
    | segments => segments

/-- The pieces of one segment that is not `**`. -/
def segmentPieces (segment : List Char) : Except GlobFault (List Piece) :=
  if segment = ['*'] then
    .ok [.atLeastOne .notSlash]
  else
    globPieces segment

/--
The pieces of segments, and how their match ends; `joined` tells that a slash
comes first.
-/
def piecesOf (joined : Bool) : List (List Char) → Except GlobFault (List Piece × Ending)
  | [] => .ok ([], .boundary)
  | segment :: rest =>
    if segment = anyDepth then
      match rest with
      | [] => .ok ([], .slash)
      | _ :: _ =>
        let piece : Piece := if joined then .innerDirectories else .leadingDirectories
        (piecesOf joined rest).map fun (pieces, ending) => (piece :: pieces, ending)
    else
      match segmentPieces segment with
      | .error fault => .error fault
      | .ok front =>
        let slash : List Piece := if joined then [.one (.only '/')] else []
        (piecesOf true rest).map fun (pieces, ending) => (slash ++ front ++ pieces, ending)

/--
The pattern that segments stand for.  A lone `**` stands for all paths, or for
all paths below a directory when the pattern is about directories.
-/
def patternOf (forDirectories : Bool) (segments : List (List Char)) : Except GlobFault Pattern :=
  if segments = [anyDepth] then
    .ok (if forDirectories then .anyBelow else .anyPath)
  else if segments = [anyDepth, ['*']] then
    .ok .anyPath
  else if segments = [anyDepth, ['*'], anyDepth] then
    .ok .anyBelow
  else
    (piecesOf false segments).map fun (pieces, ending) => .pieces pieces ending

/-- A line without the blanks at its end, unless the last one is escaped. -/
def trimLine (line : List Char) : List Char :=
  if ['\\', ' '].isSuffixOf line then line else trimEnd isBlank line

/-- The reversed range in a pattern, if there is one. -/
def Pattern.fault? : Pattern → Option RuleFault
  | anyPath | anyBelow => none
  | pieces parts _ =>
    (reversedAmong? ['^'] parts).map fun range =>
      .reversedRange range ('^' :: parts.flatMap Piece.write)

/-- The rule for a pattern that is not blank and no comment. -/
def Rule.ofPattern (line : String) (negated : Bool) (text : List Char) :
    Except RuleFault (Option Rule) :=
  let segments := segmentsOf text
  let forDirectories := ['/'].isSuffixOf text
  if segments.isEmpty then
    .error (.invalidPattern line)
  else
    match patternOf forDirectories segments with
    | .error .unclosedBracket => .ok none
    | .error .danglingBackslash => .error (.invalidPattern line)
    | .ok pattern =>
      match pattern.fault? with
      | some fault => .error fault
      | none => .ok (some { negated, forDirectories, pattern })

/--
The rule on a line; blank lines, comments, lone slashes and unclosed brackets
give none.
-/
def Rule.ofLine? (line : String) : Except RuleFault (Option Rule) :=
  match trimLine line.toList with
  | [] => .ok none
  | '#' :: _ => .ok none
  | ['/'] => .ok none
  | '!' :: text => Rule.ofPattern line true text
  | text => Rule.ofPattern line false text

/-- The rule that decides about a path. -/
def deciding? (rules : List Rule) (path : List Char) : Option Rule :=
  let matching := rules.filter fun rule => (rule.strength? path).isSome
  match (matching.filter fun rule => rule.strength? path = some .strong).getLast? with
  | some rule => some rule
  | none => matching.getLast?

/-- A path without one slash, or one dot and slash, in front. -/
def withoutLead : List Char → List Char
  | '/' :: rest => rest
  | '.' :: '/' :: rest => rest
  | path => path

/-- The matcher of these rules. -/
def versionControl : Matcher where
  Rule := Rule
  Fault := RuleFault
  message := RuleFault.message
  read := Rule.ofLine?
  negated := Rule.negated
  strength? := fun rule path => rule.strength? (withoutLead path.toList)
  verdict := fun rules path =>
    (deciding? rules (withoutLead path.toList)).any fun rule => !rule.negated

instance : DecidableEq versionControl.Rule :=
  inferInstanceAs (DecidableEq Rule)

instance : DecidableEq versionControl.Fault :=
  inferInstanceAs (DecidableEq RuleFault)

end Outline.Ignore
