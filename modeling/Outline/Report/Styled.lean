import Outline.Text.Lines
import Outline.Text.Wrapped

/-!
# Styled text on a terminal

A styled text is a sequence of characters that each have a style.  Characters of
one run are written between one pair of escape sequences; runs of equal style
that were made apart stay apart.
-/

namespace Outline.Report

open Outline.Text

/-- How characters are shown. -/
inductive Style where
  /-- As the terminal likes. -/
  | plain
  | bold
  | dim
  | red
  | green
  | cyan
  | boldCyan
  deriving DecidableEq

/-- The numbers that select a style on a terminal. -/
def Style.code? : Style → Option String
  | plain => none
  | bold => some "1"
  | dim => some "2"
  | red => some "31"
  | green => some "32"
  | cyan => some "36"
  | boldCyan => some "1;36"

/-- The number of columns of the terminal. -/
def terminalWidth : Nat :=
  80

/-- A tab moves on to the next multiple of this number of columns. -/
def tabWidth : Nat :=
  8

/-- A character with its style. -/
structure Glyph where
  character : Char
  style : Style
  /-- Whether it belongs to the run of the glyph before it. -/
  continues : Bool
  deriving DecidableEq

/-- A text whose characters have styles. -/
abbrev Styled :=
  List Glyph

namespace Styled

/-- The controls that are taken out of a text before it is shown. -/
def isDropped (character : Char) : Bool :=
  ['\x07', '\x08', '\x0b', '\x0c', '\r'].contains character

/-- A text that is one run. -/
def run (style : Style) (text : String) : Styled :=
  match text.toList.filter fun character => !isDropped character with
  | [] => []
  | first :: rest =>
    { character := first, style, continues := false }
      :: rest.map fun character => { character, style, continues := true }

/-- The characters of a text without their styles. -/
def characters (text : Styled) : List Char :=
  text.map Glyph.character

/-- A text whose first glyph begins a run. -/
def restart : Styled → Styled
  | [] => []
  | first :: rest => { first with continues := false } :: rest

/-- Spaces in the style of a glyph, and in its run. -/
def spacesAfter (glyph : Glyph) (count : Nat) : Styled :=
  List.replicate count { glyph with character := ' ', continues := true }

/-- The number of columns from a column to the next tab stop. -/
def toTabStop (column : Nat) : Nat :=
  (tabWidth - column % tabWidth) % tabWidth

/--
A part of a line that begins at a column, with the tab at its end turned into
spaces.
-/
def fillTab (column : Nat) (part : Styled) : Styled :=
  match part.getLast? with
  | none => []
  | some last =>
    if last.character = '\t' then
      let filled := part.dropLast ++ [{ last with character := ' ' }]
      filled ++ spacesAfter last (toTabStop (column + columns filled.characters))
    else
      part

/--
The parts of a line from a column on, each with its tab filled and in runs of
its own.
-/
def fillTabs (column : Nat) : List Styled → Styled
  | [] => []
  | part :: rest =>
    let filled := fillTab column part
    filled.restart ++ fillTabs (column + columns filled.characters) rest

/-- A line with its tabs turned into spaces; each tab ends a run. -/
def expandTabs (line : Styled) : Styled :=
  fillTabs 0 (partsThrough (fun glyph => glyph.character = '\t') line)

/-- Cuts a text at places counted from its beginning; the text begins at `place`. -/
def cutAt (place : Nat) (text : Styled) : List Nat → List Styled
  | [] => [text]
  | next :: rest => text.take (next - place) :: cutAt next (text.drop (next - place)) rest

/-- A line without the blanks at its end that make it longer than a width. -/
def dropOverflow (width : Nat) (line : Styled) : Styled :=
  let blanks := (line.reverse.takeWhile fun glyph => isBlank glyph.character).length
  line.take (line.length - min blanks (line.length - width))

/--
The number of characters of the clusters that fit into some columns from the
left, with the number of columns that are left then.
-/
def fitting : Nat → List Cluster → Nat × Nat
  | room, [] => (0, room)
  | room, cluster :: rest =>
    if cluster.columns ≤ room then
      let (count, left) := fitting (room - cluster.columns) rest
      (cluster.reversed.length + count, left)
    else
      (0, room)

/-- A line cut to a width; a space stands for half of a wide character. -/
def crop (width : Nat) (line : Styled) : Styled :=
  if columns line.characters ≤ width then
    line
  else
    let (count, left) := fitting width (clustersOf line.characters)
    let torn := (line.drop count).take left
    line.take count ++ torn.map fun glyph => { glyph with character := ' ' }

/-- The lines of a text, wrapped to a width. -/
def wrap (width : Nat) (text : Styled) : List Styled :=
  (separate (fun glyph => glyph.character = '\n') text).flatMap fun line =>
    let expanded := expandTabs line
    (cutAt 0 expanded (breaksOf width expanded.characters)).map fun piece =>
      crop width (dropOverflow width piece)

/-- The lines of a text as they are. -/
def lines (text : Styled) : List Styled :=
  (separate (fun glyph => glyph.character = '\n') text).map expandTabs

/-- The runs of a line; plain characters that stand side by side are one run. -/
def runs (line : Styled) : List Styled :=
  line.splitBy fun before next =>
    next.continues || (before.style = .plain && next.style = .plain)

/-- The number of columns of runs that are measured one by one. -/
def runColumns (runs : List Styled) : Nat :=
  runs.foldr (fun run rest => columns run.characters + rest) 0

/-- The runs that fill some columns; the one that reaches the end is cut to it. -/
def fillRuns (room : Nat) : List Styled → List Styled
  | [] => []
  | run :: rest =>
    let taken := columns run.characters
    if taken < room then
      run :: fillRuns (room - taken) rest
    else
      [crop room run]

/-- Runs that are cut where they take more columns than a width. -/
def cropRuns (width : Nat) (runs : List Styled) : List Styled :=
  if runColumns runs ≤ width then runs else fillRuns width runs

/-- Plain spaces, as one run. -/
def blankRun (count : Nat) : Styled :=
  run .plain (String.ofList (List.replicate count ' '))

/-- Runs that are filled with spaces up to a width, or cut to it. -/
def shapeRuns (width : Nat) (runs : List Styled) : List Styled :=
  cropRuns width runs ++ [blankRun (width - runColumns runs)]

/-- The lines of a text in a width, wrapped first and then cut run by run. -/
def fit (width : Nat) (text : Styled) : List Styled :=
  (text.wrap width).map fun line => (cropRuns width line.runs).flatten

/-- Writes one run. -/
def writeRun (run : Styled) : String :=
  let text := String.ofList run.characters
  match run.head?.bind fun glyph => glyph.style.code? with
  | none => text
  | some code => "\x1b[" ++ code ++ "m" ++ text ++ "\x1b[0m"

/-- Writes runs one behind the other. -/
def writeRuns (runs : List Styled) : String :=
  String.join (runs.map writeRun)

/-- Writes a line with its escape sequences. -/
def write (line : Styled) : String :=
  writeRuns line.runs

/-- Writes lines one below the other. -/
def writeLines (lines : List Styled) : String :=
  String.join (lines.map fun line => write line ++ "\n")

/-- The spaces that a line lacks to fill a width. -/
def lacking (width : Nat) (line : Styled) : Styled :=
  blankRun (width - columns line.characters)

/-- A line filled with spaces up to a width; they belong to its text. -/
def padEnd (width : Nat) (line : Styled) : Styled :=
  line ++ lacking width line

/-- A line without blanks at its end, moved to the right of a width. -/
def padStart (width : Nat) (line : Styled) : Styled :=
  let trimmed := (line.reverse.dropWhile fun glyph => isBlank glyph.character).reverse
  lacking width trimmed ++ trimmed

end Styled

end Outline.Report
