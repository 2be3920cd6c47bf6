import Outline.Text.Blank
import Outline.Text.Columns

/-!
# Wrapping a text

A text is broken between words, so that each line fits a width.  A word takes
the blanks behind it along; what is visible of it decides whether it fits.  A
word that is wider than a line is cut.
-/

namespace Outline.Text

/-- The maximal runs of blanks and of other characters. -/
def blankRuns (text : List Char) : List (List Char) :=
  text.splitBy fun left right => isBlank left == isBlank right

/-- Joins each run of other characters with the blanks behind it. -/
def joinRuns : List (List Char) → List (List Char)
  | word :: blanks :: rest => (word ++ blanks) :: joinRuns rest
  | [word] => [word]
  | [] => []

/--
The words of a text with the blanks behind them; the first word has the blanks
before it as well.
-/
def wordsOf (text : List Char) : List (List Char) :=
  match blankRuns text with
  | [] => []
  | first :: rest =>
    if first.all isBlank then
      match joinRuns rest with
      | [] => []
      | word :: more => (first ++ word) :: more
    else
      joinRuns (first :: rest)

/-- Pieces of a word that fit a width. -/
structure Pieces where
  /-- The finished pieces, the last one first. -/
  finished : List (List Char) := []
  /-- The characters of the current piece, the last one first. -/
  current : List Char := []
  /-- The number of columns of the current piece. -/
  columns : Nat := 0

/-- Adds a cluster to the current piece, or begins a piece with it. -/
def Pieces.add (width : Nat) (pieces : Pieces) (cluster : Cluster) : Pieces :=
  if width < pieces.columns + cluster.columns then
    { finished := pieces.current.reverse :: pieces.finished
      current := cluster.reversed
      columns := cluster.columns }
  else
    { pieces with
      current := cluster.reversed ++ pieces.current
      columns := pieces.columns + cluster.columns }

/-- Cuts a text into pieces, each as wide as possible; characters are not torn apart. -/
def chop (width : Nat) (text : List Char) : List (List Char) :=
  let pieces := (clustersOf text).foldl (Pieces.add width) {}
  if pieces.columns = 0 then
    pieces.finished.reverse
  else
    (pieces.current.reverse :: pieces.finished).reverse

/-- The places where pieces begin that follow each other from a place on. -/
def startsFrom : Nat → List (List Char) → List Nat
  | _, [] => []
  | place, piece :: rest => place :: startsFrom (place + piece.length) rest

/-- What is known after placing some words. -/
structure Filling where
  /-- The number of characters placed. -/
  place : Nat := 0
  /-- The number of columns used on the current line. -/
  used : Nat := 0
  /-- The places where lines begin, the last one first. -/
  breaks : List Nat := []

/-- Places a word on the current line, on a new line, or on several lines. -/
def Filling.add (width : Nat) (filling : Filling) (word : List Char) : Filling :=
  let visible := columns (trimEnd isBlank word)
  let place := filling.place + word.length
  if filling.used + visible ≤ width then
    { filling with place, used := filling.used + columns word }
  else if width < visible then
    let pieces := chop width word
    { place
      used := columns (pieces.getLast?.getD [])
      breaks := ((startsFrom filling.place pieces).filter (· ≠ 0)).reverse ++ filling.breaks }
  else
    { place, used := columns word, breaks := filling.place :: filling.breaks }

/-- The places at which a text is broken to fit a width. -/
def breaksOf (width : Nat) (text : List Char) : List Nat :=
  ((wordsOf text).foldl (Filling.add width) {}).breaks.reverse

end Outline.Text
