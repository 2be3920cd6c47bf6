/-!
# Cutting a text into lines

Which characters end a line depends on who reads: an outline document knows the
line feed only, a list of patterns knows all line boundaries of Unicode.  Files
are read with their line ends unified first.
-/

namespace Outline.Text

/-- Puts a character in front of a text that has been cut into lines. -/
def consLines (ends : Char → Bool) (character : Char) (lines : List (List Char)) :
    List (List Char) :=
  if ends character then
    [] :: lines
  else
    match lines with
    | [] => [[character]]
    | line :: rest => (character :: line) :: rest

/--
The lines of a text.  Each character of the class `ends` ends a line; what
follows the last one is a line of its own unless it is empty.
-/
def linesOf (ends : Char → Bool) (text : List Char) : List (List Char) :=
  text.foldr (consLines ends) []

/--
The parts of a sequence between its separators; there is one more part than
separators.
-/
def separate {Item : Type} (separates : Item → Bool) (items : List Item) : List (List Item) :=
  items.foldr
    (fun item parts =>
      if separates item then
        [] :: parts
      else
        match parts with
        | [] => [[item]]
        | part :: rest => (item :: part) :: rest)
    [[]]

/--
The parts of a sequence that end in an item of a class; the last part may end in
any item.
-/
def partsThrough {Item : Type} (ends : Item → Bool) (items : List Item) : List (List Item) :=
  items.foldr
    (fun item parts =>
      if ends item then
        [item] :: parts
      else
        match parts with
        | [] => [[item]]
        | part :: rest => (item :: part) :: rest)
    []

/-- The line boundaries of Unicode. -/
def isLineBoundary (character : Char) : Bool :=
  ['\n', '\x0b', '\x0c', '\r', '\x1c', '\x1d', '\x1e', '\u0085', '\u2028', '\u2029'].contains
    character

/--
A text whose lines all end in a line feed: a carriage return becomes a line
feed, and a line feed right after a carriage return is dropped.
-/
def unifyLineEnds (text : List Char) : List Char :=
  (List.zip (none :: text.map some) text).filterMap fun (before, character) =>
    if character = '\r' then
      some '\n'
    else if character = '\n' && before = some '\r' then
      none
    else
      some character

end Outline.Text
