/-!
# Similarity of words

Two words are compared by the length of their longest common subsequence: the
similarity is twice that length over the sum of the lengths of the words.  It is
kept as a pair of numbers and compared exactly.
-/

namespace Outline.Text

/--
One more row of the table of common subsequences.  Given, for every suffix of
`word`, the length of its longest common subsequence with some text, the result
holds the same for the text with `character` put in front.
-/
def extendRow (character : Char) : List Char → List Nat → List Nat
  | [], _ => [0]
  | other :: word, row =>
    let shorter := extendRow character word row.tail
    let longest :=
      if character = other then
        row.tail.headD 0 + 1
      else
        max (row.headD 0) (shorter.headD 0)
    longest :: shorter

/-- The length of a longest common subsequence of two texts. -/
def commonLength (text word : List Char) : Nat :=
  (text.foldr (fun character row => extendRow character word row)
    (List.replicate (word.length + 1) 0)).headD 0

/-- A similarity as an exact fraction. -/
structure Similarity where
  /-- Twice the length of the longest common subsequence. -/
  shared : Nat
  /-- The sum of the lengths of both words. -/
  total : Nat
  deriving DecidableEq

namespace Similarity

/-- The similarity of two words. -/
def ofWords (left right : List Char) : Similarity where
  shared := 2 * commonLength left right
  total := left.length + right.length

/-- Whether the first of two words is strictly more similar than the second. -/
def exceeds (left right : Similarity) : Bool :=
  right.shared * left.total < left.shared * right.total

/-- Whether a similarity is at least seven tenths. -/
def isClose (similarity : Similarity) : Bool :=
  7 * similarity.total ≤ 10 * similarity.shared

end Similarity

end Outline.Text
