import Outline.Text.CodePoints

/-!
# Blank characters

The white space of Unicode: the horizontal and vertical blanks of ASCII with the
four information separators, the next-line control, the no-break and typographic
spaces, and the two separators of lines and paragraphs.  Zero-width characters
are not blank.
-/

namespace Outline.Text

/-- The code points of the blank characters. -/
def blankRanges : CodePoints :=
    [(0x9, 0xD), (0x1C, 0x20), (0x85, 0x85), (0xA0, 0xA0), (0x1680, 0x1680), (0x2000, 0x200A),
     (0x2028, 0x2029), (0x202F, 0x202F), (0x205F, 0x205F), (0x3000, 0x3000)]

/-- Whether a character is white space. -/
def isBlank (character : Char) : Bool :=
  blankRanges.covers character

/-- A text without its leading characters of a class. -/
abbrev trimStart (drop : Char → Bool) (text : List Char) : List Char :=
  text.dropWhile drop

/-- A text without its trailing characters of a class. -/
def trimEnd (drop : Char → Bool) (text : List Char) : List Char :=
  (text.reverse.dropWhile drop).reverse

/-- A text without its leading and trailing characters of a class. -/
def trim (drop : Char → Bool) (text : List Char) : List Char :=
  trimEnd drop (trimStart drop text)

end Outline.Text
