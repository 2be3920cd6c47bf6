/-!
# Sets of code points

A class of characters is written as its ranges of code points, in increasing
order.
-/

namespace Outline.Text

/-- Inclusive ranges of code points, in increasing order. -/
abbrev CodePoints :=
  List (Nat × Nat)

/--
Whether one of the ranges holds the character.  The search stops at the first
range that begins after the character, since the ranges are in increasing order.
-/
def CodePoints.covers : CodePoints → Char → Bool
  | [], _ => false
  | (low, high) :: rest, character =>
    if character.toNat < low then
      false
    else
      character.toNat ≤ high || CodePoints.covers rest character

end Outline.Text
