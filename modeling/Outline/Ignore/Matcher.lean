import Outline.Text.Blank

/-!
# Matchers of ignore rules

Which paths are ignored is told by rules, one on each line.  How a line is read
as a rule, and how rules decide about a path, is left to a matcher.  A rule
matches a path strongly or weakly; the last strong match decides, or the last
weak one if there is no strong match.
-/

namespace Outline.Ignore

open Outline.Text

/-- How strong a match is. -/
inductive Strength where
  /-- The match ends at the slash behind a directory. -/
  | weak
  | strong
  deriving DecidableEq

/-- A way to read ignore rules and to decide about paths. -/
structure Matcher where
  Rule : Type
  /-- Why a line is no rule. -/
  Fault : Type
  /-- The wording of a fault. -/
  message : Fault → String
  /-- The rule on a line; a line may also hold none. -/
  read : String → Except Fault (Option Rule)
  /-- Whether a rule takes paths back from earlier rules. -/
  negated : Rule → Bool
  /-- How strongly a rule matches a path, if it does. -/
  strength? : Rule → String → Option Strength
  /-- Whether rules ignore a path. -/
  verdict : List Rule → String → Bool

namespace Matcher

variable (matcher : Matcher)

/-- The rules on some lines. -/
def rulesOf (lines : List String) : Except matcher.Fault (List matcher.Rule) :=
  (lines.mapM matcher.read).map fun rules => rules.filterMap id

/-- Whether rules ignore a path that is given from the directory they belong to. -/
def ignores (rules : List matcher.Rule) (path : String) : Bool :=
  let trimmed := trim (· = '/') path.toList
  !trimmed.isEmpty && matcher.verdict rules (String.ofList trimmed)

/-- The last rule that matches a path with a strength. -/
def lastMatch? (strength : Strength) (rules : List matcher.Rule) (path : String) :
    Option matcher.Rule :=
  (rules.filter fun rule => matcher.strength? rule path = some strength).getLast?

/-- Strong matches decide before weak ones, and later matches before earlier ones. -/
structure Ranks : Prop where
  verdict_eq (rules : List matcher.Rule) (path : String) :
    matcher.verdict rules path =
      ((matcher.lastMatch? .strong rules path).or (matcher.lastMatch? .weak rules path)).any
        fun rule => !matcher.negated rule
  /-- Only a line with an exclamation mark in front holds a negated rule. -/
  negated_read {line : String} {rule : matcher.Rule} :
    matcher.read line = .ok (some rule) → matcher.negated rule = true →
      line.toList.head? = some '!'

end Matcher

end Outline.Ignore
