import Outline.Kind

/-!
# What may stand where

The grammar of an outline decides about one node at a time: given the kind of a
node and the kinds of the nodes already placed right below it, it tells which
kind may be placed next.
-/

namespace Outline.Grammar

/-- A module header or a class may stand anywhere at the top of a document. -/
def rootAdmits (child : Kind) : Bool :=
  child = .moduleHeader || child = .classBlock

/--
A class describes itself first, or describes the member that stands last; it
inherits before its first member.
-/
def classAdmits (earlier : List Kind) (child : Kind) : Bool :=
  match child with
  | .description => earlier.head?.all fun last => last = .field || last = .function
  | .inheritance => earlier.all fun kind => kind = .description
  | .field | .function => true
  | _ => false

/-- A function has a description, inputs, outputs and a behavior, in this order. -/
def functionAdmits (earlier : List Kind) (child : Kind) : Bool :=
  match child with
  | .description => earlier.isEmpty
  | .input => !earlier.contains .output && !earlier.contains .behavior
  | .output | .behavior => !earlier.contains .behavior
  | _ => false

/--
A block holds statements and conditionals; an alternative follows its
conditional.
-/
def blockAdmits (earlier : List Kind) (child : Kind) : Bool :=
  match child with
  | .statement | .conditional => true
  | .alternative => earlier.head? = some .conditional
  | _ => false

/--
Whether a node of kind `child` may be placed below a node of kind `container`
after the nodes `earlier`, of which the one placed last comes first.
-/
def admits (container : Kind) (earlier : List Kind) (child : Kind) : Bool :=
  match container with
  | .root => rootAdmits child
  | .classBlock => classAdmits earlier child
  | .function => functionAdmits earlier child
  | .behavior | .conditional | .alternative => blockAdmits earlier child
  | _ => false

end Outline.Grammar
