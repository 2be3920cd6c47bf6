import Outline.Tree

/-!
# Scopes of declared names

Names are declared in the innermost open scope.  Scopes are opened one inside
the other; the outermost one is never closed.  In each scope the first
declaration of a name is kept.
-/

namespace Outline

/-- One level of names. -/
structure Scope where
  name : String
  owner : Option Entry := none
  /-- The declarations of the scope, in the order in which they were made. -/
  declarations : List Entry := []
  deriving DecidableEq

namespace Scope

/-- The scope outside all classes and functions. -/
def outermost : Scope where
  name := "global"

/-- The declaration of a name. -/
def find? (scope : Scope) (name : String) : Option Entry :=
  scope.declarations.find? fun declaration => declaration.name = name

/-- The scope with one more declaration, or the declaration that has taken its name. -/
def declare (scope : Scope) (declaration : Entry) : Except Entry Scope :=
  match scope.find? declaration.name with
  | some first => .error first
  | none => .ok { scope with declarations := scope.declarations ++ [declaration] }

/--
Whether a line at a column ends the scope, because the owner begins there or
further right.
-/
def endsAt (scope : Scope) (indent : Int) : Bool :=
  scope.owner.any fun owner => indent ≤ owner.indent

end Scope

/-- The open scopes. -/
structure Scopes where
  /-- The scopes inside the outermost one, the innermost first. -/
  inner : List Scope := []
  /-- The scope that stays open. -/
  root : Scope := Scope.outermost
  deriving DecidableEq

namespace Scopes

/-- Only the outermost scope is open. -/
def initial : Scopes where

/-- The innermost open scope. -/
def current (scopes : Scopes) : Scope :=
  scopes.inner.headD scopes.root

/-- The number of open scopes. -/
def depth (scopes : Scopes) : Nat :=
  scopes.inner.length + 1

/-- Opens a scope inside the current one. -/
def enter (scopes : Scopes) (name : String) (owner : Option Entry) : Scopes :=
  { scopes with inner := { name, owner } :: scopes.inner }

/-- Closes the current scope; the outermost one stays open. -/
def leave? (scopes : Scopes) : Option (Scope × Scopes) :=
  match scopes.inner with
  | [] => none
  | scope :: rest => some (scope, { scopes with inner := rest })

/-- The scopes that a line at a column ends, the innermost first. -/
def endedAt (scopes : Scopes) (indent : Int) : List Scope :=
  scopes.inner.takeWhile fun scope => scope.endsAt indent

/--
Closes the scopes that a line at a column ends; it stops at the first one that
stays open.
-/
def leaveTo (scopes : Scopes) (indent : Int) : Scopes :=
  { scopes with inner := scopes.inner.dropWhile fun scope => scope.endsAt indent }

/-- Closes all scopes but the outermost one. -/
def leaveAll (scopes : Scopes) : Scopes :=
  { scopes with inner := [] }

/-- Puts another scope in the place of the current one. -/
def replaceCurrent (scopes : Scopes) (scope : Scope) : Scopes :=
  match scopes.inner with
  | [] => { scopes with root := scope }
  | _ :: rest => { scopes with inner := scope :: rest }

/--
Declares a name in the current scope, or tells which declaration has taken the
name there.
-/
def declare (scopes : Scopes) (declaration : Entry) : Except Entry Scopes :=
  (scopes.current.declare declaration).map scopes.replaceCurrent

/-- The declaration of a name in the current scope. -/
def find? (scopes : Scopes) (name : String) : Option Entry :=
  scopes.current.find? name

end Scopes

end Outline
