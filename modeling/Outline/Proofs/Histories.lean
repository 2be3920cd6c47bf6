import Mathlib.Data.List.Forall2
import Outline.Scope

/-!
# Histories of scopes

Scopes are opened, closed and filled in any order.  Which scope is which is told
by the moment of its opening: the number of operations after which it is open for
the first time.  The outermost scope is open from the beginning.

The main statement describes the open scopes by the history alone.  Each of them
finds of a name the first declaration that was tried while it was the current
one.  What was open when a scope was opened stays as it was until the scope is
closed, and closing scopes changes none of the others.
-/

namespace Outline

namespace Scope

/-- The scope finds of each name the first of some declarations that has it. -/
def Keeps (scope : Scope) (declarations : List Entry) : Prop :=
  ∀ name, scope.find? name = declarations.find? fun declaration => declaration.name = name

namespace Keeps

variable {scope : Scope} {declarations : List Entry} {declaration : Entry}

theorem add (keeps : scope.Keeps declarations) :
    { scope with declarations := scope.declarations ++ [declaration] }.Keeps
      (declarations ++ [declaration]) := by
  intro name
  rw [List.find?_append, ← keeps name, find?, List.find?_append]
  rfl

/-- A declaration whose name has been taken is not found. -/
theorem of_taken (keeps : scope.Keeps declarations) {first : Entry}
    (taken : scope.find? declaration.name = some first) :
    scope.Keeps (declarations ++ [declaration]) := by
  intro name
  rw [List.find?_append, ← keeps name]
  by_cases same : declaration.name = name
  · rw [← same, taken]
    rfl
  · simp [same]

end Keeps

end Scope

namespace Scopes

/-! ## Operations -/

/-- What can be done with scopes. -/
inductive Operation where
  | enter (name : String) (owner : Option Entry)
  | leave
  | leaveTo (indent : Int)
  | leaveAll
  | declare (declaration : Entry)
  | find (name : String)
  deriving DecidableEq

/-- Whether an operation is one that closes scopes. -/
def Operation.isClosing : Operation → Bool
  | leave | leaveTo _ | leaveAll => true
  | enter .. | declare _ | find _ => false

/-- The scopes after an operation.  Nothing is changed when a name has been taken. -/
def perform (scopes : Scopes) : Operation → Scopes
  | .enter name owner => scopes.enter name owner
  | .leave => (scopes.leave?.map Prod.snd).getD scopes
  | .leaveTo indent => scopes.leaveTo indent
  | .leaveAll => scopes.leaveAll
  | .declare declaration => (scopes.declare declaration).toOption.getD scopes
  | .find _ => scopes

/-- The number of scopes that an operation closes. -/
def closedBy (scopes : Scopes) : Operation → Nat
  | .leave => scopes.leave?.toList.length
  | .leaveTo indent => (scopes.endedAt indent).length
  | .leaveAll => scopes.inner.length
  | .enter .. | .declare _ | .find _ => 0

/-- The open scopes, the innermost first. -/
def levels (scopes : Scopes) : List Scope :=
  scopes.inner ++ [scopes.root]

section

variable (scopes : Scopes)

theorem levels_eq_cons : scopes.levels = scopes.current :: scopes.levels.tail := by
  rcases scopes with ⟨inner, root⟩
  cases inner <;> rfl

theorem length_levels : scopes.levels.length = scopes.depth := by
  rw [levels, List.length_append]
  rfl

/-- The outermost scope is never closed. -/
theorem closedBy_le (operation : Operation) : scopes.closedBy operation ≤ scopes.inner.length := by
  cases operation with
  | leave =>
      rcases scopes with ⟨inner, root⟩
      cases inner <;> simp [closedBy, leave?]
  | leaveTo indent => exact (List.takeWhile_sublist _).length_le
  | leaveAll => exact Nat.le_refl _
  | enter | declare | find => exact Nat.zero_le _

/-- Scopes are closed from the inside. -/
theorem levels_closing {operation : Operation} (closing : operation.isClosing = true) :
    (scopes.perform operation).levels = scopes.levels.drop (scopes.closedBy operation) := by
  rw [levels, levels, List.drop_append_of_le_length (scopes.closedBy_le operation)]
  cases operation with
  | leave =>
      rcases scopes with ⟨inner, root⟩
      cases inner <;> rfl
  | leaveTo indent =>
      have parts := List.takeWhile_append_dropWhile
        (p := fun scope : Scope => scope.endsAt indent) (l := scopes.inner)
      have rest := congrArg (List.drop (scopes.endedAt indent).length) parts
      rw [endedAt, List.drop_left] at rest
      rw [perform, leaveTo, closedBy, endedAt, ← rest]
  | leaveAll =>
      rw [closedBy, List.drop_length]
      rfl
  | enter | declare | find => cases closing

theorem declare_eq_error_iff {declaration first : Entry} :
    scopes.declare declaration = .error first ↔ scopes.find? declaration.name = some first := by
  rw [Scopes.declare, Scopes.find?, Scope.declare]
  cases scopes.current.find? declaration.name <;> simp [Except.map]

theorem perform_declare_of_taken {declaration first : Entry}
    (taken : scopes.find? declaration.name = some first) :
    scopes.perform (.declare declaration) = scopes := by
  rw [perform, scopes.declare_eq_error_iff.mpr taken]
  rfl

theorem levels_declare_of_free {declaration : Entry}
    (free : scopes.find? declaration.name = none) :
    (scopes.perform (.declare declaration)).levels =
      { scopes.current with declarations := scopes.current.declarations ++ [declaration] } ::
        scopes.levels.tail := by
  rw [Scopes.find?] at free
  rw [perform, Scopes.declare, Scope.declare, free]
  rcases scopes with ⟨inner, root⟩
  cases inner <;> rfl

end

/-! ## Histories -/

/-- The scopes after some operations, the last one first. -/
def after : List Operation → Scopes
  | [] => .initial
  | operation :: earlier => (after earlier).perform operation

/-- The moments at which the open scopes were opened, the innermost first. -/
def openings : List Operation → List Nat
  | [] => [0]
  | .enter _ _ :: earlier => (earlier.length + 1) :: openings earlier
  | operation :: earlier => (openings earlier).drop ((after earlier).closedBy operation)

/-- The moment at which the current scope was opened. -/
def currentOpening (history : List Operation) : Nat :=
  (openings history).headD 0

/-- The declarations that were tried while a scope was the current one, in their order. -/
def tried (opening : Nat) : List Operation → List Entry
  | [] => []
  | .declare declaration :: earlier =>
    tried opening earlier ++ if currentOpening earlier = opening then [declaration] else []
  | _ :: earlier => tried opening earlier

section

variable {history earlier : List Operation} {operation : Operation} {opening : Nat}

theorem openings_closing (closing : operation.isClosing = true) :
    openings (operation :: earlier) =
      (openings earlier).drop ((after earlier).closedBy operation) := by
  cases operation with
  | enter => cases closing
  | _ => rfl

theorem openings_declare (declaration : Entry) (earlier : List Operation) :
    openings (.declare declaration :: earlier) = openings earlier :=
  rfl

theorem tried_closing (closing : operation.isClosing = true) (opening : Nat) :
    tried opening (operation :: earlier) = tried opening earlier := by
  cases operation with
  | declare => cases closing
  | _ => rfl

/-- The moments go with the open scopes. -/
theorem length_openings (history : List Operation) :
    (openings history).length = (after history).levels.length := by
  induction history with
  | nil => rfl
  | cons operation earlier induction =>
      cases operation with
      | enter name owner => exact congrArg Nat.succ induction
      | declare declaration =>
          rw [openings_declare, induction, after]
          cases found : (after earlier).find? declaration.name with
          | some first => rw [perform_declare_of_taken _ found]
          | none =>
              rw [levels_declare_of_free _ found, levels_eq_cons]
              rfl
      | find name => exact induction
      | _ => rw [openings_closing rfl, after, levels_closing _ rfl, List.length_drop,
          List.length_drop, induction]

theorem openings_eq_cons (history : List Operation) :
    openings history = currentOpening history :: (openings history).tail := by
  have length := length_openings history
  rw [levels_eq_cons, currentOpening] at *
  cases moments : openings history with
  | nil => simp [moments] at length
  | cons first rest => rfl

theorem currentOpening_mem (history : List Operation) :
    currentOpening history ∈ openings history := by
  rw [openings_eq_cons]
  exact List.mem_cons_self

theorem le_of_mem_openings (member : opening ∈ openings history) : opening ≤ history.length := by
  induction history with
  | nil => simp_all [openings]
  | cons operation earlier induction =>
      cases operation with
      | enter name owner =>
          rcases List.mem_cons.mp member with rfl | further
          · exact Nat.le_refl _
          · exact Nat.le_succ_of_le (induction further)
      | _ => exact Nat.le_succ_of_le (induction (List.mem_of_mem_drop member))

/-- Scopes that are further inside have been opened later. -/
theorem openings_pairwise (history : List Operation) : (openings history).Pairwise (· > ·) := by
  induction history with
  | nil => exact List.pairwise_singleton _ _
  | cons operation earlier induction =>
      cases operation with
      | enter name owner =>
          exact List.pairwise_cons.mpr
            ⟨fun _ member => Nat.lt_succ_of_le (le_of_mem_openings member), induction⟩
      | _ => exact induction.sublist (List.drop_sublist _ _)

theorem closedBy_lt_length_openings (earlier : List Operation) (operation : Operation) :
    (after earlier).closedBy operation < (openings earlier).length := by
  rw [length_openings, length_levels]
  exact Nat.lt_succ_of_le (closedBy_le _ operation)

/-- The outermost scope is the one from the beginning. -/
theorem getLast?_openings (history : List Operation) : (openings history).getLast? = some 0 := by
  induction history with
  | nil => rfl
  | cons operation earlier induction =>
      cases operation with
      | enter name owner =>
          rw [openings, openings_eq_cons, List.getLast?_cons_cons, ← openings_eq_cons, induction]
      | declare | find => exact induction
      | _ =>
          rw [openings_closing rfl, List.getLast?_drop,
            if_neg (Nat.not_le_of_lt (closedBy_lt_length_openings earlier _)), induction]

theorem tried_declare_current (declaration : Entry) (earlier : List Operation) :
    tried (currentOpening earlier) (.declare declaration :: earlier) =
      tried (currentOpening earlier) earlier ++ [declaration] := by
  rw [tried, if_pos rfl]

theorem tried_declare_other (declaration : Entry) (other : opening ≠ currentOpening earlier) :
    tried opening (.declare declaration :: earlier) = tried opening earlier := by
  rw [tried, if_neg other.symm, List.append_nil]

/-- Nothing has been tried in a scope that is yet to be opened. -/
theorem tried_eq_nil (unopened : history.length < opening) : tried opening history = [] := by
  induction history with
  | nil => rfl
  | cons operation earlier induction =>
      have before := induction (Nat.lt_of_succ_lt unopened)
      cases operation with
      | declare declaration =>
          have bounded := le_of_mem_openings (currentOpening_mem earlier)
          rw [List.length_cons] at unopened
          rw [tried_declare_other declaration (by omega), before]
      | _ => exact before

end

/-! ## What the scopes hold -/

/-- Every open scope keeps what was tried in it. -/
def AllKeep (history : List Operation) : Prop :=
  List.Forall₂ (fun opening scope => scope.Keeps (tried opening history))
    (openings history) (after history).levels

namespace AllKeep

variable {earlier : List Operation}

theorem enter (all : AllKeep earlier) (name : String) (owner : Option Entry) :
    AllKeep (.enter name owner :: earlier) := by
  refine .cons ?_ all
  have fresh : tried (earlier.length + 1) earlier = [] := tried_eq_nil (Nat.lt_succ_self _)
  intro sought
  exact (congrArg (List.find? fun declaration => declaration.name = sought) fresh).symm

theorem closing (all : AllKeep earlier) {operation : Operation}
    (closing : operation.isClosing = true) :
    AllKeep (operation :: earlier) := by
  rw [AllKeep, openings_closing closing, after, levels_closing _ closing]
  simp only [tried_closing closing]
  exact List.forall₂_drop _ all

theorem declare (all : AllKeep earlier) (declaration : Entry) :
    AllKeep (.declare declaration :: earlier) := by
  rw [AllKeep, openings_eq_cons, levels_eq_cons, List.forall₂_cons] at all
  rcases all with ⟨current, outer⟩
  have apart := (List.pairwise_cons.mp (openings_eq_cons earlier ▸ openings_pairwise earlier)).1
  have kept : List.Forall₂
      (fun opening scope => scope.Keeps (tried opening (.declare declaration :: earlier)))
      (openings earlier).tail (after earlier).levels.tail := by
    refine (List.forall₂_and_left _ _).mpr ⟨apart, outer⟩ |>.imp ?_
    rintro opening scope ⟨before, keeps⟩
    rwa [tried_declare_other declaration (Nat.ne_of_lt before)]
  rw [AllKeep, openings_declare, openings_eq_cons, after]
  cases found : (after earlier).find? declaration.name with
  | some first =>
      rw [perform_declare_of_taken _ found, levels_eq_cons]
      refine .cons ?_ kept
      rw [tried_declare_current]
      exact current.of_taken found
  | none =>
      rw [levels_declare_of_free _ found]
      refine .cons ?_ kept
      rw [tried_declare_current]
      exact current.add

end AllKeep

theorem allKeep (history : List Operation) : AllKeep history := by
  induction history with
  | nil => exact .cons (fun _ => rfl) .nil
  | cons operation earlier induction =>
      cases operation with
      | enter name owner => exact induction.enter name owner
      | declare declaration => exact induction.declare declaration
      | find name => exact induction
      | _ => exact induction.closing rfl

/-! ## What lies beneath an open scope -/

/--
A scope that was opened with a name and an owner is still open.  Beneath it are
the scopes from just before that, as they were then.
-/
structure IsBuiltOn (history earlier : List Operation) (name : String) (owner : Option Entry) :
    Prop where
  moments : (earlier.length + 1) :: openings earlier <:+ openings history
  scopes : ∃ scope : Scope, scope.name = name ∧ scope.owner = owner ∧
    scope :: (after earlier).levels <:+ (after history).levels

namespace IsBuiltOn

variable {history earlier : List Operation} {name : String} {owner : Option Entry}

theorem enter (built : IsBuiltOn history earlier name owner) (other : String)
    (otherOwner : Option Entry) :
    IsBuiltOn (.enter other otherOwner :: history) earlier name owner where
  moments := built.moments.trans (List.suffix_cons _ _)
  scopes := by
    rcases built.scopes with ⟨scope, named, owned, beneath⟩
    exact ⟨scope, named, owned, beneath.trans (List.suffix_cons _ _)⟩

theorem closing (built : IsBuiltOn history earlier name owner) {operation : Operation}
    (closing : operation.isClosing = true)
    (remains : earlier.length + 1 ∈ openings (operation :: history)) :
    IsBuiltOn (operation :: history) earlier name owner := by
  have fewer : openings (operation :: history) <:+ openings history := by
    rw [openings_closing closing]
    exact List.drop_suffix _ _
  -- All scopes beneath have been opened before, so the scope itself is among the rest.
  have moments : (earlier.length + 1) :: openings earlier <:+ openings (operation :: history) := by
    rcases List.suffix_or_suffix_of_suffix built.moments fewer with whole | part
    · exact whole
    · rcases List.suffix_cons_iff.mp part with same | beneath
      · exact ⟨[], same.symm⟩
      · exact absurd (le_of_mem_openings (beneath.subset remains)) (Nat.not_succ_le_self _)
  rcases built.scopes with ⟨scope, named, owned, beneath⟩
  refine ⟨moments, scope, named, owned, List.suffix_of_suffix_length_le beneath ?_ ?_⟩
  · rw [after, levels_closing _ closing]
    exact List.drop_suffix _ _
  · have length := moments.length_le
    rwa [List.length_cons, length_openings, length_openings] at length

theorem declare (built : IsBuiltOn history earlier name owner) (declaration : Entry) :
    IsBuiltOn (.declare declaration :: history) earlier name owner := by
  refine ⟨built.moments, ?_⟩
  rcases built.scopes with ⟨scope, named, owned, beneath⟩
  rw [after]
  cases found : (after history).find? declaration.name with
  | some first =>
      rw [perform_declare_of_taken _ found]
      exact ⟨scope, named, owned, beneath⟩
  | none =>
      rw [levels_declare_of_free _ found]
      rw [levels_eq_cons (after history)] at beneath
      rcases List.suffix_cons_iff.mp beneath with same | further
      · rcases List.cons.inj same with ⟨rfl, rest⟩
        exact ⟨{ (after history).current with
          declarations := (after history).current.declarations ++ [declaration] }, named, owned,
          [], congrArg (List.cons _) rest⟩
      · exact ⟨scope, named, owned, further.trans (List.suffix_cons _ _)⟩

end IsBuiltOn

theorem isBuiltOn {later earlier : List Operation} {name : String} {owner : Option Entry}
    (remains : earlier.length + 1 ∈ openings (later ++ .enter name owner :: earlier)) :
    IsBuiltOn (later ++ .enter name owner :: earlier) earlier name owner := by
  induction later with
  | nil => exact ⟨List.suffix_rfl, _, rfl, rfl, List.suffix_rfl⟩
  | cons operation later induction =>
      cases operation with
      | enter other otherOwner =>
          refine (induction ?_).enter other otherOwner
          rcases List.mem_cons.mp remains with same | before
          · simp only [List.append_eq, List.length_append, List.length_cons] at same
            omega
          · exact before
      | declare declaration => exact (induction remains).declare declaration
      | find other => exact ⟨(induction remains).moments, (induction remains).scopes⟩
      | _ => exact (induction (List.mem_of_mem_drop remains)).closing rfl remains

/-! ## The scopes of a history -/

theorem after_root (history : List Operation) :
    (after history).root.name = Scope.outermost.name ∧
      (after history).root.owner = Scope.outermost.owner := by
  induction history with
  | nil => exact ⟨rfl, rfl⟩
  | cons operation earlier induction =>
      rw [after]
      cases operation with
      | declare declaration =>
          cases found : (after earlier).find? declaration.name with
          | some first =>
              rw [perform_declare_of_taken _ found]
              exact induction
          | none =>
              rw [Scopes.find?] at found
              rw [perform, Scopes.declare, Scope.declare, found]
              cases inner : (after earlier).inner <;>
                simpa [Except.map, Except.toOption, replaceCurrent, current, inner] using induction
      | leave =>
          rw [perform, leave?]
          cases inner : (after earlier).inner <;> simpa [inner] using induction
      | _ => exact induction

/-- What a history tells about the scopes that are open after it. -/
structure FollowsHistory (history : List Operation) : Prop where
  /-- Every open scope has its own opening, and the outermost one is always the initial one. -/
  depth : (after history).depth = (openings history).length
  ordered : (openings history).Pairwise (· > ·)
  bottom : (openings history).getLast? = some 0 ∧
    (after history).root.name = Scope.outermost.name ∧
    (after history).root.owner = Scope.outermost.owner
  /-- The first declaration counts that was tried while the current scope was the current one. -/
  found : ∀ name, (after history).find? name =
    (tried (currentOpening history) history).find? fun declaration => declaration.name = name
  kept : AllKeep history
  /-- A declaration fails exactly when its name is found, and then it changes nothing. -/
  taken : ∀ declaration first, (after history).declare declaration = .error first ↔
    (after history).find? declaration.name = some first
  unchanged : ∀ declaration, (after history).find? declaration.name ≠ none →
    after (.declare declaration :: history) = after history
  beneath : ∀ later name owner earlier, history = later ++ .enter name owner :: earlier →
    earlier.length + 1 ∈ openings history → IsBuiltOn history earlier name owner
  /-- Scopes are closed from the inside, and those that remain are what they were. -/
  remaining : ∀ operation : Operation, operation.isClosing = true →
    (after (operation :: history)).levels <:+ (after history).levels ∧
      openings (operation :: history) <:+ openings history

end Scopes

end Outline
