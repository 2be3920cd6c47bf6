import Outline.Proofs.Ancestry
import Outline.Proofs.Collision
import Outline.Proofs.Scoping

/-!
# Redeclared variables

The findings about redeclared names are those that the comparison of each
variable gives, in the order of the document.  The invariant `Declared` says so
for every reading.  It follows the scope of the class that is growing, which a
line may have ended, and the outermost scope, which holds the strays.

The main statement tells from this when the findings agree with the collisions
within classes.
-/

namespace Outline

/-! ## The invariant -/

/-- The scope of the last block at the top, unless a line has ended it. -/
inductive ClassScopes (lines : List Line) :
    Option (Entry × List Entry) → List Scope → Prop where
  | ended {top : Option (Entry × List Entry)}
      (cut : ∀ owner members, top = some (owner, members) → owner.kind = .classBlock →
        owner.isCutOff lines = true) :
      ClassScopes lines top []
  | running {owner : Entry} {members : List Entry} {scope : Scope}
      (kind : owner.kind = .classBlock)
      (whole : owner.isCutOff lines = false)
      (names : scope.Names (owner :: members.filter fun entry => entry.kind = .field)) :
      ClassScopes lines (some (owner, members)) [scope]

theorem ClassScopes.extend {lines : List Line} {line : Line} {top : Option (Entry × List Entry)}
    {classes : List Scope} (scopes : ClassScopes lines top classes)
    (inner : line.isStructural = true → 0 < line.indent) :
    ClassScopes (lines ++ [line]) top classes := by
  cases scopes with
  | ended cut =>
      apply ClassScopes.ended
      intro owner members same kind
      simp [Entry.isCutOff_append, cut owner members same kind]
  | running kind whole names =>
      apply ClassScopes.running kind _ names
      simp [Entry.isCutOff_append, whole, Line.cutsOff_eq_false_of_inner inner]

theorem ClassScopes.of_isCutOff {lines : List Line} {owner : Entry}
    (cutOff : owner.isCutOff lines = true) (members : List Entry) :
    ClassScopes lines (some (owner, members)) [] := by
  apply ClassScopes.ended
  intro other later same kind
  simp only [Option.some.injEq, Prod.mk.injEq] at same
  exact same.1 ▸ cutOff

/-- The scope of a class has ended, or it finds the names in the class. -/
theorem ClassScopes.ended_or_running {lines : List Line} {owner : Entry} {members : List Entry}
    {classes : List Scope} (scopes : ClassScopes lines (some (owner, members)) classes)
    (kind : owner.kind = .classBlock) :
    (owner.isCutOff lines = true ∧ classes = []) ∨
      ∃ scope, owner.isCutOff lines = false ∧ classes = [scope] ∧
        scope.Names (owner :: members.filter fun entry => entry.kind = .field) := by
  cases scopes with
  | ended cut => exact .inl ⟨cut owner members rfl kind, rfl⟩
  | running known whole names => exact .inr ⟨_, whole, rfl, names⟩

/-- A node that is no named variable leaves the scope of its class as it is. -/
theorem ClassScopes.place {lines : List Line} {owner entry : Entry} {members : List Entry}
    {classes : List Scope} (scopes : ClassScopes lines (some (owner, members)) classes)
    (silent : entry.kind = .field → entry.name = "") :
    ClassScopes lines (some (owner, members ++ [entry])) classes := by
  cases scopes with
  | ended cut =>
      apply ClassScopes.ended
      intro other later same kind
      simp only [Option.some.injEq, Prod.mk.injEq] at same
      exact cut other members (by rw [same.1]) kind
  | running kind whole names =>
      apply ClassScopes.running kind whole
      rw [List.filter_append]
      by_cases field : entry.kind = .field
      · simpa [field] using names.of_unnamed (silent field)
      · simpa [field] using names

namespace Reading

/-- What a reading has declared and reported. -/
structure Declared (lines : List Line) (reading : Reading) : Prop where
  layered : ∃ classes, reading.scopes.Layered classes ∧
    ClassScopes lines reading.position.top? classes
  root : reading.scopes.root.Names
    (strayMembers lines (reading.position.toTree.placements []))
  reported :
    (reading.findings.filterMap Finding.redeclared?).reverse =
      (reading.position.toTree.placements []).filterMap
        (Placement.redeclared? lines (reading.position.toTree.placements []))

theorem declared_initial : Reading.initial.Declared [] := by
  have placements : Reading.initial.position.toTree.placements [] = [] :=
    Position.initial_placements
  refine ⟨⟨[], ⟨[], rfl, by simp, by simp⟩, .ended ?_⟩, ?_, ?_⟩
  · intro owner members impossible
    simp [Position.top?, initial, Position.initial, Position.toTree, Block.close] at impossible
  · rw [placements]
    intro name named
    rfl
  · rw [placements]
    rfl

namespace Declared

variable {lines : List Line} {line : Line} {reading next : Reading}

/-- A line that leaves the tree as it is, and reports no name, leaves the declarations alone. -/
theorem keep (declared : reading.Declared lines) (faithful : reading.position.Faithful lines)
    (ascending : Line.Ascending (lines ++ [line]))
    (added : List Finding) (tree : next.position.toTree = reading.position.toTree)
    (layered : ∃ classes, next.scopes.Layered classes ∧
      ClassScopes (lines ++ [line]) reading.position.top? classes)
    (root : next.scopes.root = reading.scopes.root)
    (findings : next.findings = added ++ reading.findings)
    (silent : added.filterMap Finding.redeclared? = []) :
    next.Declared (lines ++ [line]) := by
  have older := faithful.child_lineNumber_lt ascending
  refine ⟨?_, ?_, ?_⟩
  · rw [Position.top?, tree]
    exact layered
  · rw [tree, root, Placement.strayMembers_append_line older]
    exact declared.root
  · rw [tree, findings, List.filterMap_append, silent, List.nil_append, declared.reported]
    apply List.filterMap_congr
    intro placement member
    simpa using (Placement.redeclared?_extend [] member older (by simp)).symm

/-- A node that is placed adds what is declared and reported about it. -/
theorem grow (declared : reading.Declared lines) (faithful : reading.position.Faithful lines)
    (ascending : Line.Ascending (lines ++ [line])) (added : List Finding) {placement : Placement}
    (placed : next.position.toTree.placements [] =
      reading.position.toTree.placements [] ++ [placement])
    (last : placement.child.lineNumber = line.number)
    (layered : ∃ classes, next.scopes.Layered classes ∧
      ClassScopes (lines ++ [line]) next.position.top? classes)
    (root : next.scopes.root.Names
      (strayMembers lines (reading.position.toTree.placements [])
        ++ if placement.isMember && placement.parent.isCutOff lines then [placement.child]
          else []))
    (findings : next.findings = added ++ reading.findings)
    (reported : (added.filterMap Finding.redeclared?).reverse =
      (placement.redeclared? (lines ++ [line])
        (reading.position.toTree.placements [] ++ [placement])).toList) :
    next.Declared (lines ++ [line]) := by
  have older := faithful.child_lineNumber_lt ascending
  refine ⟨layered, ?_, ?_⟩
  · rw [placed]
    have strays : strayMembers (lines ++ [line])
        (reading.position.toTree.placements [] ++ [placement]) =
          strayMembers lines (reading.position.toTree.placements [])
            ++ if placement.isMember && placement.parent.isCutOff lines then [placement.child]
              else [] := by
      rw [← Placement.strayMembers_append_line older]
      simp only [strayMembers, List.filter_append, List.map_append, List.filter_singleton,
        Placement.isCutOff_last ascending last]
      cases placement.isMember && placement.parent.isCutOff lines <;> rfl
    rw [strays]
    exact root
  · rw [placed, findings, List.filterMap_append, List.reverse_append, declared.reported, reported,
      List.filterMap_append]
    congr 1
    apply List.filterMap_congr
    intro other member
    exact (Placement.redeclared?_extend [placement] member older (by simp [last])).symm

/-- A rejected line ends scopes by its column, and a line at the first column cuts a class off. -/
theorem layered_leaveTo (declared : reading.Declared lines)
    (faithful : reading.position.Faithful lines)
    (ascending : Line.Ascending (lines ++ [line])) (structural : line.isStructural = true) :
    ∃ classes, (reading.scopes.leaveTo line.indent).Layered classes ∧
      ClassScopes (lines ++ [line]) reading.position.top? classes := by
  rcases declared.layered with ⟨classes, layered, classScopes⟩
  rcases Nat.eq_zero_or_pos line.indent with first | inner
  · have ended : (reading.scopes.leaveTo line.indent).inner = [] := by
      simpa [first] using layered.leaveTo_zero
    refine ⟨[], ⟨[], ended, by simp, by simp⟩, .ended ?_⟩
    intro owner members top kind
    have before := faithful.lineNumber_lt ascending (Position.mem_entries_of_top? top)
    simp [Entry.isCutOff_append, Line.cutsOff, structural, first, before]
  · exact ⟨classes, layered.leaveTo (by exact_mod_cast inner), classScopes.extend fun _ => inner⟩

theorem reject (declared : reading.Declared lines) (faithful : reading.position.Faithful lines)
    (ascending : Line.Ascending (lines ++ [line])) {text : String} {reached : Position}
    {problem : Problem} (events : List Event) (structural : line.isStructural = true)
    (obstacle : reading.Obstacle line text reached problem) :
    ((reading.arrived line reached events).reject line problem reached.column).Declared
      (lines ++ [line]) := by
  refine declared.keep faithful ascending [⟨line.number, problem⟩] obstacle.reaches.toTree_eq
    (declared.layered_leaveTo faithful ascending structural) rfl rfl ?_
  have other := obstacle.category_ne_semantic
  cases problem <;> simp [Problem.category] at other <;> rfl

/-- A line that interrupts nothing and reports no name changes no declaration. -/
theorem wait (declared : reading.Declared lines) (faithful : reading.position.Faithful lines)
    (ascending : Line.Ascending (lines ++ [line])) (added : List Finding)
    (inner : line.isStructural = true → 0 < line.indent)
    (position : next.position = reading.position) (scopes : next.scopes = reading.scopes)
    (findings : next.findings = added ++ reading.findings)
    (silent : added.filterMap Finding.redeclared? = []) :
    next.Declared (lines ++ [line]) := by
  rcases declared.layered with ⟨classes, layered, classScopes⟩
  refine declared.keep faithful ascending added (by rw [position]) ⟨classes, ?_, ?_⟩
    (by rw [scopes]) findings silent
  · exact scopes ▸ layered
  · exact classScopes.extend inner

/-- A node that is no named variable of a class leaves the names of open scopes alone. -/
theorem grow_plain (declared : reading.Declared lines) (faithful : reading.position.Faithful lines)
    (ascending : Line.Ascending (lines ++ [line])) {placement : Placement}
    (plain : placement.isMember = false)
    (placed : next.position.toTree.placements [] =
      reading.position.toTree.placements [] ++ [placement])
    (last : placement.child.lineNumber = line.number)
    (layered : ∃ classes, next.scopes.Layered classes ∧
      ClassScopes (lines ++ [line]) next.position.top? classes)
    (root : next.scopes.root = reading.scopes.root)
    (findings : next.findings = reading.findings) :
    next.Declared (lines ++ [line]) := by
  refine declared.grow faithful ascending [] placed last layered ?_ findings ?_
  · rw [root, plain]
    simpa using declared.root
  · simp [Placement.redeclared?, plain]

end Declared

/-! ## Attaching -/

namespace Arrival

variable {lines : List Line} {line : Line} {reading : Reading} {reached : Position}
  {entry : Entry}

theorem attach_placements (arrival : Arrival lines reading line reached entry)
    (events : List Event) :
    ((reading.arrived line reached events).attach entry).position.toTree.placements [] =
      reading.position.toTree.placements [] ++ [reached.placement entry] := by
  rw [attach_position]
  exact arrival.placements_eq

/-- The line of a node does not cut the node off. -/
theorem isCutOff_eq_false (arrival : Arrival lines reading line reached entry) :
    entry.isCutOff (lines ++ [line]) = false := by
  have before : ∀ other ∈ lines, other.number ≤ entry.lineNumber := fun other member =>
    arrival.lineNumber ▸ (arrival.ascending.lt_last member).le
  rw [Entry.isCutOff, List.any_eq_false]
  intro other member
  rcases List.mem_append.mp member with old | last
  · simp [Line.cutsOff, before other old]
  · simp [Line.cutsOff, List.mem_singleton.mp last, arrival.lineNumber]

/-- A line at the top has ended all scopes, and its node stands below the root. -/
theorem outermost (arrival : Arrival lines reading line reached entry)
    (declared : reading.Declared lines) (enclosing : reached.enclosing = []) :
    reached.container = .root ∧ (line.indent : Int) = 0 ∧
      (reading.scopes.leaveTo line.indent).inner = [] := by
  have first : (line.indent : Int) = 0 := by
    simpa [enclosing] using arrival.lineIndent_eq
  refine ⟨?_, first, ?_⟩
  · have nested := arrival.grounded.nested
    rw [Position.around, enclosing] at nested
    exact nested.eq_root
  · rcases declared.layered with ⟨classes, layered, -⟩
    rw [first]
    exact layered.leaveTo_zero

theorem attach_top?_outermost (enclosing : reached.enclosing = []) (events : List Event) :
    ((reading.arrived line reached events).attach entry).position.top? = some (entry, []) := by
  rw [attach_position]
  exact Position.top?_place_outermost enclosing entry

theorem declared_class (arrival : Arrival lines reading line reached entry)
    (declared : reading.Declared lines) (events : List Event)
    (enclosing : reached.enclosing = []) (kind : entry.kind = .classBlock) :
    ((reading.arrived line reached events).attach entry).Declared (lines ++ [line]) := by
  rcases arrival.outermost declared enclosing with ⟨container, first, ended⟩
  have plain : (reached.placement entry).isMember = false := by
    simp [Placement.isMember, container, Entry.root]
  have opens : entry.kind.opensScope = true := by
    rw [kind]
    rfl
  have declares : entry.kind.mayDeclare = true := by
    rw [kind]
    rfl
  rcases attach_of_opensScope (reading.arrived line reached events) opens with
    ⟨scopes, findings⟩
  refine declared.grow_plain arrival.faithful arrival.ascending plain
    (arrival.attach_placements events) arrival.lineNumber ⟨[.ofOwner entry], ?_, ?_⟩ ?_ findings
  · rw [scopes]
    refine ⟨[], by simp [arrived, ended], by simp, ?_⟩
    intro scope member
    rw [List.mem_singleton.mp member]
    exact ⟨entry, rfl, arrival.indent.trans first⟩
  · rw [attach_top?_outermost enclosing]
    exact .running kind arrival.isCutOff_eq_false (.ofOwner entry declares)
  · rw [scopes]
    rfl

theorem declared_header (arrival : Arrival lines reading line reached entry)
    (declared : reading.Declared lines) (events : List Event)
    (enclosing : reached.enclosing = []) (kind : entry.kind = .moduleHeader) :
    ((reading.arrived line reached events).attach entry).Declared (lines ++ [line]) := by
  rcases arrival.outermost declared enclosing with ⟨container, first, ended⟩
  have plain : (reached.placement entry).isMember = false := by
    simp [Placement.isMember, container, Entry.root]
  have closed : entry.kind.opensScope = false := by
    rw [kind]
    rfl
  have silent : entry.declares = false := by
    simp [Entry.declares, kind, Kind.mayDeclare]
  rcases attach_of_not_declares (reading.arrived line reached events) closed silent with
    ⟨scopes, findings⟩
  refine declared.grow_plain arrival.faithful arrival.ascending plain
    (arrival.attach_placements events) arrival.lineNumber ⟨[], ?_, ?_⟩ ?_ findings
  · rw [scopes]
    exact ⟨[], by simp [arrived, ended], by simp, by simp⟩
  · rw [attach_top?_outermost enclosing]
    refine .ended ?_
    intro owner members same contrary
    simp only [Option.some.injEq, Prod.mk.injEq] at same
    rw [← same.1, kind] at contrary
    exact absurd contrary (by decide)
  · rw [scopes]
    rfl

theorem declared_outermost (arrival : Arrival lines reading line reached entry)
    (declared : reading.Declared lines) (events : List Event)
    (enclosing : reached.enclosing = []) :
    ((reading.arrived line reached events).attach entry).Declared (lines ++ [line]) := by
  have admitted := arrival.admitted
  rw [Position.admits, (arrival.outermost declared enclosing).1] at admitted
  cases kind : entry.kind <;>
    simp [Grammar.admits, Grammar.rootAdmits, Entry.root, kind] at admitted
  case classBlock => exact arrival.declared_class declared events enclosing kind
  case moduleHeader => exact arrival.declared_header declared events enclosing kind

/-- What stands in a function or deeper declares nothing. -/
theorem declared_deep (arrival : Arrival lines reading line reached entry)
    (declared : reading.Declared lines) (events : List Event) {inner outer : Block}
    {further : List Block} (enclosing : reached.enclosing = inner :: outer :: further) :
    ((reading.arrived line reached events).attach entry).Declared (lines ++ [line]) := by
  have container : reached.container.kind ≠ .root ∧ reached.container.kind ≠ .classBlock := by
    have nested := arrival.grounded.nested
    rw [Position.around, enclosing] at nested
    exact nested.kind_of_deep
  have inside : 0 < line.indent := by
    have column := arrival.lineIndent_eq
    rw [enclosing] at column
    simp only [List.length_cons, indentUnit] at column
    omega
  have plain : (reached.placement entry).isMember = false := by
    simp [Placement.isMember, container.2]
  rcases Grammar.not_declares_of_admits arrival.admitted container.1 container.2 with
    ⟨closed, silent⟩
  rcases attach_of_not_declares (reading.arrived line reached events) closed
    (by simp [Entry.declares, silent]) with ⟨scopes, findings⟩
  rcases declared.layered with ⟨classes, layered, classScopes⟩
  refine declared.grow_plain arrival.faithful arrival.ascending plain
    (arrival.attach_placements events) arrival.lineNumber ⟨classes, ?_, ?_⟩ ?_ findings
  · rw [scopes]
    exact layered.leaveTo (by exact_mod_cast inside)
  · rw [attach_position]
    have top := Position.top?_place_deep enclosing entry
    rw [arrival.reaches.top?_eq] at top
    rw [show (reading.arrived line reached events).position = reached from rfl, top]
    exact classScopes.extend fun _ => inside
  · rw [scopes]
    rfl

/-- The columns, the scopes and the last block when a node is placed in a class. -/
structure InClass (lines : List Line) (reading : Reading) (line : Line) (reached : Position)
    (entry : Entry) (classes : List Scope) : Prop where
  kind : reached.container.kind = .classBlock
  column : (line.indent : Int) = indentUnit
  inner : (reading.scopes.leaveTo line.indent).inner = classes
  layered : reading.scopes.Layered classes
  scopes : ClassScopes lines
    (some (reached.container, (reached.placement entry).earlier)) classes
  top : (reached.place entry).top? =
    some (reached.container, (reached.placement entry).earlier ++ [entry])

theorem InClass.inside {classes : List Scope}
    (inClass : InClass lines reading line reached entry classes) :
    line.isStructural = true → 0 < line.indent := by
  intro structural
  have column := inClass.column
  simp only [indentUnit] at column
  omega

theorem inClass (arrival : Arrival lines reading line reached entry)
    (declared : reading.Declared lines) {outer : Block} (enclosing : reached.enclosing = [outer]) :
    ∃ classes, InClass lines reading line reached entry classes := by
  rcases declared.layered with ⟨classes, layered, classScopes⟩
  have column : (line.indent : Int) = indentUnit := by
    simpa [enclosing] using arrival.lineIndent_eq
  refine ⟨classes, ?_, column, ?_, layered, ?_, ?_⟩
  · have nested := arrival.grounded.nested
    rw [Position.around, enclosing] at nested
    exact nested.kind_of_single
  · rw [column]
    exact layered.leaveTo_unit
  · rw [← arrival.reaches.top?_eq, Position.top?_of_enclosing enclosing] at classScopes
    exact classScopes
  · exact Position.top?_place_of_enclosing enclosing entry

/-- Only named variables declare something in a class. -/
theorem declared_unnamed (arrival : Arrival lines reading line reached entry)
    (declared : reading.Declared lines) (events : List Event) {classes : List Scope}
    (inClass : InClass lines reading line reached entry classes)
    (plain : (reached.placement entry).isMember = false) :
    ((reading.arrived line reached events).attach entry).Declared (lines ++ [line]) := by
  have inside : (0 : Int) < line.indent := by
    rw [inClass.column]
    decide
  have silent : entry.kind = .field → entry.name = "" := by
    intro field
    simpa [Placement.isMember, inClass.kind, field] using plain
  have scopes : ClassScopes (lines ++ [line])
      ((reading.arrived line reached events).attach entry).position.top? classes := by
    rw [attach_position]
    simp only [arrived, inClass.top]
    exact (inClass.scopes.extend inClass.inside).place silent
  cases opens : entry.kind.opensScope with
  | true =>
      rcases attach_of_opensScope (reading.arrived line reached events) opens with
        ⟨entered, findings⟩
      rcases inClass.layered with ⟨-, -, -, shallow⟩
      refine declared.grow_plain arrival.faithful arrival.ascending plain
        (arrival.attach_placements events) arrival.lineNumber ⟨classes, ?_, scopes⟩ ?_ findings
      · rw [entered]
        refine ⟨[.ofOwner entry], by simp [arrived, inClass.inner], ?_, shallow⟩
        intro scope member
        rw [List.mem_singleton.mp member]
        exact ⟨entry, rfl, (arrival.indent.trans inClass.column).ge⟩
      · rw [entered]
        rfl
  | false =>
      have undeclared : entry.declares = false := by
        cases kind : entry.kind <;>
          simp [Entry.declares, kind, Kind.mayDeclare, Kind.opensScope] at opens ⊢
        exact silent kind
      rcases attach_of_not_declares (reading.arrived line reached events) opens undeclared with
        ⟨same, findings⟩
      refine declared.grow_plain arrival.faithful arrival.ascending plain
        (arrival.attach_placements events) arrival.lineNumber ⟨classes, ?_, scopes⟩ ?_ findings
      · rw [same]
        exact inClass.layered.leaveTo inside
      · rw [same]
        rfl

/-- What is reported about a named variable is what is known of its name. -/
theorem reported_named (arrival : Arrival lines reading line reached entry)
    (isMember : (reached.placement entry).isMember = true) {known : List Entry}
    (comparison : (if reached.container.isCutOff lines then
        strayMembers lines (reading.position.toTree.placements [])
      else (reached.placement entry).rivals) = known) :
    ((((known.find? fun other => other.name = entry.name).map fun first =>
          (⟨entry.lineNumber, .alreadyDefined entry.name first.lineNumber⟩ : Finding)).toList
        ).filterMap Finding.redeclared?).reverse =
      ((reached.placement entry).redeclared? (lines ++ [line])
        (reading.position.toTree.placements [] ++ [reached.placement entry])).toList := by
  have older := arrival.faithful.child_lineNumber_lt arrival.ascending
  have taken : (reached.placement entry).lineOfName? known =
      (known.find? fun other => other.name = entry.name).map Entry.lineNumber := rfl
  rw [Placement.redeclared?, if_pos isMember,
    Placement.takenAt?_last arrival.ascending older arrival.lineNumber,
    Position.placement_parent, comparison, taken]
  cases known.find? fun other => other.name = entry.name <;> rfl

/-- A variable of a class whose scope has ended is declared with the strays. -/
theorem declared_stray (arrival : Arrival lines reading line reached entry)
    (declared : reading.Declared lines) (events : List Event)
    (inClass : InClass lines reading line reached entry [])
    (isMember : (reached.placement entry).isMember = true)
    (cutOff : reached.container.isCutOff lines = true) :
    ((reading.arrived line reached events).attach entry).Declared (lines ++ [line]) := by
  have named : entry.kind.opensScope = false ∧ entry.declares = true :=
    Placement.declares_of_isMember isMember
  have inner : (reading.scopes.leaveTo line.indent).inner = [] := inClass.inner
  have root : (reading.arrived line reached events).scopes.current = reading.scopes.root := by
    simp [Scopes.current, arrived, inner]
  rcases attach_of_declares (reading.arrived line reached events) named.1 named.2
    (root ▸ declared.root) with ⟨scope, changed, -, names, findings⟩
  refine declared.grow arrival.faithful arrival.ascending _ (arrival.attach_placements events)
    arrival.lineNumber ⟨[], ?_, ?_⟩ ?_ findings (arrival.reported_named isMember (if_pos cutOff))
  · rw [changed]
    exact ⟨[], by simp [Scopes.replaceCurrent, arrived, inner], by simp, by simp⟩
  · rw [attach_position]
    exact inClass.top ▸ (ClassScopes.of_isCutOff cutOff _).extend inClass.inside
  · rw [changed, isMember]
    simpa [Scopes.replaceCurrent, arrived, inner, cutOff] using names

/-- A variable of a class whose scope is open is declared in that scope. -/
theorem declared_rival (arrival : Arrival lines reading line reached entry)
    (declared : reading.Declared lines) (events : List Event) {scope : Scope}
    (inClass : InClass lines reading line reached entry [scope])
    (isMember : (reached.placement entry).isMember = true)
    (whole : reached.container.isCutOff lines = false)
    (names : scope.Names (reached.placement entry).rivals) :
    ((reading.arrived line reached events).attach entry).Declared (lines ++ [line]) := by
  have named : entry.kind.opensScope = false ∧ entry.declares = true :=
    Placement.declares_of_isMember isMember
  have field : entry.kind = .field := (Placement.isMember_iff.mp isMember).2.1
  have inner : (reading.scopes.leaveTo line.indent).inner = [scope] := inClass.inner
  have current : (reading.arrived line reached events).scopes.current = scope := by
    simp [Scopes.current, arrived, inner]
  rcases inClass.layered with ⟨-, -, -, shallow⟩
  rcases attach_of_declares (reading.arrived line reached events) named.1 named.2
    (current ▸ names) with ⟨added, changed, owned, names, findings⟩
  refine declared.grow arrival.faithful arrival.ascending _ (arrival.attach_placements events)
    arrival.lineNumber ⟨[added], ?_, ?_⟩ ?_ findings
    (arrival.reported_named isMember (by simp [whole]))
  · rw [changed]
    refine ⟨[], by simp [Scopes.replaceCurrent, arrived, inner], by simp, ?_⟩
    intro other member
    rw [List.mem_singleton.mp member, owned, current]
    exact shallow scope (by simp)
  · have running : ClassScopes lines
        (some (reached.container, (reached.placement entry).earlier ++ [entry])) [added] := by
      apply ClassScopes.running inClass.kind whole
      simpa [field, Placement.rivals] using names
    rw [attach_position]
    exact inClass.top ▸ running.extend inClass.inside
  · rw [changed, isMember]
    simpa [Scopes.replaceCurrent, arrived, inner, whole] using declared.root

theorem declared_attach (arrival : Arrival lines reading line reached entry)
    (declared : reading.Declared lines) (events : List Event) :
    ((reading.arrived line reached events).attach entry).Declared (lines ++ [line]) := by
  match enclosing : reached.enclosing with
  | [] => exact arrival.declared_outermost declared events enclosing
  | [outer] =>
      rcases arrival.inClass declared enclosing with ⟨classes, inClass⟩
      cases isMember : (reached.placement entry).isMember with
      | false => exact arrival.declared_unnamed declared events inClass isMember
      | true =>
          rcases inClass.scopes.ended_or_running inClass.kind with
            ⟨cutOff, rfl⟩ | ⟨scope, whole, rfl, names⟩
          · exact arrival.declared_stray declared events inClass isMember cutOff
          · exact arrival.declared_rival declared events inClass isMember whole names
  | inner :: outer :: further => exact arrival.declared_deep declared events enclosing

end Arrival

/-! ## Runs -/

theorem repeatedNote_names_nothing (reading : Reading) (line : Line) :
    (reading.repeatedNote line).filterMap Finding.redeclared? = [] := by
  unfold repeatedNote
  cases reading.pending.isSome <;> rfl

theorem Transition.declared {earlier : List Line} {line : Line} {reading next : Reading}
    (ascending : Line.Ascending (earlier ++ [line]))
    (faithful : reading.position.Faithful earlier) (traced : reading.Traced earlier)
    (declared : reading.Declared earlier) (transition : Transition reading line next) :
    next.Declared (earlier ++ [line]) := by
  cases transition with
  | silent quiet =>
      refine declared.wait faithful ascending [] ?_ rfl rfl rfl rfl
      intro structural
      simp [(Line.neither_of_silent quiet).1] at structural
  | skipped loud pausing deeper =>
      refine declared.wait faithful ascending [] ?_ rfl rfl rfl rfl
      intro structural
      rw [traced.recovery _ pausing] at deeper
      exact_mod_cast faithful.grounded.column_nonneg.trans_lt deeper
  | noted events body heard =>
      refine declared.wait faithful ascending (reading.repeatedNote line) ?_ rfl rfl rfl
        (repeatedNote_names_nothing reading line)
      intro structural
      simp [Line.isStructural_eq_false_of_isNote (Line.isNote_of_body body)] at structural
  | rejected events body heard obstacle =>
      exact declared.reject faithful ascending events (Line.isStructural_of_body body) obstacle
  | attached events body heard approached recognised admitted =>
      have arrival := Arrival.of_approach faithful ascending body approached recognised admitted
      exact arrival.declared_attach declared events

theorem run_declared (lines : List Line) (ascending : Line.Ascending lines) :
    (Reading.initial.run lines).Declared lines := by
  refine (faithful_induction
    (fun lines reading => reading.Traced lines ∧ reading.Declared lines)
    ⟨traced_initial, declared_initial⟩ ?_ lines ascending).2
  rintro earlier line reading next ascending faithful ⟨traced, declared⟩ transition
  exact ⟨transition.traced ascending faithful traced,
    transition.declared ascending faithful traced declared⟩

end Reading

theorem Finding.redeclared?_eq_some_iff {finding : Finding} {lineNumber first : Int}
    {name : String} :
    finding.redeclared? = some (lineNumber, name, first) ↔
      finding = ⟨lineNumber, .alreadyDefined name first⟩ := by
  rcases finding with ⟨number, problem⟩
  cases problem <;> simp [redeclared?]

theorem Placement.redeclared?_eq_some_iff {lines : List Line} {placements : List Placement}
    {placement : Placement} {lineNumber first : Int} {name : String} :
    placement.redeclared? lines placements = some (lineNumber, name, first) ↔
      placement.isMember = true ∧ placement.child.lineNumber = lineNumber ∧
        placement.child.name = name ∧ placement.takenAt? lines placements = some first := by
  cases isMember : placement.isMember with
  | false => simp [redeclared?, isMember]
  | true =>
      simp only [redeclared?, isMember, if_true, Option.map_eq_some_iff, Prod.mk.injEq, true_and]
      constructor
      · rintro ⟨other, taken, number, same, rfl⟩
        exact ⟨number, same, taken⟩
      · rintro ⟨number, same, taken⟩
        exact ⟨first, taken, number, same, rfl⟩

namespace Outcome

theorem ofSource_redeclared (source : String) :
    (ofSource source).findings.filterMap Finding.redeclared? =
      ((ofSource source).tree.placements []).filterMap
        (Placement.redeclared? (Line.ofSource source) ((ofSource source).tree.placements [])) := by
  have declared := Reading.run_declared _ (Line.ascending_ofSource source)
  rw [ofSource, ofLines_findings, ofLines_tree, List.filterMap_reverse]
  exact declared.reported

theorem alreadyDefined_mem_findings_iff (source : String) (lineNumber : Int) (name : String)
    (first : Int) :
    ⟨lineNumber, .alreadyDefined name first⟩ ∈ (ofSource source).findings ↔
      ∃ placement ∈ (ofSource source).tree.placements [], placement.isMember = true ∧
        placement.child.lineNumber = lineNumber ∧ placement.child.name = name ∧
          placement.takenAt? (Line.ofSource source) ((ofSource source).tree.placements []) =
            some first := by
  have reports :
      ⟨lineNumber, .alreadyDefined name first⟩ ∈ (ofSource source).findings ↔
        (lineNumber, name, first) ∈
          (ofSource source).findings.filterMap Finding.redeclared? := by
    simp [List.mem_filterMap, Finding.redeclared?_eq_some_iff]
  rw [reports, ofSource_redeclared, List.mem_filterMap]
  simp only [Placement.redeclared?_eq_some_iff]

/-- The collisions are reported if all comparisons find what they find within the classes. -/
theorem collisionsAreReported_iff (source : String) :
    (ofSource source).tree.CollisionsAreReported (ofSource source).findings ↔
      ∀ placement ∈ (ofSource source).tree.placements [], placement.isMember = true →
        placement.takenAt? (Line.ofSource source) ((ofSource source).tree.placements []) =
          placement.lineOfName? placement.rivals := by
  have reports := alreadyDefined_mem_findings_iff source
  have faithful := ofSource_faithful source
  constructor
  · intro complete placement member isMember
    have unique : ∀ other ∈ (ofSource source).tree.placements [],
        other.child.lineNumber = placement.child.lineNumber → other = placement := by
      rw [ofSource, ofLines_tree] at member ⊢
      exact fun other known same => faithful.eq_of_lineNumber_eq known member same
    ext first
    constructor
    · intro taken
      rcases (complete _ _ first).mp
        ((reports _ _ first).mpr ⟨placement, member, isMember, rfl, rfl, taken⟩) with
        ⟨other, known, -, same, -, rival⟩
      exact unique other known same ▸ rival
    · intro rival
      rcases (reports _ _ first).mp
        ((complete _ _ first).mpr ⟨placement, member, isMember, rfl, rfl, rival⟩) with
        ⟨other, known, -, same, -, taken⟩
      exact unique other known same ▸ taken
  · intro agree lineNumber name first
    rw [reports]
    constructor
    · rintro ⟨placement, member, isMember, number, named, taken⟩
      exact ⟨placement, member, isMember, number, named, agree placement member isMember ▸ taken⟩
    · rintro ⟨placement, member, isMember, number, named, rival⟩
      exact ⟨placement, member, isMember, number, named,
        (agree placement member isMember).trans rival⟩

/--
A name is reported exactly at the named variables of classes whose comparison
finds it: with the class and its earlier variables, or with the strays before it
if the variable is cut off from its class.  So the findings report the
collisions within classes exactly if, for all variables that are cut off, both
comparisons find the same line.
-/
theorem ofSource_collisions (source : String) :
    (∀ (lineNumber : Int) (name : String) (first : Int),
      ⟨lineNumber, .alreadyDefined name first⟩ ∈ (ofSource source).findings ↔
        ∃ placement ∈ (ofSource source).tree.placements [], placement.isMember = true ∧
          placement.child.lineNumber = lineNumber ∧ placement.child.name = name ∧
            placement.takenAt? (Line.ofSource source) ((ofSource source).tree.placements []) =
              some first) ∧
      ((ofSource source).tree.CollisionsAreReported (ofSource source).findings ↔
        ∀ placement ∈ (ofSource source).tree.placements [], placement.isMember = true →
          placement.isCutOff (Line.ofSource source) = true →
            placement.lineOfName?
                (placement.strays (Line.ofSource source)
                  ((ofSource source).tree.placements [])) =
              placement.lineOfName? placement.rivals) := by
  constructor
  · exact alreadyDefined_mem_findings_iff source
  · rw [collisionsAreReported_iff]
    simp only [Placement.takenAt?_eq_rivals_iff]

/-- A class is cut off by a line that is rejected, and a note enters it again. -/
def reentered : String :=
  "class: A\n    var: x\nbogus: y\n@ note\n    var: x"

/-- The second variable of the class has the name of the first, and is not reported. -/
theorem not_collisionsAreReported_reentered :
    ¬ (ofSource reentered).tree.CollisionsAreReported (ofSource reentered).findings := by
  intro complete
  have found := (complete 5 "x" 2).mpr (by decide +kernel)
  have missed : ⟨5, .alreadyDefined "x" 2⟩ ∉ (ofSource reentered).findings := by
    decide +kernel
  exact missed found

end Outcome

end Outline
