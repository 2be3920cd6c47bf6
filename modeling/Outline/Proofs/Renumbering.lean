import Outline.Proofs.Transition

/-!
# Renumbering lines

The number of a line is only ever copied: into nodes, into findings and into
events.  Nothing is decided by it.  So reading renumbered lines gives what is
read from the lines themselves, renumbered.

The main statement is that a step commutes with renumbering; it is assembled from
one equation for each function that a step uses.
-/

namespace Outline

/-! ## Renumbered data -/

section Data

variable (move : Int → Int)

def Line.renumber (line : Line) : Line :=
  { line with number := move line.number }

def Entry.renumber (entry : Entry) : Entry :=
  { entry with lineNumber := move entry.lineNumber }

mutual

/-- The tree with other line numbers. -/
def Tree.renumber : Tree → Tree
  | ⟨entry, children⟩ => ⟨entry.renumber move, Tree.renumberAll children⟩

def Tree.renumberAll : List Tree → List Tree
  | [] => []
  | tree :: rest => tree.renumber :: Tree.renumberAll rest

end

def Block.renumber (block : Block) : Block where
  entry := block.entry.renumber move
  finished := block.finished.map (Tree.renumber move)

def Position.renumber (position : Position) : Position where
  block := position.block.renumber move
  latest := position.latest.map (Tree.renumber move)
  enclosing := position.enclosing.map (Block.renumber move)

def Scope.renumber (scope : Scope) : Scope where
  name := scope.name
  owner := scope.owner.map (Entry.renumber move)
  declarations := scope.declarations.map (Entry.renumber move)

def Scopes.renumber (scopes : Scopes) : Scopes where
  inner := scopes.inner.map (Scope.renumber move)
  root := scopes.root.renumber move

/-- The problem with another line cited, if it cites one. -/
def Problem.renumber : Problem → Problem
  | .alreadyDefined name firstLine => .alreadyDefined name (move firstLine)
  | problem => problem

def Finding.renumber (finding : Finding) : Finding where
  lineNumber := move finding.lineNumber
  problem := finding.problem.renumber move

def Event.renumber : Event → Event
  | .resumed failedLine resumeLine => .resumed (move failedLine) (move resumeLine)
  | .abandoned failedLine => .abandoned (move failedLine)
  | event => event

def Recovery.renumber (recovery : Recovery) : Recovery where
  failedLine := move recovery.failedLine
  column := recovery.column

def Reading.renumber (reading : Reading) : Reading where
  position := reading.position.renumber move
  scopes := reading.scopes.renumber move
  pending := reading.pending
  findings := reading.findings.map (Finding.renumber move)
  events := reading.events.map (Event.renumber move)
  recovery := reading.recovery.map (Recovery.renumber move)

end Data

variable {move : Int → Int}

/-! ## Nodes and trees -/

namespace Entry

@[simp]
theorem renumber_kind (entry : Entry) : (entry.renumber move).kind = entry.kind :=
  rfl

@[simp]
theorem renumber_name (entry : Entry) : (entry.renumber move).name = entry.name :=
  rfl

@[simp]
theorem renumber_declares (entry : Entry) : (entry.renumber move).declares = entry.declares :=
  rfl

theorem ofContent?_renumber (content : String) (indent lineNumber : Int) (note : Option String) :
    ofContent? content indent (move lineNumber) note =
      (ofContent? content indent lineNumber note).map (Entry.renumber move) := by
  simp only [ofContent?, Option.map_map]
  rfl

end Entry

namespace Tree

theorem renumberAll_eq_map (trees : List Tree) :
    Tree.renumberAll move trees = trees.map (Tree.renumber move) := by
  induction trees with
  | nil => simp [renumberAll]
  | cons tree rest induction => simp [renumberAll, induction]

theorem renumber_mk (entry : Entry) (children : List Tree) :
    Tree.renumber move ⟨entry, children⟩ =
      ⟨entry.renumber move, children.map (Tree.renumber move)⟩ := by
  rw [renumber, renumberAll_eq_map]

@[simp]
theorem renumber_entry (tree : Tree) : (tree.renumber move).entry = tree.entry.renumber move := by
  cases tree
  rw [renumber_mk]

@[simp]
theorem renumber_children (tree : Tree) :
    (tree.renumber move).children = tree.children.map (Tree.renumber move) := by
  cases tree
  rw [renumber_mk]

end Tree

/-! ## Positions -/

@[simp]
theorem Block.renumber_close (block : Block) (latest : Option Tree) :
    (block.renumber move).close (latest.map (Tree.renumber move)) =
      (block.close latest).renumber move := by
  simp only [Block.close, Block.renumber, Tree.renumber_mk, List.map_reverse, List.map_append]
  cases latest <;> rfl

namespace Position

@[simp]
theorem renumber_container (position : Position) :
    (position.renumber move).container = position.container.renumber move :=
  rfl

@[simp]
theorem renumber_column (position : Position) :
    (position.renumber move).column = position.column :=
  rfl

@[simp]
theorem renumber_children (position : Position) :
    (position.renumber move).children = position.children.map (Tree.renumber move) := by
  rcases position with ⟨block, latest, enclosing⟩
  cases latest <;> rfl

@[simp]
theorem renumber_admits (position : Position) (kind : Kind) :
    (position.renumber move).admits kind = position.admits kind := by
  simp [admits, Function.comp_def]

@[simp]
theorem renumber_place (position : Position) (entry : Entry) :
    (position.renumber move).place (entry.renumber move) =
      (position.place entry).renumber move := by
  have children : (position.renumber move).children = _ := position.renumber_children
  simp only [place, children]
  simp [renumber, Block.renumber, Tree.renumber_mk]

@[simp]
theorem renumber_openChild (position : Position) (child : Tree) :
    (position.renumber move).openChild (child.renumber move) =
      (position.openChild child).renumber move := by
  simp [openChild, renumber, Block.renumber]

theorem renumber_leaveBlocks (indent : Int) (block : Block) (latest : Option Tree)
    (enclosing : List Block) :
    leaveBlocks indent (block.renumber move) (latest.map (Tree.renumber move))
        (enclosing.map (Block.renumber move)) =
      (leaveBlocks indent block latest enclosing).renumber move := by
  induction enclosing generalizing block latest with
  | nil => rfl
  | cons parent further induction =>
      simp only [List.map_cons, leaveBlocks, Block.renumber_close]
      by_cases outside : indent < block.entry.bodyIndent
      · rw [if_pos outside]
        exact (if_pos outside).trans (induction parent (some (block.close latest)))
      · rw [if_neg outside]
        exact if_neg outside

@[simp]
theorem renumber_leaveTo (position : Position) (indent : Int) :
    (position.renumber move).leaveTo indent = (position.leaveTo indent).renumber move :=
  renumber_leaveBlocks indent position.block position.latest position.enclosing

@[simp]
theorem renumber_isLeftAt (position : Position) (indent : Int) :
    (position.renumber move).isLeftAt indent = position.isLeftAt indent := by
  rcases position with ⟨block, latest, enclosing⟩
  cases enclosing <;> rfl

theorem renumber_arrive (position : Position) (hasLeft : Bool) (indent : Int) :
    (position.renumber move).arrive hasLeft indent =
      (position.arrive hasLeft indent).map (Position.renumber move) := by
  rcases position with ⟨block, latest, enclosing⟩
  cases latest with
  | none =>
      simp only [arrive, apply_ite (Except.map (Position.renumber move))]
      rfl
  | some child =>
      rcases child with ⟨entry, children⟩
      have opened : (renumber move ⟨block, some ⟨entry, children⟩, enclosing⟩).openChild
          (Tree.renumber move ⟨entry, children⟩) = _ :=
        renumber_openChild _ _
      have mapped : Except.map (Position.renumber move) (.ok (openChild
          ⟨block, some ⟨entry, children⟩, enclosing⟩ ⟨entry, children⟩) : Except Problem Position) =
            .ok _ := congrArg Except.ok opened.symm
      simp only [arrive, apply_ite (Except.map (Position.renumber move)), mapped]
      rfl

theorem renumber_closeAll (inner : Tree) (enclosing : List Block) :
    closeAll (inner.renumber move) (enclosing.map (Block.renumber move)) =
      (closeAll inner enclosing).renumber move := by
  induction enclosing generalizing inner with
  | nil => rfl
  | cons parent further induction =>
      rw [closeAll_cons, ← induction, ← Block.renumber_close]
      rfl

theorem renumber_toTree (position : Position) :
    (position.renumber move).toTree = position.toTree.renumber move := by
  rw [toTree_eq_closeAll, toTree_eq_closeAll, ← renumber_closeAll, ← Block.renumber_close]
  rfl

end Position

/-! ## Scopes -/

namespace Scope

theorem renumber_find? (scope : Scope) (name : String) :
    (scope.renumber move).find? name = (scope.find? name).map (Entry.renumber move) := by
  simp only [find?, renumber, List.find?_map]
  rfl

theorem renumber_endsAt (scope : Scope) (indent : Int) :
    (scope.renumber move).endsAt indent = scope.endsAt indent := by
  rcases scope with ⟨name, owner, declarations⟩
  cases owner <;> rfl

theorem renumber_declare (scope : Scope) (declaration : Entry) :
    (scope.renumber move).declare (declaration.renumber move) =
      ((scope.declare declaration).mapError (Entry.renumber move)).map (Scope.renumber move) := by
  simp only [declare, Entry.renumber_name, renumber_find?]
  cases scope.find? declaration.name with
  | none => simp [Except.mapError, Except.map, renumber]
  | some first => rfl

end Scope

namespace Scopes

@[simp]
theorem renumber_depth (scopes : Scopes) : (scopes.renumber move).depth = scopes.depth := by
  simp [depth, renumber]

@[simp]
theorem renumber_current (scopes : Scopes) :
    (scopes.renumber move).current = scopes.current.renumber move := by
  rcases scopes with ⟨inner, root⟩
  cases inner <;> rfl

@[simp]
theorem renumber_enter (scopes : Scopes) (name : String) (owner : Entry) :
    (scopes.renumber move).enter name (some (owner.renumber move)) =
      (scopes.enter name (some owner)).renumber move :=
  rfl

theorem renumber_replaceCurrent (scopes : Scopes) (scope : Scope) :
    (scopes.renumber move).replaceCurrent (scope.renumber move) =
      (scopes.replaceCurrent scope).renumber move := by
  rcases scopes with ⟨inner, root⟩
  cases inner <;> rfl

@[simp]
theorem renumber_leaveTo (scopes : Scopes) (indent : Int) :
    (scopes.renumber move).leaveTo indent = (scopes.leaveTo indent).renumber move := by
  simp [leaveTo, renumber, List.dropWhile_map, Function.comp_def, Scope.renumber_endsAt]

@[simp]
theorem renumber_endedAt (scopes : Scopes) (indent : Int) :
    (scopes.renumber move).endedAt indent =
      (scopes.endedAt indent).map (Scope.renumber move) := by
  simp [endedAt, renumber, List.takeWhile_map, Function.comp_def, Scope.renumber_endsAt]

theorem renumber_declare (scopes : Scopes) (declaration : Entry) :
    (scopes.renumber move).declare (declaration.renumber move) =
      ((scopes.declare declaration).mapError (Entry.renumber move)).map
        (Scopes.renumber move) := by
  simp only [declare, renumber_current, Scope.renumber_declare]
  cases scopes.current.declare declaration with
  | error first => rfl
  | ok scope => exact congrArg Except.ok (scopes.renumber_replaceCurrent scope)

end Scopes

/-! ## Readings -/

namespace Reading

theorem closings_renumber (depth : Nat) (scopes : List Scope) :
    closings depth (scopes.map (Scope.renumber move)) =
      (closings depth scopes).map (Event.renumber move) := by
  induction scopes generalizing depth with
  | nil => rfl
  | cons scope rest induction =>
      rw [List.map_cons, closings, closings, induction]
      rfl

@[simp]
theorem renumber_leaveTo (reading : Reading) (indent : Int) :
    (reading.renumber move).leaveTo indent = (reading.leaveTo indent).renumber move := by
  simp [leaveTo, renumber, closings_renumber]

/-- No problem of placing a line cites another line. -/
theorem renumber_reject (reading : Reading) (line : Line) {problem : Problem}
    (silent : problem.renumber move = problem) (column : Int) :
    (reading.renumber move).reject (line.renumber move) problem column =
      (reading.reject line problem column).renumber move := by
  simp [reject, report, renumber, Finding.renumber, silent, Recovery.renumber, Line.renumber]

theorem renumber_annotate (reading : Reading) (line : Line) (text : String) :
    (reading.renumber move).annotate (line.renumber move) text =
      (reading.annotate line text).renumber move := by
  unfold annotate
  have pending : (reading.renumber move).pending = reading.pending := rfl
  rw [pending]
  cases reading.pending.isSome <;> rfl

theorem renumber_openScope (reading : Reading) (entry : Entry) :
    (reading.renumber move).openScope (entry.renumber move) =
      (reading.openScope entry).renumber move := by
  unfold openScope
  rw [Entry.renumber_kind]
  cases entry.kind.opensScope with
  | false => rfl
  | true => simp [renumber, record, Event.renumber]

theorem renumber_declare (reading : Reading) (entry : Entry) :
    (reading.renumber move).declare (entry.renumber move) =
      (reading.declare entry).renumber move := by
  unfold declare
  have scopes : (reading.renumber move).scopes = reading.scopes.renumber move := rfl
  rw [Entry.renumber_declares, scopes, Scopes.renumber_declare]
  cases entry.declares with
  | false => rfl
  | true => cases reading.scopes.declare entry <;> rfl

theorem renumber_attach (reading : Reading) (entry : Entry) :
    (reading.renumber move).attach (entry.renumber move) =
      (reading.attach entry).renumber move := by
  have placed : (reading.position.renumber move).place (entry.renumber move) = _ :=
    reading.position.renumber_place entry
  simp only [attach]
  rw [← renumber_declare, ← renumber_openScope]
  simp [renumber, placed]

theorem renumber_fill (reading : Reading) (line : Line) (text : String) (column : Int) :
    (reading.renumber move).fill (line.renumber move) text column =
      (reading.fill line text column).renumber move := by
  have recognised : Entry.ofContent? text (line.renumber move).indent (line.renumber move).number
      (reading.renumber move).pending = _ :=
    Entry.ofContent?_renumber text line.indent line.number reading.pending
  have admits (kind : Kind) : (reading.renumber move).position.admits kind =
      reading.position.admits kind :=
    reading.position.renumber_admits kind
  unfold fill
  rw [recognised]
  cases Entry.ofContent? text line.indent line.number reading.pending with
  | none => exact renumber_reject reading line rfl _
  | some entry =>
      simp only [Option.map_some, admits, Entry.renumber_kind]
      cases admitted : reading.position.admits entry.kind with
      | true =>
          simp only [if_true]
          exact renumber_attach reading entry
      | false =>
          simp only [Bool.false_eq_true, if_false]
          exact renumber_reject reading line rfl _

theorem renumber_arrive_error {position : Position} {hasLeft : Bool} {indent : Int}
    {problem : Problem} (refused : position.arrive hasLeft indent = .error problem) :
    problem.renumber move = problem := by
  unfold Position.arrive at refused
  repeat' split at refused
  all_goals cases refused
  all_goals rfl

theorem renumber_build (reading : Reading) (line : Line) (text : String) :
    (reading.renumber move).build (line.renumber move) text =
      (reading.build line text).renumber move := by
  have left : (reading.renumber move).leaveTo (line.renumber move).indent =
      (reading.leaveTo line.indent).renumber move :=
    renumber_leaveTo reading line.indent
  have hasLeft : (reading.renumber move).position.isLeftAt (line.renumber move).indent =
      reading.position.isLeftAt line.indent :=
    reading.position.renumber_isLeftAt line.indent
  have arrives : ((reading.renumber move).leaveTo (line.renumber move).indent).position.arrive
        ((reading.renumber move).position.isLeftAt (line.renumber move).indent)
        (line.renumber move).indent =
      ((reading.leaveTo line.indent).position.arrive (reading.position.isLeftAt line.indent)
        line.indent).map (Position.renumber move) := by
    rw [left, hasLeft]
    exact (reading.leaveTo line.indent).position.renumber_arrive
      (reading.position.isLeftAt line.indent) line.indent
  cases arrived : (reading.leaveTo line.indent).position.arrive
      (reading.position.isLeftAt line.indent) line.indent with
  | error problem =>
      rw [arrived] at arrives
      have column : ((reading.leaveTo line.indent).renumber move).position.column =
          (reading.leaveTo line.indent).position.column :=
        Position.renumber_column _
      rw [build_of_refused arrives, build_of_refused arrived, left, column]
      exact renumber_reject (reading.leaveTo line.indent) line (renumber_arrive_error arrived) _
  | ok position =>
      rw [arrived] at arrives
      rw [build_of_arrived arrives, build_of_arrived arrived, left, Position.renumber_column]
      exact renumber_fill { reading.leaveTo line.indent with position } line text _

theorem renumber_accept (reading : Reading) (line : Line) :
    (reading.renumber move).accept (line.renumber move) =
      (reading.accept line).renumber move := by
  unfold accept
  have body : (line.renumber move).body = line.body := rfl
  rw [body]
  cases line.body with
  | blank => rfl
  | comment text => rfl
  | note text => exact renumber_annotate reading line text
  | structural text => exact renumber_build reading line text

/-- Reading a renumbered line gives the renumbered reading. -/
theorem renumber_step (reading : Reading) (line : Line) :
    (reading.renumber move).step (line.renumber move) = (reading.step line).renumber move := by
  have paused : (reading.renumber move).recovery = reading.recovery.map (Recovery.renumber move) :=
    rfl
  unfold step
  rw [paused]
  show (if line.body.isSilent = true then _ else _) = _
  cases line.body.isSilent with
  | true => rfl
  | false =>
      cases reading.recovery with
      | none => exact renumber_accept reading line
      | some recovery =>
          show (if (line.indent : Int) ≤ recovery.column then _ else _) =
            Reading.renumber move (if (line.indent : Int) ≤ recovery.column then _ else _)
          rw [apply_ite (Reading.renumber move), ← renumber_accept]
          rfl

theorem renumber_run (reading : Reading) (lines : List Line) :
    (reading.renumber move).run (lines.map (Line.renumber move)) =
      (reading.run lines).renumber move := by
  induction lines generalizing reading with
  | nil => rfl
  | cons line rest induction =>
      rw [List.map_cons, run_cons, run_cons, renumber_step, induction]

theorem renumber_abandon (reading : Reading) :
    (reading.renumber move).abandon = reading.abandon.renumber move := by
  rcases reading with ⟨position, scopes, pending, findings, events, recovery⟩
  cases recovery <;> rfl

theorem renumber_finish (reading : Reading) :
    (reading.renumber move).finish = reading.finish.renumber move := by
  have inner (scopes : Scopes) :
      (scopes.renumber move).inner = scopes.inner.map (Scope.renumber move) := rfl
  have left (scopes : Scopes) :
      (scopes.renumber move).leaveAll = scopes.leaveAll.renumber move := rfl
  simp only [finish, renumber_abandon]
  generalize reading.abandon = ended
  simp [renumber, inner, left, closings_renumber]

theorem renumber_initial (fixed : move 0 = 0) : initial.renumber move = initial := by
  have root : Entry.root.renumber move = .root := by
    simp [Entry.renumber, Entry.root, fixed]
  simp [renumber, initial, Position.initial, Position.renumber, Block.renumber, Scopes.renumber,
    Scopes.initial, Scope.renumber, Scope.outermost, root]

theorem run_renumber (fixed : move 0 = 0) (lines : List Line) :
    initial.run (lines.map (Line.renumber move)) = (initial.run lines).renumber move := by
  rw [← renumber_run, renumber_initial fixed]

end Reading

/-! ## Lines in other places -/

/-- The number of a line when `count` lines are put in after the line `start`. -/
def Line.shift (start count : Nat) (number : Int) : Int :=
  if start < number then number + count else number

namespace Line

theorem shift_zero (start count : Nat) : shift start count 0 = 0 := by
  simp [shift, (Int.natCast_nonneg start).not_gt]

theorem shift_of_le {start : Nat} {number : Int} (before : number ≤ start) (count : Nat) :
    shift start count number = number := by
  simp [shift, before.not_gt]

theorem shift_shift (start count : Nat) (number : Int) :
    shift 0 start (shift 0 count number) = shift start count (shift 0 start number) := by
  unfold shift
  split_ifs <;> omega

theorem ofRaw_renumber (raw : String) (number : Int) {move : Int → Int} :
    ofRaw raw (move number) = (ofRaw raw number).renumber move :=
  rfl

/-- Lines after the first ones are numbered on from these. -/
theorem ofRaws_append (first second : List String) :
    ofRaws (first ++ second) =
      ofRaws first ++ (ofRaws second).map (renumber (shift 0 first.length)) := by
  simp only [ofRaws, List.zipIdx_append, List.map_append, List.map_map]
  congr 1
  rw [List.zipIdx_eq_map_add (i := 1 + first.length), List.zipIdx_eq_map_add (i := 1),
    List.map_map, List.map_map]
  apply List.map_congr_left
  rintro ⟨raw, index⟩ -
  have number : shift 0 first.length ((1 + index : Nat) : Int) =
      ((1 + first.length + index : Nat) : Int) := by
    unfold shift
    split_ifs <;> omega
  simp only [Function.comp_def, ← ofRaw_renumber, number]

theorem ofRaws_cons_shift (raw : String) (rest : List String) (start : Nat) :
    (ofRaws (raw :: rest)).map (renumber (shift 0 start)) =
      ofRaw raw (start + 1) ::
        ((ofRaws rest).map (renumber (shift 0 1))).map (renumber (shift 0 start)) := by
  have first : (ofRaw raw 1).renumber (shift 0 start) = ofRaw raw (start + 1) := by
    rw [← ofRaw_renumber, shift, if_pos (by decide), add_comm]
  rw [show raw :: rest = [raw] ++ rest from rfl, ofRaws_append, List.map_append, ← first]
  rfl

/-- One line of a document with the lines before it and the lines after it. -/
theorem ofRaws_split (before : List String) (raw : String) (after : List String) :
    ofRaws (before ++ raw :: after) =
      ofRaws before ++ ofRaw raw (before.length + 1) ::
        (ofRaws after).map (renumber (shift 0 (before.length + 1))) := by
  rw [List.append_cons, ofRaws_append, ofRaws_append, ofRaws_cons_shift, List.append_assoc,
    List.length_append]
  rfl

/-- Lines that are put in move on the lines after them. -/
theorem ofRaws_insert (before block after : List String) :
    ofRaws (before ++ (block ++ after)) =
      ofRaws before ++ ((ofRaws block).map (renumber (shift 0 before.length)) ++
        ((ofRaws after).map (renumber (shift 0 before.length))).map
          (renumber (shift before.length block.length))) := by
  have moves : renumber (shift 0 before.length) ∘ renumber (shift 0 block.length) =
      renumber (shift before.length block.length) ∘ renumber (shift 0 before.length) := by
    funext line
    simp only [Function.comp_def, renumber, shift_shift]
  rw [ofRaws_append, ofRaws_append, List.map_append, List.map_map, List.map_map, moves]

/-- The line without its place in a document. -/
def unnumbered (line : Line) : Line :=
  line.renumber fun _ => 0

theorem map_unnumbered_ofRaws (raws : List String) :
    (ofRaws raws).map unnumbered = raws.map (ofRaw · 0) := by
  conv_rhs => rw [← List.zipIdx_map_fst 1 raws, List.map_map]
  rw [ofRaws, List.map_map]
  rfl

theorem number_of_mem_ofRaws {raws : List String} {line : Line} (member : line ∈ ofRaws raws) :
    0 < line.number ∧ line.number ≤ raws.length := by
  have number := List.mem_map_of_mem (f := Line.number) member
  rw [map_number_ofRaws] at number
  simp only [List.mem_map, List.mem_range'_1] at number
  rcases number with ⟨index, bounds, same⟩
  omega

theorem map_renumber_eq_self {lines : List Line}
    (fixed : ∀ line ∈ lines, move line.number = line.number) :
    lines.map (renumber move) = lines := by
  conv_rhs => rw [← List.map_id lines]
  apply List.map_congr_left
  intro line member
  rw [renumber, fixed line member]
  rfl

theorem map_shift_ofRaws (raws : List String) (count : Nat) :
    (ofRaws raws).map (renumber (shift raws.length count)) = ofRaws raws :=
  map_renumber_eq_self fun _ member => shift_of_le (number_of_mem_ofRaws member).2 count

end Line

/-- The tree without the numbers of its lines. -/
def Tree.unnumbered (tree : Tree) : Tree :=
  tree.renumber fun _ => 0

namespace Outcome

/-- The outcome with other line numbers. -/
def renumber (move : Int → Int) (outcome : Outcome) : Outcome where
  tree := outcome.tree.renumber move
  findings := outcome.findings.map (Finding.renumber move)
  scopes := outcome.scopes.renumber move
  events := outcome.events.map (Event.renumber move)

theorem ofReading_renumber (reading : Reading) :
    ofReading (reading.renumber move) = (ofReading reading).renumber move := by
  simp [ofReading, renumber, Reading.renumber, Position.renumber_toTree]

/-- Renumbered lines have the outcome of the lines themselves, renumbered. -/
theorem ofLines_renumber (fixed : move 0 = 0) (lines : List Line) :
    ofLines (lines.map (Line.renumber move)) = (ofLines lines).renumber move := by
  rw [ofLines, ofLines, Reading.run_renumber fixed, Reading.renumber_finish, ofReading_renumber]

@[simp]
theorem renumber_isClean (outcome : Outcome) :
    (outcome.renumber move).isClean = outcome.isClean := by
  simp [isClean, renumber]

/-- The outcome of reading raw lines. -/
def ofRaws (raws : List String) : Outcome :=
  ofLines (Line.ofRaws raws)

end Outcome

end Outline
