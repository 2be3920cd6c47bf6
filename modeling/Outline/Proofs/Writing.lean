import Outline.Proofs.Encoding
import Outline.Proofs.LineEnds

/-!
# What has been written is read back

A file is written at a path that may have parent steps.  The way that is made to
it has none, and all that was a directory before is one afterwards, so the path
leads to the file.
-/

namespace Outline

open Outline.Text

namespace FileTree

/-! ## Ways without parent steps -/

/-- What is at the end of some names that are no parent steps. -/
def below? (tree : FileTree) : List String → Option FileTree
  | [] => some tree
  | name :: rest => (child? tree.entries name).bind fun next => next.below? rest

/-- There is a directory at the end of some names. -/
def IsDirectoryAt (tree : FileTree) (way : List String) : Prop :=
  ∃ entries, tree.below? way = some (.directory entries)

/-- No name is a parent step or too long. -/
def IsStraight (limit : Nat) (way : List String) : Prop :=
  ∀ name ∈ way, name ≠ parentStep ∧ name.utf8ByteSize ≤ limit

variable {limit : Nat}

theorem IsStraight.append {way : List String} {name : String} (straight : IsStraight limit way)
    (other : name ≠ parentStep) (short : name.utf8ByteSize ≤ limit) :
    IsStraight limit (way ++ [name]) := by
  intro inside member
  rcases List.mem_append.mp member with known | last
  · exact straight inside known
  · exact List.mem_singleton.mp last ▸ ⟨other, short⟩

theorem IsStraight.of_append {way further : List String}
    (straight : IsStraight limit (way ++ further)) :
    IsStraight limit way :=
  fun name member => straight name (List.mem_append_left _ member)

theorem follow_name {name : String} (other : name ≠ parentStep)
    (short : name.utf8ByteSize ≤ limit) (above : List FileTree)
    (entries : List (String × FileTree)) (rest : List String) :
    follow limit above (.directory entries) (name :: rest) =
      match child? entries name with
      | none => .error .notFound
      | some next => follow limit (.directory entries :: above) next rest :=
  (if_neg other).trans (if_neg (Nat.not_lt.mpr short))

theorem follow_long {name : String} (other : name ≠ parentStep)
    (long : limit < name.utf8ByteSize) (above : List FileTree)
    (entries : List (String × FileTree)) (rest : List String) :
    follow limit above (.directory entries) (name :: rest) = .error .nameTooLong :=
  (if_neg other).trans (if_pos long)

theorem follow_parentStep (parent : FileTree) (above : List FileTree)
    (entries : List (String × FileTree)) (rest : List String) :
    follow limit (parent :: above) (.directory entries) (parentStep :: rest) =
      follow limit above parent rest := by
  simp [follow]

/-- At the top a parent step stays where it is. -/
theorem follow_parentStep_top (entries : List (String × FileTree)) (rest : List String) :
    follow limit [] (.directory entries) (parentStep :: rest) =
      follow limit [] (.directory entries) rest := by
  simp [follow]

/-- Names are followed to their end, wherever they begin. -/
theorem follow_eq_ok_iff {way : List String} (straight : IsStraight limit way)
    (above : List FileTree) (tree found : FileTree) :
    follow limit above tree way = .ok found ↔ tree.below? way = some found := by
  induction way generalizing above tree with
  | nil => simp [follow, below?]
  | cons name rest induction =>
      rcases List.forall_mem_cons.mp straight with ⟨⟨other, short⟩, further⟩
      cases tree with
      | file bytes => simp [follow, below?, entries, child?]
      | directory entries =>
          rw [follow_name other short, below?, FileTree.entries]
          cases child? entries name with
          | none => simp
          | some next => simpa using induction further _ next

/-- What is followed to its end holds no name that is too long. -/
theorem isStraight_of_follow {way : List String} (free : parentStep ∉ way)
    {above : List FileTree} {tree found : FileTree}
    (reached : follow limit above tree way = .ok found) :
    IsStraight limit way := by
  induction way generalizing above tree with
  | nil => exact fun _ member => nomatch member
  | cons name rest induction =>
      rw [List.mem_cons, not_or] at free
      cases tree with
      | file bytes => cases reached
      | directory entries =>
          have other := Ne.symm free.1
          rcases Nat.lt_or_ge limit name.utf8ByteSize with long | short
          · rw [follow_long other long] at reached
            cases reached
          · rw [follow_name other short] at reached
            cases next : child? entries name with
            | none => simp [next] at reached
            | some tree =>
                rw [next] at reached
                exact List.forall_mem_cons.mpr ⟨⟨other, short⟩, induction free.2 reached⟩

/-- A step into a directory and back leads nowhere. -/
theorem follow_step_back {way : List String} {name : String}
    (straight : IsStraight limit (way ++ [name])) {tree : FileTree}
    (directory : tree.IsDirectoryAt (way ++ [name])) (above : List FileTree)
    (rest : List String) :
    follow limit above tree (way ++ name :: parentStep :: rest) =
      follow limit above tree (way ++ rest) := by
  rcases directory with ⟨inner, found⟩
  induction way generalizing above tree with
  | nil =>
      rcases straight name (by simp) with ⟨other, short⟩
      cases tree with
      | file bytes => simp [below?, entries, child?] at found
      | directory entries =>
          simp only [List.nil_append, below?, FileTree.entries, Option.bind_eq_some_iff,
            Option.some.injEq, exists_eq_right] at found
          rw [List.nil_append, follow_name other short, found]
          exact follow_parentStep _ _ _ _
  | cons first way induction =>
      rcases List.forall_mem_cons.mp straight with ⟨⟨other, short⟩, further⟩
      cases tree with
      | file bytes => simp [below?, entries, child?] at found
      | directory entries =>
          rw [List.cons_append, below?, FileTree.entries, Option.bind_eq_some_iff] at found
          rcases found with ⟨next, child, beyond⟩
          rw [List.cons_append, List.cons_append, follow_name other short,
            follow_name other short, child]
          exact induction further _ beyond

/-! ## Putting something into a tree -/

theorem child?_cons (entry : String × FileTree) (rest : List (String × FileTree)) (name : String) :
    child? (entry :: rest) name = if entry.1 = name then some entry.2 else child? rest name := by
  rw [child?, List.find?_cons]
  by_cases same : entry.1 = name <;> simp [same, child?]

theorem child?_setChild (name other : String) (tree : FileTree)
    (entries : List (String × FileTree)) :
    child? (setChild name tree entries) other =
      if name = other then some tree else child? entries other := by
  induction entries with
  | nil => simp [setChild, child?_cons]
  | cons entry rest induction =>
      rw [setChild]
      split_ifs with here same same
      · simp [child?_cons, same]
      · simp [child?_cons, same, here]
      · subst same
        simp [child?_cons, induction, here]
      · simp [child?_cons, induction, same]

theorem below?_put_self (content tree : FileTree) (way : List String) :
    (put content tree way).below? way = some content := by
  induction way generalizing tree with
  | nil => simp [put, below?]
  | cons name rest induction => simp [put, below?, entries, child?_setChild, induction]

/-- A directory stays one when something is put elsewhere, or below it. -/
theorem IsDirectoryAt.put {content tree : FileTree} {way other : List String}
    (directory : tree.IsDirectoryAt other) (apart : ¬ way <+: other) :
    (FileTree.put content tree way).IsDirectoryAt other := by
  rcases directory with ⟨inner, found⟩
  induction way generalizing tree other with
  | nil => exact absurd (List.nil_prefix) apart
  | cons name rest induction =>
      cases other with
      | nil => exact ⟨_, rfl⟩
      | cons first further =>
          rw [below?, Option.bind_eq_some_iff] at found
          rcases found with ⟨next, child, beyond⟩
          rw [IsDirectoryAt, FileTree.put, below?, entries, child?_setChild]
          split_ifs with same
          · have inside := induction
              (fun inner => apart (List.cons_prefix_cons.mpr ⟨same, inner⟩)) beyond
            simpa [IsDirectoryAt, same, child] using inside
          · exact ⟨inner, by rw [child, Option.bind_some, beyond]⟩

/-! ## The way to a file -/

theorem below?_append (tree : FileTree) (first second : List String) :
    tree.below? (first ++ second) = (tree.below? first).bind fun next => next.below? second := by
  induction first generalizing tree with
  | nil => rfl
  | cons name first induction =>
      rw [List.cons_append, below?, below?, Option.bind_assoc]
      exact Option.bind_congr fun next _ => induction next

theorem IsDirectoryAt.of_append {tree : FileTree} {way further : List String}
    (directory : tree.IsDirectoryAt (way ++ further)) :
    tree.IsDirectoryAt way := by
  rcases directory with ⟨inner, found⟩
  rw [below?_append, Option.bind_eq_some_iff] at found
  rcases found with ⟨next, reached, beyond⟩
  cases next with
  | directory entries => exact ⟨entries, reached⟩
  | file bytes => cases further <;> simp [below?, entries, child?] at beyond

/-- All directories of a tree are directories of another one. -/
def KeepsDirectories (tree later : FileTree) : Prop :=
  ∀ way, tree.IsDirectoryAt way → later.IsDirectoryAt way

theorem keepsDirectories_put (content : FileTree) {tree : FileTree} {way : List String}
    (free : ¬ tree.IsDirectoryAt way) :
    tree.KeepsDirectories (put content tree way) := by
  intro other directory
  refine directory.put fun before => free ?_
  rcases before with ⟨further, rfl⟩
  exact directory.of_append

/-- What has been made leads where the names lead, also in a later tree. -/
structure IsMadeWay (limit : Nat) (tree : FileTree) (way rest : List String) (made : FileTree)
    (final : List String) : Prop where
  straight : IsStraight limit final
  keeps : tree.KeepsDirectories made
  leads : ∀ later, made.KeepsDirectories later → ∀ further,
    follow limit [] later (way ++ (rest ++ further)) = follow limit [] later (final ++ further)

namespace IsMadeWay

variable {tree before made : FileTree} {way rest final : List String} {name : String}

/-- A parent step at the top changes nothing. -/
theorem top (same : IsMadeWay limit tree [] rest made final) (directory : tree.IsDirectoryAt []) :
    IsMadeWay limit tree [] (parentStep :: rest) made final where
  straight := same.straight
  keeps := same.keeps
  leads := by
    intro later keeps further
    rcases keeps _ (same.keeps _ directory) with ⟨entries, top⟩
    obtain rfl := Option.some.inj top
    rw [← same.leads _ keeps]
    exact follow_parentStep_top _ _

/-- A parent step takes back the name before it. -/
theorem back (shorter : IsMadeWay limit tree way rest made final)
    (straight : IsStraight limit (way ++ [name])) (directory : tree.IsDirectoryAt (way ++ [name])) :
    IsMadeWay limit tree (way ++ [name]) (parentStep :: rest) made final where
  straight := shorter.straight
  keeps := shorter.keeps
  leads := by
    intro later keeps further
    have still := keeps _ (shorter.keeps _ directory)
    have back := follow_step_back straight still [] (rest ++ further)
    rw [← shorter.leads later keeps, ← back]
    simp

/-- A name is one more name on the way, in the tree where it leads to a directory. -/
theorem onward (longer : IsMadeWay limit before (way ++ [name]) rest made final)
    (kept : tree.KeepsDirectories before) :
    IsMadeWay limit tree way (name :: rest) made final where
  straight := longer.straight
  keeps := fun other directory => longer.keeps _ (kept other directory)
  leads := by
    intro later keeps further
    rw [← longer.leads later keeps]
    simp

end IsMadeWay

theorem isMadeWay_of_makeWay {tree made : FileTree} {way rest final : List String}
    (straight : IsStraight limit way) (directory : tree.IsDirectoryAt way)
    (success : makeWay limit tree way rest = some (made, final)) :
    IsMadeWay limit tree way rest made final := by
  induction rest generalizing tree way with
  | nil =>
      cases success
      exact ⟨straight, fun _ directory => directory, fun _ _ _ => rfl⟩
  | cons name rest induction =>
      rw [makeWay] at success
      split_ifs at success with parent long
      · subst parent
        rcases List.eq_nil_or_concat way with rfl | ⟨before, last, rfl⟩
        · exact (induction straight directory success).top directory
        · rw [List.concat_eq_append] at *
          rw [List.dropLast_concat] at success
          exact (induction straight.of_append directory.of_append success).back straight directory
      · have longer : IsStraight limit (way ++ [name]) :=
          straight.append parent (Nat.not_lt.mp long)
        split at success
        · cases success
        · rename_i entries found
          have inside := (follow_eq_ok_iff longer _ _ _).mp found
          exact (induction longer ⟨entries, inside⟩ success).onward fun _ directory => directory
        · rename_i failure missing
          refine (induction longer ⟨[], below?_put_self _ _ _⟩ success).onward
            (keepsDirectories_put _ ?_)
          rintro ⟨entries, found⟩
          rw [(follow_eq_ok_iff longer _ _ _).mpr found] at missing
          cases missing

end FileTree

/-! ## Files that are written -/

namespace FileSystem

open FileTree

/-- The start of a path has no parent steps. -/
theorem parentStep_not_mem_start (files : FileSystem) (path : Path) :
    parentStep ∉ files.start path := by
  rw [start]
  split_ifs
  · exact files.home_straight
  · exact List.not_mem_nil

/-- The directory that is made for a path is where the path leads. -/
theorem isMadeWay_of_makeDirectory {files : FileSystem} {path : Path} {made : FileTree}
    {way : List String} (success : files.makeDirectory path = some (made, way)) :
    IsMadeWay files.nameLimit files.root (files.start path) path.parts made way := by
  rw [makeDirectory] at success
  split_ifs at success
  split at success
  · rename_i entries found
    have straight := isStraight_of_follow (files.parentStep_not_mem_start path) found
    exact isMadeWay_of_makeWay straight
      ⟨entries, (follow_eq_ok_iff straight _ _ _).mp found⟩ success
  · cases success

/-- What has to hold for a file to be written. -/
structure Writes (files : FileSystem) (path : Path) (name : String) (made : FileTree)
    (way : List String) : Prop where
  parts : path.parent.parts ++ [name] = path.parts
  plain : path.parts.any Path.hasNull = false
  built : files.makeDirectory path.parent = some (made, way)
  short : files.isTooLong path = false
  admitted : files.admitsName name = true
  free : ∀ entries,
    FileTree.follow files.nameLimit [] made (way ++ [name]) ≠ .ok (.directory entries)

/-- A file that is written is put at the end of the way that has been made. -/
theorem exists_writes {files written : FileSystem} {path : Path} {bytes : List UInt8}
    (success : files.write path bytes = .ok written) :
    ∃ name made way, files.Writes path name made way ∧
      written = { files with root := put (.file bytes) made (way ++ [name]) } := by
  rw [write] at success
  split at success
  · cases success
  rename_i name last
  split at success
  · cases success
  rename_i plainAbove
  split at success
  · cases success
  rename_i made way built
  split at success
  · cases success
  rename_i plain
  split at success
  · cases success
  rename_i fits
  split at success
  · cases success
  rename_i free
  cases success
  have parts : path.parent.parts ++ [name] = path.parts :=
    List.dropLast_append_getLast? name last
  simp only [Bool.or_eq_true, Bool.not_eq_true', not_or, Bool.not_eq_true,
    Bool.not_eq_false] at fits
  refine ⟨name, made, way, ⟨parts, ?_, built, fits.1, fits.2, free⟩, rfl⟩
  rw [← parts, List.any_append, Bool.eq_false_iff.mpr plainAbove]
  simpa using plain

/-- A file that has been written is found at its path. -/
theorem at?_of_write {files written : FileSystem} {path : Path} {bytes : List UInt8}
    (success : files.write path bytes = .ok written) :
    written.at? path = .ok (.file bytes) := by
  rcases exists_writes success with ⟨name, made, way, writes, rfl⟩
  have leads := isMadeWay_of_makeDirectory writes.built
  have admitted := writes.admitted
  simp only [admitsName, Bool.and_eq_true, bne_iff_ne, decide_eq_true_eq] at admitted
  have straight := leads.straight.append admitted.1 admitted.2
  have free : ¬ made.IsDirectoryAt (way ++ [name]) := fun ⟨entries, found⟩ =>
    writes.free entries ((follow_eq_ok_iff straight _ _ _).mpr found)
  have reached := leads.leads _ (keepsDirectories_put (.file bytes) free) [name]
  rw [writes.parts] at reached
  have short : isTooLong { files with root := put (.file bytes) made (way ++ [name]) } path =
      false :=
    writes.short
  rw [at?, writes.plain, short]
  exact reached.trans ((follow_eq_ok_iff straight _ _ _).mpr (below?_put_self _ _ _))

/-- Whether a file can be written does not depend on what is written. -/
theorem write_eq_error_iff (files : FileSystem) (path : Path) (first second : List UInt8)
    (failure : WriteFailure) :
    files.write path first = .error failure ↔ files.write path second = .error failure := by
  rw [write, write]
  split
  · rfl
  split
  · rfl
  split
  · rfl
  split
  · rfl
  split
  · rfl
  split <;> simp

/-- A text without carriage returns is read back as it has been written. -/
theorem readText_of_write {files written : FileSystem} {path : Path} {text : String}
    (free : '\r' ∉ text.toList) (success : files.write path text.toUTF8.toList = .ok written) :
    written.readText path = .ok text := by
  rw [readText_of_encoded (at?_of_write success), unifyLineEnds_eq_unifyPairs,
    unifyPairs_of_return_not_mem free, String.ofList_toList]

end FileSystem

end Outline
