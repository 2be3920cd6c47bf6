import Mathlib.Data.List.Sort
import Mathlib.Data.String.Basic
import Outline.Proofs.FileListing
import Outline.Proofs.Searching

/-!
# Which documents are found

A search takes files as they are and looks for documents below directories.  The
main statement compares it with a listing that is described by its members and
its order alone, and tells which path is reported when nothing is found.  A path
that is too long is not reported as one at which nothing is.
-/

namespace Outline

open Outline.Ignore
open Outline.Text

/-! ## Order -/

theorem insertOrdered_eq (names : List String) (sequences : List (List String)) :
    insertOrdered names sequences = sequences.orderedInsert (· ≤ ·) names := by
  induction sequences with
  | nil => rfl
  | cons first rest induction =>
      rw [insertOrdered, List.orderedInsert_cons, induction]
      by_cases smaller : first < names
      · rw [if_pos smaller, if_neg smaller.not_ge]
      · rw [if_neg smaller, if_pos (not_lt.mp smaller)]

theorem inOrder_eq_insertionSort (sequences : List (List String)) :
    inOrder sequences = sequences.insertionSort (· ≤ ·) := by
  induction sequences with
  | nil => rfl
  | cons names rest induction =>
      rw [List.insertionSort_cons, ← induction, ← insertOrdered_eq]
      rfl

theorem inOrder_perm (sequences : List (List String)) : (inOrder sequences).Perm sequences := by
  rw [inOrder_eq_insertionSort]
  exact List.perm_insertionSort _ _

theorem inOrder_pairwise_le (sequences : List (List String)) :
    (inOrder sequences).Pairwise (· ≤ ·) := by
  rw [inOrder_eq_insertionSort]
  exact List.pairwise_insertionSort _ _

theorem inOrder_pairwise_lt {sequences : List (List String)} (distinct : sequences.Nodup) :
    (inOrder sequences).Pairwise (· < ·) := by
  have different := (inOrder_perm sequences).nodup_iff.mpr distinct
  exact ((inOrder_pairwise_le sequences).and different).imp fun ⟨le, ne⟩ => lt_of_le_of_ne le ne

/-! ## Documents of a directory -/

/-- Names that lead to a file with the name of a document. -/
structure IsDocumentBelow (entries : List (String × FileTree)) (names : List String) : Prop where
  file : ∃ bytes, (FileTree.directory entries).below? names = some (.file bytes)
  name : ∃ above stem, names = above ++ [stem ++ documentExtension]

theorem isDocument_iff (names : List String) :
    isDocument names = true ↔ ∃ above stem, names = above ++ [stem ++ documentExtension] := by
  rw [isDocument, Option.any_eq_true]
  simp only [List.isSuffixOf_iff_suffix, List.getLast?_eq_some_iff]
  constructor
  · rintro ⟨name, ⟨above, rfl⟩, stem, parts⟩
    refine ⟨above, String.ofList stem, ?_⟩
    rw [← String.ofList_toList (s := name), ← parts, String.ofList_append, String.ofList_toList]
  · rintro ⟨above, stem, rfl⟩
    exact ⟨_, ⟨above, rfl⟩, stem.toList, String.toList_append.symm⟩

section

variable {matcher : Matcher} {entries : List (String × FileTree)}

theorem mem_documentsOf {rules : List matcher.Rule} {names : List String} :
    names ∈ documentsOf matcher rules entries ↔
      (names ∈ FileTree.filesAmong entries ∧ isDocument names = true) ∧
        matcher.ignores rules (Path.joinParts names) = false := by
  rw [documentsOf, (inOrder_perm _).mem_iff, List.mem_filter, Bool.and_eq_true,
    Bool.not_eq_true', and_assoc]

theorem isDocumentBelow_iff (differ : (FileTree.directory entries).NamesDiffer)
    (names : List String) :
    IsDocumentBelow entries names ↔
      names ∈ FileTree.filesAmong entries ∧ isDocument names = true := by
  rw [FileTree.mem_filesAmong_iff differ, isDocument_iff]
  exact ⟨fun below => ⟨below.1, below.2⟩, fun ⟨file, name⟩ => ⟨file, name⟩⟩

theorem mem_documentsOf_iff {rules : List matcher.Rule}
    (differ : (FileTree.directory entries).NamesDiffer) (names : List String) :
    names ∈ documentsOf matcher rules entries ↔
      IsDocumentBelow entries names ∧ matcher.ignores rules (Path.joinParts names) = false := by
  rw [mem_documentsOf, isDocumentBelow_iff differ]

theorem documentsOf_pairwise_lt (rules : List matcher.Rule)
    (differ : (FileTree.directory entries).NamesDiffer) :
    (documentsOf matcher rules entries).Pairwise (· < ·) :=
  inOrder_pairwise_lt ((FileTree.nodup_filesAmong differ).filter _)

/-- A search looks at all directories and at all files with the name of a document. -/
theorem mem_visited_iff (differ : (FileTree.directory entries).NamesDiffer)
    (names : List String) :
    names ∈ visited entries ↔
      (names ≠ [] ∧ (FileTree.directory entries).IsDirectoryAt names) ∨
        IsDocumentBelow entries names := by
  rw [visited, List.mem_append, (inOrder_perm _).mem_iff, List.mem_filter,
    FileTree.mem_directoriesAmong_iff differ, isDocumentBelow_iff differ]

end

/-! ## Listings -/

/-- What keeps a path from being searched. -/
inductive Hinders (matcher : Matcher) (files : FileSystem) (path : Path) :
    SearchFailure matcher.Fault → Prop
  /-- Nothing is at the path. -/
  | missing {failure : ReadFailure} (absent : files.at? path = .error failure)
    (short : failure ≠ .nameTooLong) : Hinders matcher files path (.missing path)
  /-- The path is too long to be looked up, or a name on the way. -/
  | tooLong (far : files.at? path = .error .nameTooLong) :
    Hinders matcher files path (.tooLong path)
  /-- The ignore file is no UTF-8. -/
  | undecodable {entries : List (String × FileTree)} {bytes : List UInt8}
    {error : Utf8.DecodeError} (directory : files.at? path = .ok (.directory entries))
    (file : files.at? (ignoreFile path) = .ok (.file bytes))
    (invalid : Utf8.decode bytes = .error error) :
    Hinders matcher files path (.unreadableRules path (.undecodable error))
  /-- The path of the ignore file is too long. -/
  | rulesTooLong {entries : List (String × FileTree)}
    (directory : files.at? path = .ok (.directory entries))
    (far : files.at? (ignoreFile path) = .error .nameTooLong) :
    Hinders matcher files path (.unreadableRules path .nameTooLong)
  /-- The first path that is too long of all that are looked at in the directory. -/
  | below {entries : List (String × FileTree)} {lines : List String} {far : Path}
    {before after : List Path} (directory : files.at? path = .ok (.directory entries))
    (read : ignoreLines files path = .ok lines)
    (looked : (visited entries).map path.append = before ++ far :: after)
    (earlier : ∀ near ∈ before, files.isTooLong near = false)
    (tooLong : files.isTooLong far = true) :
    Hinders matcher files path (.tooLong far)

/--
What a search finds at a path.  A file is found as it is.  In a directory the
documents are found that the lines of its own ignore file, with the exclusions
behind them, do not ignore.
-/
inductive Lists (matcher : Matcher) (files : FileSystem) (exclusions : List String) (path : Path) :
    List Path → Prop
  | file {bytes : List UInt8} (file : files.at? path = .ok (.file bytes)) :
    Lists matcher files exclusions path [path]
  | directory {entries : List (String × FileTree)} {lines : List String}
    {rules : List matcher.Rule} {documents : List Path}
    (directory : files.at? path = .ok (.directory entries))
    (read : ignoreLines files path = .ok lines)
    (ruled : matcher.rulesOf (lines ++ exclusions) = .ok rules)
    (short : ∀ names, (FileTree.directory entries).IsDirectoryAt names ∨
      IsDocumentBelow entries names → files.isTooLong (path.append names) = false)
    (increasing : documents.Pairwise fun first second => first.parts < second.parts)
    (members : ∀ document, document ∈ documents ↔ ∃ names, document = path.append names ∧
      IsDocumentBelow entries names ∧ matcher.ignores rules (Path.joinParts names) = false) :
    Lists matcher files exclusions path documents

/-- All lines that a search comes upon are read. -/
def AllUsable (matcher : Matcher) (files : FileSystem) (paths : List Path)
    (exclusions : List String) : Prop :=
  ∀ path ∈ paths, ∀ lines ∈ linesAt? files path, ∀ line ∈ lines ++ exclusions,
    matcher.IsUsable line

instance (matcher : Matcher) (files : FileSystem) (paths : List Path) (exclusions : List String) :
    Decidable (AllUsable matcher files paths exclusions) :=
  inferInstanceAs (Decidable (∀ path ∈ paths, _))

theorem FileSystem.at?_eq_ok_iff {files : FileSystem} {path : Path} {found : FileTree} :
    files.at? path = .ok found ↔
      path.parts.any Path.hasNull = false ∧ files.isTooLong path = false ∧
        files.follow (files.start path ++ path.parts) = .ok found := by
  rw [at?]
  split_ifs <;> simp_all

theorem FileTree.NamesDiffer.at? {files : FileSystem} {found : FileTree} {path : Path}
    (differ : files.root.NamesDiffer) (reached : files.at? path = .ok found) :
    found.NamesDiffer :=
  differ.follow (by simp) (FileSystem.at?_eq_ok_iff.mp reached).2.2

theorem ignoreLines_eq_error_iff {files : FileSystem} {path : Path} {failure : ReadFailure} :
    ignoreLines files path = .error failure ↔
      (∃ bytes error, files.at? (ignoreFile path) = .ok (.file bytes) ∧
        Utf8.decode bytes = .error error ∧ failure = .undecodable error) ∨
        files.at? (ignoreFile path) = .error .nameTooLong ∧ failure = .nameTooLong := by
  rw [ignoreLines]
  split
  · rename_i bytes found
    rw [FileTree.text, found]
    cases decoded : Utf8.decode bytes <;> simp [Except.map, decoded, eq_comm]
  · rename_i far
    simp [far, eq_comm]
  · rename_i other long
    refine iff_of_false (by simp) ?_
    rintro (⟨bytes, error, found, -⟩ | ⟨far, -⟩)
    · exact other bytes found
    · exact long far

/-- An increasing list of paths is determined by its members. -/
theorem eq_of_increasing {first second : List Path}
    (firstIncreases : first.Pairwise fun one other => one.parts < other.parts)
    (secondIncreases : second.Pairwise fun one other => one.parts < other.parts)
    (same : ∀ path, path ∈ first ↔ path ∈ second) :
    first = second := by
  have : Std.Antisymm fun one other : Path => one.parts < other.parts :=
    ⟨fun _ _ forth back => absurd back forth.asymm⟩
  have : Std.Irrefl fun one other : Path => one.parts < other.parts :=
    ⟨fun _ => lt_irrefl _⟩
  exact firstIncreases.eq_of_mem_iff secondIncreases same

section

variable {matcher : Matcher} {files : FileSystem} {exclusions : List String} {path : Path}
  {documents : List Path} {entries : List (String × FileTree)}

theorem append_documentsOf_increasing (path : Path) (rules : List matcher.Rule)
    (differ : (FileTree.directory entries).NamesDiffer) :
    ((documentsOf matcher rules entries).map path.append).Pairwise
      fun first second => first.parts < second.parts :=
  List.pairwise_map.mpr <| (documentsOf_pairwise_lt rules differ).imp List.append_left_lt

theorem mem_append_documentsOf_iff (path : Path) (rules : List matcher.Rule)
    (differ : (FileTree.directory entries).NamesDiffer) (document : Path) :
    document ∈ (documentsOf matcher rules entries).map path.append ↔
      ∃ names, document = path.append names ∧ IsDocumentBelow entries names ∧
        matcher.ignores rules (Path.joinParts names) = false := by
  rw [List.mem_map]
  exact exists_congr fun names => by rw [mem_documentsOf_iff differ, and_comm, eq_comm]

/-- The directory itself is looked up before all that is in it. -/
theorem forall_visited_iff (directory : files.at? path = .ok (.directory entries))
    (differ : (FileTree.directory entries).NamesDiffer) :
    (∀ names ∈ visited entries, files.isTooLong (path.append names) = false) ↔
      ∀ names, (FileTree.directory entries).IsDirectoryAt names ∨
        IsDocumentBelow entries names → files.isTooLong (path.append names) = false := by
  simp only [mem_visited_iff differ]
  constructor
  · rintro near names (inside | document)
    · by_cases top : names = []
      · subst top
        rw [Path.append, List.append_nil]
        exact (FileSystem.at?_eq_ok_iff.mp directory).2.1
      · exact near names (.inl ⟨top, inside⟩)
    · exact near names (.inr document)
  · rintro near names (⟨-, inside⟩ | document)
    · exact near names (.inl inside)
    · exact near names (.inr document)

theorem documentsAt_eq_ok_iff (differ : files.root.NamesDiffer) :
    documentsAt matcher files exclusions path = .ok documents ↔
      Lists matcher files exclusions path documents := by
  rw [documentsAt_eq_iff]
  constructor
  · intro searches
    cases searches with
    | file file => exact .file file
    | directory directory read ruled near =>
        have inside := differ.at? directory
        exact .directory directory read ruled ((forall_visited_iff directory inside).mp near)
          (append_documentsOf_increasing path _ inside) (mem_append_documentsOf_iff path _ inside)
  · intro listed
    cases listed with
    | file file => exact .file file
    | directory directory read ruled short increasing members =>
        have inside := differ.at? directory
        have same := eq_of_increasing increasing (append_documentsOf_increasing path _ inside)
          fun document => (members document).trans
            (mem_append_documentsOf_iff path _ inside document).symm
        exact same ▸ .directory directory read ruled ((forall_visited_iff directory inside).mpr short)

theorem documentsAt_eq_error_iff
    (usable : ∀ lines ∈ linesAt? files path, ∀ line ∈ lines ++ exclusions, matcher.IsUsable line)
    {failure : SearchFailure matcher.Fault} :
    documentsAt matcher files exclusions path = .error failure ↔
      Hinders matcher files path failure := by
  rw [documentsAt_eq_iff]
  constructor
  · intro searches
    cases searches with
    | missing absent short => exact .missing absent short
    | tooLong far => exact .tooLong far
    | unread directory unread =>
        rcases ignoreLines_eq_error_iff.mp unread with
          ⟨bytes, error, file, invalid, rfl⟩ | ⟨far, rfl⟩
        · exact .undecodable directory file invalid
        · exact .rulesTooLong directory far
    | @line entries lines earlier further line fault directory read whole _ refused =>
        rcases usable lines (linesAt?_of_directory directory read) line (by simp [whole]) with
          ⟨rule?, succeeds⟩
        exact nomatch succeeds.symm.trans refused
    | below directory read _ looked earlier tooLong =>
        exact .below directory read looked earlier tooLong
  · intro hinders
    cases hinders with
    | missing absent short => exact .missing absent short
    | tooLong far => exact .tooLong far
    | undecodable directory file invalid =>
        exact .unread directory (ignoreLines_eq_error_iff.mpr (.inl ⟨_, _, file, invalid, rfl⟩))
    | rulesTooLong directory far =>
        exact .unread directory (ignoreLines_eq_error_iff.mpr (.inr ⟨far, rfl⟩))
    | below directory read looked earlier tooLong =>
        exact .below directory read (usable _ (linesAt?_of_directory directory read)) looked
          earlier tooLong

theorem isSearched_iff
    (usable : ∀ lines ∈ linesAt? files path, ∀ line ∈ lines ++ exclusions, matcher.IsUsable line) :
    IsSearched matcher files exclusions path ↔
      ∀ failure, ¬ Hinders matcher files path failure := by
  simp only [IsSearched, ← documentsAt_eq_error_iff usable]
  cases documentsAt matcher files exclusions path <;> simp

end

/-- What is collected from two lists, one behind the other, is collected from each of them. -/
theorem map_mapM_append_eq_ok_iff {Item Value Result Failure : Type}
    {f : Item → Except Failure Value} {join : List Value → List Result}
    (joins : ∀ front back, join (front ++ back) = join front ++ join back)
    {first second : List Item} {results : List Result} :
    ((first ++ second).mapM f).map join = .ok results ↔
      ∃ front back, (first.mapM f).map join = .ok front ∧ (second.mapM f).map join = .ok back ∧
        results = front ++ back := by
  rw [List.mapM_append]
  cases first.mapM f with
  | error failure => simp [bind, Except.bind, Except.map]
  | ok front =>
      cases second.mapM f with
      | error failure => simp [bind, Except.bind, Except.map]
      | ok back => simp [bind, Except.bind, Except.map, pure, Except.pure, joins, eq_comm]

section

variable {matcher : Matcher} {files : FileSystem} {exclusions : List String}

theorem findDocuments_eq_ok_iff {paths documents : List Path} :
    findDocuments matcher files paths exclusions = .ok documents ↔
      ∃ listings, List.Forall₂
          (fun path listing => documentsAt matcher files exclusions path = .ok listing)
          paths listings ∧ documents = listings.flatten := by
  simp only [← mapM_eq_ok_iff]
  rw [findDocuments]
  cases paths.mapM (documentsAt matcher files exclusions) <;> simp [Except.map, eq_comm]

theorem findDocuments_singleton (path : Path) :
    findDocuments matcher files [path] exclusions = documentsAt matcher files exclusions path := by
  rw [findDocuments, List.mapM_cons, List.mapM_nil]
  cases documentsAt matcher files exclusions path <;>
    simp [bind, Except.bind, pure, Except.pure, Except.map]

theorem findDocuments_append_eq_ok_iff {first second documents : List Path} :
    findDocuments matcher files (first ++ second) exclusions = .ok documents ↔
      ∃ front back, findDocuments matcher files first exclusions = .ok front ∧
        findDocuments matcher files second exclusions = .ok back ∧ documents = front ++ back :=
  map_mapM_append_eq_ok_iff fun _ _ => List.flatten_append

end

/--
A search fails with the first path that cannot be searched, and otherwise finds,
path by path, what is listed there.
-/
theorem findDocuments_lists {matcher : Matcher} {files : FileSystem} {paths : List Path}
    {exclusions : List String} (differ : files.root.NamesDiffer)
    (usable : AllUsable matcher files paths exclusions) :
    (∀ failure, findDocuments matcher files paths exclusions = .error failure ↔
      ∃ before path after, paths = before ++ path :: after ∧
        (∀ earlier ∈ before, ∀ other, ¬ Hinders matcher files earlier other) ∧
          Hinders matcher files path failure) ∧
      ∀ documents, findDocuments matcher files paths exclusions = .ok documents ↔
        ∃ listings, List.Forall₂ (Lists matcher files exclusions) paths listings ∧
          documents = listings.flatten := by
  constructor
  · intro failure
    rw [findDocuments_eq_error_iff]
    refine exists_congr fun before => exists_congr fun path => exists_congr fun after =>
      and_congr_right fun split => ?_
    have usableAt {other : Path} (member : other ∈ before ++ path :: after) :=
      usable other (split ▸ member)
    refine and_congr (forall₂_congr fun earlier member => ?_) ?_
    · exact isSearched_iff (usableAt (List.mem_append_left _ member))
    · exact documentsAt_eq_error_iff (usableAt (by simp))
  · intro documents
    rw [findDocuments_eq_ok_iff]
    have listed :
        (fun path listing => documentsAt matcher files exclusions path = .ok listing) =
          Lists matcher files exclusions :=
      funext₂ fun path listing => propext (documentsAt_eq_ok_iff differ)
    rw [listed]

/--
A directory with a hidden one, one that is named like a document, ignore files at
its top and further inside, and names that are ordered otherwise when they are
written with slashes.  Beside it are a file and a directory with an ignore file
that is no UTF-8.
-/
def scattered : FileSystem where
  root := .holding <|
    [(["p", ".gitignore"], "skip.mcbc"), (["p", "a-b", "z.mcbc"], ""), (["p", "a", "z.mcbc"], ""),
      (["p", "x.mcbc", "in.mcbc"], ""), (["p", ".hidden", "e.mcbc"], ""),
      (["p", "sub", ".gitignore"], "kept.mcbc"), (["p", "sub", "kept.mcbc"], ""),
      (["p", "sub", "skip.mcbc"], ""), (["p", "vendor", "d.mcbc"], ""), (["notes.txt"], "")].map
        (Prod.map id fun text => text.toUTF8.toList) ++ [(["q", ".gitignore"], [0xFF])]
  home := ["p"]

/-- What is found in the directory, and at paths before and behind it. -/
def scatteredDocuments : List Path :=
  ["../notes.txt", "/p/.hidden/e.mcbc", "/p/a/z.mcbc", "/p/a-b/z.mcbc", "/p/sub/kept.mcbc",
    "/p/x.mcbc/in.mcbc", "sub/skip.mcbc"].map Path.ofString

theorem findDocuments_lists_scattered :
    (∃ listings, List.Forall₂ (Lists versionControl scattered ["vendor/"])
        (["../notes.txt", "/p", "sub/skip.mcbc"].map Path.ofString) listings ∧
      scatteredDocuments = listings.flatten) ∧
      ∃ before path after, [".", "/q", "missing"].map Path.ofString = before ++ path :: after ∧
        (∀ earlier ∈ before, ∀ other, ¬ Hinders versionControl scattered earlier other) ∧
          Hinders versionControl scattered path
            (.unreadableRules (Path.ofString "/q") (.undecodable ⟨.invalidStart, 0, 0xFF, 0⟩)) := by
  have differ : scattered.root.NamesDiffer := FileTree.namesDiffer_holding _
  constructor
  · have usable : AllUsable versionControl scattered
        (["../notes.txt", "/p", "sub/skip.mcbc"].map Path.ofString) ["vendor/"] := by
      decide +kernel
    exact ((findDocuments_lists differ usable).2 scatteredDocuments).mp (by decide +kernel)
  · have usable : AllUsable versionControl scattered
        ([".", "/q", "missing"].map Path.ofString) [] := by
      decide +kernel
    exact ((findDocuments_lists differ usable).1 _).mp (by decide +kernel)

/-! ## Names that are too long -/

/-- A name of some letters. -/
def letters (count : Nat) : String :=
  String.ofList (List.replicate count 'a')

theorem letters_ne {count : Nat} {name : String} (nonempty : 0 < count)
    (other : 'a' ∉ name.toList) :
    letters count ≠ name := by
  rintro rfl
  simp [letters, nonempty.ne'] at other

theorem utf8ByteSize_letters (count : Nat) : (letters count).utf8ByteSize = count := by
  rw [letters, String.utf8ByteSize_ofList]
  induction count with
  | zero => rfl
  | succ count induction =>
      rw [List.replicate_succ, String.utf8Len_cons, induction]
      rfl

theorem hasNull_letters (count : Nat) : Path.hasNull (letters count) = false := by
  simp [Path.hasNull, letters]

/-- In a directory without entries a name is too long before it is missing. -/
theorem at?_letters {count : Nat} (long : 255 < count) (short : count ≤ 4095) :
    FileSystem.at? { root := .directory [] } { parts := [letters count] } =
      .error .nameTooLong := by
  have named : letters count ≠ FileTree.parentStep := letters_ne (by omega) (by decide)
  have size : Path.size { parts := [letters count] } = count := by
    simp [Path.size, Path.render, Path.joinParts, utf8ByteSize_letters]
  have near : FileSystem.isTooLong { root := .directory [] } { parts := [letters count] } =
      false := by
    simpa [FileSystem.isTooLong, size] using short
  rw [FileSystem.at?, near, List.any_cons, hasNull_letters]
  exact FileTree.follow_long named (by rwa [utf8ByteSize_letters]) [] [] []

theorem findDocuments_letters {matcher : Matcher} {count : Nat} (long : 255 < count)
    (short : count ≤ 4095) (exclusions : List String) :
    findDocuments matcher { root := .directory [] } [{ parts := [letters count] }] exclusions =
      .error (.tooLong { parts := [letters count] }) := by
  rw [findDocuments_singleton, documentsAt, at?_letters long short]

/-- A path with a name that is too long is not told to be missing, though nothing is there. -/
theorem not_forall_findDocuments_missing :
    ¬ ∀ (files : FileSystem) (path : Path), (∀ found, files.at? path ≠ .ok found) →
      findDocuments versionControl files [path] [] = .error (.missing path) := by
  intro told
  have far := @at?_letters 256 (by decide) (by decide)
  have failed := told _ _ fun found present => nomatch far.symm.trans present
  rw [findDocuments_letters (by decide) (by decide)] at failed
  cases failed

end Outline
