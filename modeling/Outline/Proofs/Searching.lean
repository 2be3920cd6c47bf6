import Mathlib.Data.List.Forall2
import Outline.Command.Check
import Outline.Ignore.Rule
import Outline.Report.Emoji
import Outline.Proofs.Writing

/-!
# Searches that end without a report

Two things end a search without a message: a line that the matcher does not read
as a rule, and a path that is too long to be looked up.  A line counts where the
lines of a directory are read, with the exclusions behind them, and a path where
it is looked at; either of them only if the search has come that far.
-/

namespace Outline

open Outline.Ignore

theorem mapM_cons_eq_error_iff {Item Value Failure : Type} {f : Item → Except Failure Value}
    {item : Item} {items : List Item} {failure : Failure} :
    (item :: items).mapM f = .error failure ↔
      f item = .error failure ∨ (∃ value, f item = .ok value) ∧ items.mapM f = .error failure := by
  rw [List.mapM_cons]
  cases first : f item with
  | error other => simp [bind, Except.bind]
  | ok value =>
      cases rest : items.mapM f <;> simp [bind, Except.bind, pure, Except.pure]

/-- The first item that fails decides how a list fails. -/
theorem mapM_eq_error_iff {Item Value Failure : Type} {f : Item → Except Failure Value}
    {items : List Item} {failure : Failure} :
    items.mapM f = .error failure ↔
      ∃ before item after, items = before ++ item :: after ∧
        (∀ earlier ∈ before, ∃ value, f earlier = .ok value) ∧ f item = .error failure := by
  induction items with
  | nil => simp [pure, Except.pure]
  | cons item items induction =>
      rw [mapM_cons_eq_error_iff, induction]
      constructor
      · rintro (fails | ⟨fine, before, culprit, after, rfl, others, fails⟩)
        · exact ⟨[], item, items, rfl, by simp, fails⟩
        · exact ⟨item :: before, culprit, after, rfl, List.forall_mem_cons.mpr ⟨fine, others⟩,
            fails⟩
      · rintro ⟨before, culprit, after, split, fine, fails⟩
        cases before with
        | nil =>
            cases split
            exact .inl fails
        | cons front before =>
            cases split
            rcases List.forall_mem_cons.mp fine with ⟨first, others⟩
            exact .inr ⟨first, before, culprit, after, rfl, others, fails⟩

theorem mapM_eq_ok_iff {Item Value Failure : Type} {f : Item → Except Failure Value}
    {items : List Item} {values : List Value} :
    items.mapM f = .ok values ↔
      List.Forall₂ (fun item value => f item = .ok value) items values := by
  induction items generalizing values with
  | nil => simp [pure, Except.pure, eq_comm]
  | cons item items induction =>
      rw [List.mapM_cons, List.forall₂_cons_left_iff]
      simp only [← induction]
      cases f item with
      | error failure => simp [bind, Except.bind]
      | ok value =>
          cases items.mapM f <;> simp [bind, Except.bind, pure, Except.pure, eq_comm]

theorem exists_of_forall₂ {Item Value : Type} {relation : Item → Value → Prop}
    {items : List Item} {values : List Value} (related : List.Forall₂ relation items values)
    {value : Value} (member : value ∈ values) :
    ∃ item ∈ items, relation item value := by
  induction related with
  | nil => cases member
  | cons own rest induction =>
      rcases List.mem_cons.mp member with rfl | further
      · exact ⟨_, List.mem_cons_self, own⟩
      · rcases induction further with ⟨item, known, fits⟩
        exact ⟨item, List.mem_cons_of_mem _ known, fits⟩

/-! ## Lines -/

namespace Ignore.Matcher

variable {matcher : Matcher}

/-- A line is read, as a rule or as a line without any. -/
def IsUsable (matcher : Matcher) (line : String) : Prop :=
  ∃ rule?, matcher.read line = .ok rule?

instance (matcher : Matcher) (line : String) : Decidable (matcher.IsUsable line) :=
  match read : matcher.read line with
  | .ok rule? => .isTrue ⟨rule?, read⟩
  | .error _ => .isFalse fun ⟨_, other⟩ => nomatch read.symm.trans other

/-- The first line that is not read is refused. -/
theorem rulesOf_eq_error_iff {lines : List String} {fault : matcher.Fault} :
    matcher.rulesOf lines = .error fault ↔
      ∃ before line after, lines = before ++ line :: after ∧
        (∀ earlier ∈ before, matcher.IsUsable earlier) ∧ matcher.read line = .error fault := by
  simp only [IsUsable, ← mapM_eq_error_iff]
  rw [rulesOf]
  cases lines.mapM matcher.read <;> simp [Except.map]

theorem exists_rulesOf {lines : List String} (usable : ∀ line ∈ lines, matcher.IsUsable line) :
    ∃ rules, matcher.rulesOf lines = .ok rules := by
  cases ruled : matcher.rulesOf lines with
  | ok rules => exact ⟨rules, rfl⟩
  | error fault =>
      rcases rulesOf_eq_error_iff.mp ruled with ⟨before, line, after, rfl, -, refused⟩
      rcases usable line (by simp) with ⟨rule?, read⟩
      exact nomatch read.symm.trans refused

theorem isUsable_of_rulesOf {lines : List String} {rules : List matcher.Rule}
    (ruled : matcher.rulesOf lines = .ok rules) :
    ∀ line ∈ lines, matcher.IsUsable line := by
  rw [rulesOf] at ruled
  cases read : lines.mapM matcher.read with
  | error fault => simp [read, Except.map] at ruled
  | ok values =>
      intro line member
      rcases exists_of_forall₂ (mapM_eq_ok_iff.mp read).flip member with ⟨rule?, -, usable⟩
      exact ⟨rule?, usable⟩

end Ignore.Matcher

/-- The lines of the ignore file in the directory at a path; there may be no directory. -/
def linesAt? (files : FileSystem) (path : Path) : Option (List String) :=
  match files.at? path with
  | .ok (.directory _) => (ignoreLines files path).toOption
  | _ => none

/-! ## Searches -/

section

variable {matcher : Matcher} {files : FileSystem} {exclusions : List String}

/-- A path is searched, and nothing is wrong with it. -/
def IsSearched (matcher : Matcher) (files : FileSystem) (exclusions : List String) (path : Path) :
    Prop :=
  ∃ documents, documentsAt matcher files exclusions path = .ok documents

/-- How a path is searched, step by step, and what comes of it. -/
inductive Searches (matcher : Matcher) (files : FileSystem) (exclusions : List String)
    (path : Path) : Except (SearchFailure matcher.Fault) (List Path) → Prop where
  | missing {failure : ReadFailure} (absent : files.at? path = .error failure)
    (short : failure ≠ .nameTooLong) :
    Searches matcher files exclusions path (.error (.missing path))
  | tooLong (far : files.at? path = .error .nameTooLong) :
    Searches matcher files exclusions path (.error (.tooLong path))
  | file {bytes : List UInt8} (file : files.at? path = .ok (.file bytes)) :
    Searches matcher files exclusions path (.ok [path])
  | unread {entries : List (String × FileTree)} {failure : ReadFailure}
    (directory : files.at? path = .ok (.directory entries))
    (unread : ignoreLines files path = .error failure) :
    Searches matcher files exclusions path (.error (.unreadableRules path failure))
  | line {entries : List (String × FileTree)} {lines usable further : List String}
    {line : String} {fault : matcher.Fault}
    (directory : files.at? path = .ok (.directory entries))
    (read : ignoreLines files path = .ok lines)
    (whole : lines ++ exclusions = usable ++ line :: further)
    (earlier : ∀ other ∈ usable, matcher.IsUsable other)
    (refused : matcher.read line = .error fault) :
    Searches matcher files exclusions path (.error (.faultyRule fault))
  | below {entries : List (String × FileTree)} {lines : List String} {far : Path}
    {before after : List Path} (directory : files.at? path = .ok (.directory entries))
    (read : ignoreLines files path = .ok lines)
    (usable : ∀ line ∈ lines ++ exclusions, matcher.IsUsable line)
    (looked : (visited entries).map path.append = before ++ far :: after)
    (earlier : ∀ near ∈ before, files.isTooLong near = false)
    (tooLong : files.isTooLong far = true) :
    Searches matcher files exclusions path (.error (.tooLong far))
  | directory {entries : List (String × FileTree)} {lines : List String}
    {rules : List matcher.Rule} (directory : files.at? path = .ok (.directory entries))
    (read : ignoreLines files path = .ok lines)
    (ruled : matcher.rulesOf (lines ++ exclusions) = .ok rules)
    (near : ∀ names ∈ visited entries, files.isTooLong (path.append names) = false) :
    Searches matcher files exclusions path
      (.ok ((documentsOf matcher rules entries).map path.append))

open Command in
/-- What ends a search at a path without a report. -/
inductive Breaks (matcher : Matcher) (files : FileSystem) (exclusions : List String) (path : Path) :
    Crash matcher.Fault → Prop where
  /-- The first line of the directory, or exclusion, that is no rule. -/
  | line {lines usable further : List String} {line : String} {fault : matcher.Fault}
    (found : linesAt? files path = some lines)
    (whole : lines ++ exclusions = usable ++ line :: further)
    (earlier : ∀ other ∈ usable, matcher.IsUsable other)
    (refused : matcher.read line = .error fault) :
    Breaks matcher files exclusions path (.faultyRule fault)
  /-- The path is too long, or a name on the way. -/
  | path (far : files.at? path = .error .nameTooLong) :
    Breaks matcher files exclusions path (.tooLong path)
  /-- The first path that is too long of all that are looked at in the directory. -/
  | below {entries : List (String × FileTree)} {lines : List String} {far : Path}
    {before after : List Path} (directory : files.at? path = .ok (.directory entries))
    (found : ignoreLines files path = .ok lines)
    (usable : ∀ line ∈ lines ++ exclusions, matcher.IsUsable line)
    (looked : (visited entries).map path.append = before ++ far :: after)
    (earlier : ∀ near ∈ before, files.isTooLong near = false)
    (tooLong : files.isTooLong far = true) :
    Breaks matcher files exclusions path (.tooLong far)

/-- The first path with which something is wrong ends a search without a report. -/
def EndsSearch (matcher : Matcher) (files : FileSystem) (paths : List Path)
    (exclusions : List String) (crash : Command.Crash matcher.Fault) : Prop :=
  ∃ before path after, paths = before ++ path :: after ∧
    (∀ earlier ∈ before, IsSearched matcher files exclusions earlier) ∧
      Breaks matcher files exclusions path crash

variable {path : Path}

theorem documentsAt_of_directory {entries : List (String × FileTree)} {lines : List String}
    (directory : files.at? path = .ok (.directory entries))
    (found : ignoreLines files path = .ok lines) :
    documentsAt matcher files exclusions path =
      match matcher.rulesOf (lines ++ exclusions) with
      | .error fault => .error (.faultyRule fault)
      | .ok rules =>
        match ((visited entries).map path.append).find? files.isTooLong with
        | some far => .error (.tooLong far)
        | none => .ok ((documentsOf matcher rules entries).map path.append) := by
  rw [documentsAt, directory]
  exact found ▸ rfl

theorem exists_directory_of_linesAt? {lines : List String}
    (found : linesAt? files path = some lines) :
    ∃ entries, files.at? path = .ok (.directory entries) ∧ ignoreLines files path = .ok lines := by
  rw [linesAt?] at found
  split at found
  · rename_i entries directory
    refine ⟨entries, directory, ?_⟩
    cases read : ignoreLines files path with
    | error failure => simp [read, Except.toOption] at found
    | ok others => simpa [read, Except.toOption] using found
  · cases found

theorem linesAt?_of_directory {entries : List (String × FileTree)} {lines : List String}
    (directory : files.at? path = .ok (.directory entries))
    (found : ignoreLines files path = .ok lines) :
    linesAt? files path = some lines := by
  rw [linesAt?, directory]
  simp [found, Except.toOption]

theorem searches_documentsAt (matcher : Matcher) (files : FileSystem) (exclusions : List String)
    (path : Path) :
    Searches matcher files exclusions path (documentsAt matcher files exclusions path) := by
  rw [documentsAt]
  split
  · rename_i far
    exact .tooLong far
  · rename_i failure short absent
    exact .missing absent short
  · rename_i bytes file
    exact .file file
  · rename_i entries directory
    split
    · rename_i failure unread
      exact .unread directory unread
    · rename_i lines read
      split
      · rename_i fault refused
        rcases Matcher.rulesOf_eq_error_iff.mp refused with ⟨usable, line, _, whole, earlier, no⟩
        exact .line directory read whole earlier no
      · rename_i rules ruled
        split
        · rename_i far looked
          rcases List.find?_eq_some_iff_append.mp looked with ⟨long, before, after, all, near⟩
          exact .below directory read (Matcher.isUsable_of_rulesOf ruled) all
            (by simpa using near) long
        · rename_i near
          exact .directory directory read ruled (by simpa using near)

theorem Searches.eq {result : Except (SearchFailure matcher.Fault) (List Path)}
    (searches : Searches matcher files exclusions path result) :
    documentsAt matcher files exclusions path = result := by
  cases searches with
  | @missing failure absent short =>
      rw [documentsAt, absent]
      cases failure with
      | nameTooLong => exact absurd rfl short
      | _ => rfl
  | tooLong far => rw [documentsAt, far]
  | file file => rw [documentsAt, file]
  | unread directory unread =>
      rw [documentsAt, directory]
      simp only [unread]
  | line directory read whole earlier refused =>
      rw [documentsAt_of_directory directory read,
        Matcher.rulesOf_eq_error_iff.mpr ⟨_, _, _, whole, earlier, refused⟩]
  | below directory read usable looked earlier tooLong =>
      rcases Matcher.exists_rulesOf usable with ⟨rules, ruled⟩
      have first := List.find?_eq_some_iff_append.mpr
        ⟨tooLong, _, _, looked, fun near member => by simp [earlier near member]⟩
      rw [documentsAt_of_directory directory read, ruled]
      simp only [first]
  | @directory entries lines rules directory read ruled near =>
      have none_far : ((visited entries).map path.append).find? files.isTooLong = none := by
        simpa using near
      rw [documentsAt_of_directory directory read, ruled]
      simp only [none_far]

theorem documentsAt_eq_iff {result : Except (SearchFailure matcher.Fault) (List Path)} :
    documentsAt matcher files exclusions path = result ↔
      Searches matcher files exclusions path result := by
  constructor
  · rintro rfl
    exact searches_documentsAt matcher files exclusions path
  · exact Searches.eq

open Command in
/-- The failures at a path that are not told as a message. -/
theorem documentsAt_breaks_iff {crash : Crash matcher.Fault} :
    (∃ failure, documentsAt matcher files exclusions path = .error failure ∧
      Crash.ofFailure? failure = some crash) ↔ Breaks matcher files exclusions path crash := by
  simp only [documentsAt_eq_iff]
  constructor
  · rintro ⟨failure, searches, untold⟩
    cases searches with
    | missing | unread => cases untold
    | tooLong far =>
        cases untold
        exact .path far
    | line directory read whole earlier refused =>
        cases untold
        exact .line (linesAt?_of_directory directory read) whole earlier refused
    | below directory read usable looked earlier tooLong =>
        cases untold
        exact .below directory read usable looked earlier tooLong
  · intro breaks
    cases breaks with
    | line found whole earlier refused =>
        rcases exists_directory_of_linesAt? found with ⟨entries, directory, read⟩
        exact ⟨_, .line directory read whole earlier refused, rfl⟩
    | path far => exact ⟨_, .tooLong far, rfl⟩
    | below directory read usable looked earlier tooLong =>
        exact ⟨_, .below directory read usable looked earlier tooLong, rfl⟩

/-- A search fails as its first path that is not searched does. -/
theorem findDocuments_eq_error_iff {paths : List Path} {failure : SearchFailure matcher.Fault} :
    findDocuments matcher files paths exclusions = .error failure ↔
      ∃ before path after, paths = before ++ path :: after ∧
        (∀ earlier ∈ before, IsSearched matcher files exclusions earlier) ∧
          documentsAt matcher files exclusions path = .error failure := by
  simp only [IsSearched, ← mapM_eq_error_iff]
  rw [findDocuments]
  cases paths.mapM (documentsAt matcher files exclusions) <;> simp [Except.map]

open Command in
/-- A search fails without a report if and only if it ends so at a path. -/
theorem findDocuments_endsSearch_iff {paths : List Path} {crash : Crash matcher.Fault} :
    (∃ failure, findDocuments matcher files paths exclusions = .error failure ∧
      Crash.ofFailure? failure = some crash) ↔
        EndsSearch matcher files paths exclusions crash := by
  simp only [EndsSearch, findDocuments_eq_error_iff, ← documentsAt_breaks_iff]
  constructor
  · rintro ⟨failure, ⟨before, path, after, split, earlier, failed⟩, untold⟩
    exact ⟨before, path, after, split, earlier, failure, failed, untold⟩
  · rintro ⟨before, path, after, split, earlier, failure, failed, untold⟩
    exact ⟨failure, ⟨before, path, after, split, earlier, failed⟩, untold⟩

end

namespace Command

open Outline.Report

variable {matcher : Matcher} {terminal : Terminal} {files : FileSystem} {settings : Settings}

theorem exitCodeOf_le (results : List Result) : exitCodeOf results ≤ exitUnusable := by
  rw [exitCodeOf]
  split_ifs <;> decide

theorem exitCode_report_le {results : List Result} {completion : Completion}
    (reported : report terminal files settings results = some completion) :
    completion.exitCode ≤ exitUnusable := by
  rw [report] at reported
  split at reported
  · simp only [reportJson] at reported
    split at reported
    · cases reported
      exact exitCodeOf_le results
    · cases reported
      exact exitCodeOf_le results
    · split at reported
      · cases reported
      · cases reported
        exact Nat.le_refl _
      · cases reported
        exact exitCodeOf_le results
  · cases reported
    exact exitCodeOf_le results
  · cases reported
    exact exitCodeOf_le results

theorem exitCode_check_le {completion : Completion}
    (checked : check matcher terminal files settings = .ok completion) :
    completion.exitCode ≤ exitUnusable := by
  rw [check] at checked
  split at checked
  · split at checked
    · cases checked
      exact Nat.le_refl _
    · cases checked
  · cases checked
    exact Nat.le_refl _
  · split at checked
    · cases checked
    · rename_i reported
      cases checked
      exact exitCode_report_le reported

/-- What a check is asked to search. -/
def search (matcher : Matcher) (files : FileSystem) (settings : Settings) :
    Except (SearchFailure matcher.Fault) (List Path) :=
  findDocuments matcher files (settings.paths.map Path.ofString) settings.exclusions

/-- The report is to go to a file whose path holds the null character where it is come to. -/
def WritesNull (files : FileSystem) (settings : Settings) : Prop :=
  settings.format = .json ∧
    ∃ name, settings.output = some name ∧ name ≠ "" ∧
      ∀ bytes, files.write (Path.ofString name) bytes = .error .nullCharacter

/-- What is written does not matter, so one attempt tells. -/
theorem writesNull_iff (json : settings.format = .json) {name : String}
    (output : settings.output = some name) (nonempty : name ≠ "") (bytes : List UInt8) :
    WritesNull files settings ↔
      files.write (Path.ofString name) bytes = .error .nullCharacter := by
  constructor
  · rintro ⟨-, asked, same, -, null⟩
    obtain rfl := Option.some.inj (output.symm.trans same)
    exact null bytes
  · intro null
    exact ⟨json, name, output, nonempty, fun other => (files.write_eq_error_iff _ _ _ _).mp null⟩

theorem report_eq_none_iff {results : List Result} :
    report terminal files settings results = none ↔ WritesNull files settings := by
  rw [report]
  cases json : settings.format with
  | tree | table => simp [WritesNull, json]
  | json =>
      dsimp only
      rw [reportJson.eq_def]
      dsimp only
      split
      · rename_i output
        simp [WritesNull, output]
      · rename_i output
        simp [WritesNull, output]
      · rename_i name other output
        generalize (JsonValue.ofResults results).render.toUTF8.toList = bytes
        rw [writesNull_iff json output other bytes]
        split <;> simp [*]

/-- What ends a check without a report: the search, or the path of the report. -/
def EndsCheck (matcher : Matcher) (files : FileSystem) (settings : Settings)
    (crash : Crash matcher.Fault) : Prop :=
  EndsSearch matcher files (settings.paths.map Path.ofString) settings.exclusions crash ∨
    (∃ documents, search matcher files settings = .ok documents ∧ documents ≠ []) ∧
      WritesNull files settings ∧ crash = .nullCharacter

theorem check_eq_error_of_search {failure : SearchFailure matcher.Fault}
    (failed : search matcher files settings = .error failure) (crash : Crash matcher.Fault) :
    check matcher terminal files settings = .error crash ↔
      Crash.ofFailure? failure = some crash := by
  rw [search] at failed
  rw [check, failed]
  dsimp only
  split <;> simp_all

theorem check_eq_error_of_documents {documents : List Path}
    (searched : search matcher files settings = .ok documents) (crash : Crash matcher.Fault) :
    check matcher terminal files settings = .error crash ↔
      documents ≠ [] ∧ WritesNull files settings ∧ crash = .nullCharacter := by
  rw [search] at searched
  rw [check, searched]
  cases documents with
  | nil => simp
  | cons first rest =>
      have unreported : report terminal files settings
          (Result.ofFiles files .initial (first :: rest)) = none ↔ WritesNull files settings :=
        report_eq_none_iff
      rw [← unreported]
      dsimp only
      cases report terminal files settings _ <;> simp [eq_comm]

theorem check_eq_error_iff {crash : Crash matcher.Fault} :
    check matcher terminal files settings = .error crash ↔
      EndsCheck matcher files settings crash := by
  rw [EndsCheck, ← findDocuments_endsSearch_iff]
  change _ ↔ (∃ failure, search matcher files settings = .error failure ∧ _) ∨ _
  cases searched : search matcher files settings with
  | error failure =>
      rw [check_eq_error_of_search searched]
      simp
  | ok documents =>
      rw [check_eq_error_of_documents searched]
      simp

/-- A directory with one document. -/
def single : FileSystem where
  root := .directory [("a.mcbc", .file "class: A".toUTF8.toList)]

end Command

end Outline
