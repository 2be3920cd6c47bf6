import Outline.Proofs.Discovery
import Outline.Proofs.Reporting

/-!
# What a check tells

A check reads all documents with one reader, and tells of each what is true of
the document alone.  Its exit code tells apart that nothing can be told, that
something is found and that nothing is found.  Only a path that is too long keeps
a check from its exit code.
-/

namespace Outline

namespace Report.Result

/-- Every document is read as it is read alone. -/
theorem ofFiles_eq_map (files : FileSystem) (reading : Reading) (paths : List Path) :
    ofFiles files reading paths = paths.map (ofFile files) := by
  induction paths generalizing reading with
  | nil => rfl
  | cons path rest induction =>
      rw [ofFiles, List.map_cons, induction, Outcome.ofReading_readFile]
      rfl

end Report.Result

namespace Command

open Outline.Ignore
open Outline.Report
open Outline.Report.JsonValue
open Outline.Text

/-! ## Exit codes -/

theorem exitCodeOf_eq_exitFindings_iff (results : List Result) :
    exitCodeOf results = exitFindings ↔ ∃ result ∈ results, result.outcome.findings ≠ [] := by
  rw [exitCodeOf]
  split_ifs with clean
  · simp only [List.all_eq_true, Outcome.isClean, List.isEmpty_iff] at clean
    simpa [exitClean, exitFindings] using clean
  · simpa [Outcome.isClean] using clean

theorem exitCodeOf_eq_exitClean_iff (results : List Result) :
    exitCodeOf results = exitClean ↔ ∀ result ∈ results, result.outcome.findings = [] := by
  rw [exitCodeOf]
  split_ifs with clean
  · simpa [Outcome.isClean] using clean
  · simpa [exitClean, exitFindings, Outcome.isClean] using clean

/-! ## Paths without the null character -/

/-- No path of a check holds the null character. -/
def IsPlain (settings : Settings) : Prop :=
  (∀ path ∈ settings.paths, Path.hasNull path = false) ∧
    ∀ name ∈ settings.output, Path.hasNull name = false

instance (settings : Settings) : Decidable (IsPlain settings) :=
  inferInstanceAs (Decidable (_ ∧ _))

theorem mem_of_mem_separate {Item : Type} {separates : Item → Bool} {items part : List Item}
    (member : part ∈ separate separates items) {item : Item} (inside : item ∈ part) :
    item ∈ items := by
  induction items generalizing part with
  | nil =>
      obtain rfl := List.mem_singleton.mp member
      exact inside
  | cons first rest induction =>
      rw [separate, List.foldr_cons, ← separate] at member
      split at member
      · rcases List.mem_cons.mp member with rfl | further
        · cases inside
        · exact List.mem_cons_of_mem _ (induction further inside)
      · split at member
        · obtain rfl := List.mem_singleton.mp member
          exact List.mem_singleton.mp inside ▸ List.mem_cons_self
        · rename_i front others parts
          rcases List.mem_cons.mp member with rfl | further
          · rcases List.mem_cons.mp inside with rfl | before
            · exact List.mem_cons_self
            · exact List.mem_cons_of_mem _ (induction (parts ▸ List.mem_cons_self) before)
          · exact List.mem_cons_of_mem _
              (induction (parts ▸ List.mem_cons_of_mem _ further) inside)

theorem hasNull_of_mem_parts {name part : String} (plain : Path.hasNull name = false)
    (member : part ∈ (Path.ofString name).parts) :
    Path.hasNull part = false := by
  rcases List.mem_map.mp (List.mem_of_mem_filter member) with ⟨letters, separated, rfl⟩
  simp only [Path.hasNull, String.toList_ofList, ← Bool.not_eq_true, List.contains_iff_mem] at *
  exact fun null => plain (mem_of_mem_separate separated null)

/-- The null character is noticed only where it is. -/
theorem write_ne_nullCharacter {files : FileSystem} {path : Path} {bytes : List UInt8}
    (plain : ∀ part ∈ path.parts, Path.hasNull part = false) :
    files.write path bytes ≠ .error .nullCharacter := by
  have above : path.parent.parts.any Path.hasNull = false :=
    List.any_eq_false.mpr fun part member =>
      Bool.eq_false_iff.mp (plain part ((List.dropLast_sublist _).subset member))
  rw [FileSystem.write.eq_def]
  split
  · simp
  · rename_i name last
    rw [above, plain name (List.mem_of_getLast? last)]
    simp only [Bool.false_eq_true, if_false]
    split
    · simp
    · split_ifs
      · simp
      · split <;> simp

theorem not_writesNull {files : FileSystem} {settings : Settings} (plain : IsPlain settings) :
    ¬ WritesNull files settings := by
  rintro ⟨-, name, asked, -, null⟩
  exact write_ne_nullCharacter (fun part => hasNull_of_mem_parts (plain.2 name asked)) (null [])

/-! ## What is told -/

/-- The report is to go to a file that cannot be written. -/
def LacksOutput (files : FileSystem) (settings : Settings) : Prop :=
  settings.format = .json ∧
    ∃ name, settings.output = some name ∧ name ≠ "" ∧
      ∀ bytes, files.write (Path.ofString name) bytes = .error .refused

/-- Nothing can be told about the documents. -/
def TellsNothing (matcher : Matcher) (files : FileSystem) (settings : Settings) : Prop :=
  (∃ failure, search matcher files settings = .error failure ∧
    Crash.ofFailure? failure = none) ∨
    search matcher files settings = .ok [] ∨ LacksOutput files settings

/-- What is told in JSON about a document that is read alone. -/
def entryOf (files : FileSystem) (path : Path) : JsonValue :=
  let alone := Outcome.ofFile files path
  object
    [("ast", ofTree alone.tree),
      ("errors", array (alone.findings.map fun finding => text finding.report)),
      ("path", text path.render), ("success", bool alone.findings.isEmpty)]

/-- What is told in JSON about some documents. -/
def payload (files : FileSystem) (documents : List Path) : JsonValue :=
  object [("files", array (documents.map (entryOf files)))]

theorem ofResults_map (files : FileSystem) (documents : List Path) :
    ofResults (documents.map (Result.ofFile files)) = payload files documents := by
  rw [ofResults, payload, List.map_map]
  rfl

/-- A check tells of each document what is true of the document alone. -/
structure Tells (terminal : Terminal) (files : FileSystem) (settings : Settings)
    (documents : List Path) (completion : Completion) : Prop where
  found : completion.exitCode = exitFindings ↔
    ∃ path ∈ documents, (Outcome.ofFile files path).findings ≠ []
  clean : completion.exitCode = exitClean ↔
    ∀ path ∈ documents, (Outcome.ofFile files path).findings = []
  /-- The report is one on the documents, each of them read alone. -/
  alone : report terminal files settings (documents.map (Result.ofFile files)) = some completion
  file : settings.format = .json → ∀ name, settings.output = some name → name ≠ "" →
    ∃ text, (completion.filesAfter files).readText (Path.ofString name) = .ok text ∧
      read? text = some (payload files documents)
  /-- A terminal shows names between colons as emoji. -/
  shows : settings.format = .json → settings.output.getD "" = "" →
    read? completion.output = some ((payload files documents).mapTexts (shown terminal))

/-! ## Reports -/

section

variable {matcher : Matcher} {terminal : Terminal} {files : FileSystem} {settings : Settings}

theorem report_json (json : settings.format = .json) (results : List Result) :
    report terminal files settings results =
      reportJson terminal files settings.output results := by
  rw [report, json]

theorem reportJson_getD {output : Option String} (nothing : output.getD "" = "")
    (results : List Result) :
    reportJson terminal files output results = reportJson terminal files none results := by
  cases output with
  | none => rfl
  | some name =>
      obtain rfl : name = "" := nothing
      rfl

theorem exists_report_eq_unusable (lacks : LacksOutput files settings) (results : List Result) :
    ∃ message, report terminal files settings results = some (.unusable message) := by
  rcases lacks with ⟨json, name, output, nonempty, unwritable⟩
  rw [report_json json, output, reportJson_some nonempty, unwritable]
  exact ⟨_, rfl⟩

/-- A file that can be written is written. -/
theorem exists_write (plain : ¬ WritesNull files settings) (able : ¬ LacksOutput files settings)
    (json : settings.format = .json) {name : String} (output : settings.output = some name)
    (nonempty : name ≠ "") (bytes : List UInt8) :
    ∃ after, files.write (Path.ofString name) bytes = .ok after := by
  have always (failure : WriteFailure)
      (failed : files.write (Path.ofString name) bytes = .error failure) (others : List UInt8) :
      files.write (Path.ofString name) others = .error failure :=
    (files.write_eq_error_iff _ _ _ _).mp failed
  cases success : files.write (Path.ofString name) bytes with
  | ok after => exact ⟨after, rfl⟩
  | error failure =>
      cases failure with
      | refused => exact absurd ⟨json, name, output, nonempty, always _ success⟩ able
      | nullCharacter => exact absurd ⟨json, name, output, nonempty, always _ success⟩ plain

theorem exists_report (plain : ¬ WritesNull files settings) (able : ¬ LacksOutput files settings)
    (results : List Result) :
    ∃ completion, report terminal files settings results = some completion ∧
      completion.exitCode = exitCodeOf results ∧
      (settings.format = .json → settings.output.getD "" ≠ "" →
        completion.written.isSome = true) := by
  cases json : settings.format with
  | table => exact ⟨_, by rw [report, json], rfl, fun other => by cases other⟩
  | tree => exact ⟨_, by rw [report, json], rfl, fun other => by cases other⟩
  | json =>
      by_cases nothing : settings.output.getD "" = ""
      · refine ⟨_, by rw [report_json json, reportJson_getD nothing, reportJson_none], rfl, ?_⟩
        exact fun _ something => absurd nothing something
      · cases output : settings.output with
        | none => simp [output] at nothing
        | some name =>
            have nonempty : name ≠ "" := by simpa [output] using nothing
            rcases exists_write plain able json output nonempty
              (ofResults results).render.toUTF8.toList with ⟨after, success⟩
            refine ⟨_, by rw [report_json json, output, reportJson_some nonempty, success], rfl, ?_⟩
            exact fun _ _ => rfl

theorem exists_tells (lawful : terminal.Replaces) (plain : ¬ WritesNull files settings)
    (able : ¬ LacksOutput files settings) (documents : List Path) :
    ∃ completion,
      report terminal files settings (documents.map (Result.ofFile files)) = some completion ∧
        Tells terminal files settings documents completion := by
  rcases exists_report plain able (documents.map (Result.ofFile files)) with
    ⟨completion, reported, code, writes⟩
  refine ⟨completion, reported, ?_, ?_, reported, ?_, ?_⟩
  · rw [code, exitCodeOf_eq_exitFindings_iff]
    simp [Result.ofFile]
  · rw [code, exitCodeOf_eq_exitClean_iff]
    simp [Result.ofFile]
  · intro json name output nonempty
    have written := writes json (by simpa [output] using nonempty)
    rw [report_json json, output] at reported
    rw [← ofResults_map]
    exact ⟨_, readText_filesAfter reported written, read?_render _⟩
  · intro json nothing
    rw [report_json json, reportJson_getD nothing, reportJson_none] at reported
    cases reported
    rw [← ofResults_map]
    exact read?_display_ofResults lawful _

/-! ## Checks -/

/-- What a check comes to. -/
structure Concludes (matcher : Matcher) (terminal : Terminal) (files : FileSystem)
    (settings : Settings) (completion : Completion) : Prop where
  unusable : completion.exitCode = exitUnusable ↔ TellsNothing matcher files settings
  silent : TellsNothing matcher files settings → completion.output = ""
  tells : ¬ TellsNothing matcher files settings →
    ∃ documents, search matcher files settings = .ok documents ∧
      Tells terminal files settings documents completion

theorem concludes_unusable (nothing : TellsNothing matcher files settings) (message : String) :
    Concludes matcher terminal files settings (.unusable message) where
  unusable := iff_of_true rfl nothing
  silent := fun _ => rfl
  tells := fun something => absurd nothing something

theorem concludes_tells {documents : List Path} {completion : Completion}
    (searched : search matcher files settings = .ok documents) (nonempty : documents ≠ [])
    (able : ¬ LacksOutput files settings)
    (tells : Tells terminal files settings documents completion) :
    Concludes matcher terminal files settings completion := by
  have something : ¬ TellsNothing matcher files settings := by
    rintro (⟨failure, failed, -⟩ | nothing | lacks)
    · rw [searched] at failed
      cases failed
    · rw [searched] at nothing
      exact nonempty (Except.ok.inj nothing)
    · exact able lacks
  refine ⟨iff_of_false ?_ something, fun nothing => absurd nothing something,
    fun _ => ⟨documents, searched, tells⟩⟩
  by_cases found : ∃ path ∈ documents, (Outcome.ofFile files path).findings ≠ []
  · rw [tells.found.mpr found]
    decide
  · rw [tells.clean.mpr (by simpa using found)]
    decide

theorem check_of_documents {documents : List Path}
    (searched : search matcher files settings = .ok documents) (nonempty : documents ≠ [])
    {completion : Completion}
    (reported : report terminal files settings (documents.map (Result.ofFile files)) =
      some completion) :
    check matcher terminal files settings = .ok completion := by
  rcases List.exists_cons_of_ne_nil nonempty with ⟨first, rest, rfl⟩
  rw [search] at searched
  rw [check, searched]
  simp only [Result.ofFiles_eq_map, reported]

/-- A check that nothing ends comes to an exit code. -/
theorem exists_concludes (lawful : terminal.Replaces) (plain : ¬ WritesNull files settings)
    (returns : ∀ crash, check matcher terminal files settings ≠ .error crash) :
    ∃ completion, check matcher terminal files settings = .ok completion ∧
      Concludes matcher terminal files settings completion := by
  cases searched : search matcher files settings with
  | error failure =>
      have told : Crash.ofFailure? failure = none := by
        by_contra crashes
        rcases Option.ne_none_iff_exists'.mp crashes with ⟨crash, untold⟩
        exact returns crash ((check_eq_error_of_search searched crash).mpr untold)
      refine ⟨.unusable (failure.message matcher.message), ?_,
        concludes_unusable (.inl ⟨failure, searched, told⟩) _⟩
      rw [search] at searched
      rw [check, searched]
      simp only [told]
  | ok documents =>
      by_cases empty : documents = []
      · subst empty
        refine ⟨_, ?_, concludes_unusable (.inr (.inl searched)) "No .mcbc files found."⟩
        rw [search] at searched
        rw [check, searched]
      · by_cases lacks : LacksOutput files settings
        · rcases exists_report_eq_unusable lacks (documents.map (Result.ofFile files)) with
            ⟨message, told⟩
          exact ⟨.unusable message, check_of_documents searched empty told,
            concludes_unusable (.inr (.inr lacks)) message⟩
        · rcases exists_tells lawful plain lacks documents with ⟨completion, reported, tells⟩
          exact ⟨completion, check_of_documents searched empty reported,
            concludes_tells searched empty lacks tells⟩

/-- If all lines are read, only a path that is too long ends a search without a message. -/
theorem eq_tooLong_of_endsSearch {paths : List Path} {exclusions : List String}
    (usable : AllUsable matcher files paths exclusions) {crash : Crash matcher.Fault}
    (ends : EndsSearch matcher files paths exclusions crash) :
    ∃ far, crash = .tooLong far := by
  rcases ends with ⟨before, path, after, rfl, -, breaks⟩
  cases breaks with
  | @line lines read further line fault found whole earlier refused =>
      rcases usable path (by simp) lines found line (by simp [whole]) with ⟨rule?, succeeds⟩
      exact nomatch succeeds.symm.trans refused
  | path far => exact ⟨path, rfl⟩
  | below => exact ⟨_, rfl⟩

end

/-- Two documents, of which one is faulty, and one that is ignored. -/
def mixed : FileSystem where
  root := .directory
    [("docs", .directory
      [(".gitignore", .file "c.mcbc".toUTF8.toList), ("b.mcbc", .file "class: B".toUTF8.toList),
        ("a.mcbc", .file "bogus: a".toUTF8.toList), ("c.mcbc", .file "bogus: c".toUTF8.toList)])]
  home := ["docs"]

/-- A check of all of them, and of one of them once more. -/
def mixedSettings : Settings where
  paths := [".", "/docs/b.mcbc"]
  format := .json
  output := some "../out/report.json"
  exclusions := ["d.mcbc"]

/-- The documents that the check finds. -/
def mixedDocuments : List Path :=
  ["a.mcbc", "b.mcbc", "/docs/b.mcbc"].map Path.ofString

theorem search_mixed : search versionControl mixed mixedSettings = .ok mixedDocuments := by
  decide +kernel

theorem separate_letters (count : Nat) :
    separate (· = '/') (List.replicate count 'a') = [List.replicate count 'a'] := by
  induction count with
  | zero => rfl
  | succ count induction =>
      rw [List.replicate_succ, separate, List.foldr_cons, ← separate, induction]
      rfl

theorem ofString_letters {count : Nat} (nonempty : 0 < count) :
    Path.ofString (letters count) = { parts := [letters count] } := by
  have named : letters count ≠ "" ∧ letters count ≠ "." :=
    ⟨letters_ne nonempty (by decide), letters_ne nonempty (by decide)⟩
  have anchor : Path.anchorOf (List.replicate count 'a') = "" := by
    cases count <;> rfl
  rw [Path.ofString, letters, String.toList_ofList, separate_letters, anchor, List.map_singleton,
    ← letters]
  simp [named]

section

variable {count : Nat} (long : 255 < count) (short : count ≤ 4095)

include long short

theorem allUsable_letters (exclusions : List String) :
    AllUsable versionControl { root := .directory [] } ([letters count].map Path.ofString)
      exclusions := by
  rw [List.map_singleton, ofString_letters (by omega)]
  intro path member lines found
  obtain rfl := List.mem_singleton.mp member
  rw [linesAt?, at?_letters long short] at found
  cases found

theorem check_letters :
    check versionControl Emoji.terminal { root := .directory [] } { paths := [letters count] } =
      .error (.tooLong { parts := [letters count] }) := by
  rw [check, List.map_singleton, ofString_letters (by omega), findDocuments_letters long short]
  rfl

end

end Command

end Outline
