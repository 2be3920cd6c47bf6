import Outline.Proofs.JsonShowing
import Outline.Proofs.Writing

/-!
# Where a report goes

A report in JSON goes to a file or through a terminal.  Both are read back here:
the file holds the payload of the report, the terminal shows names between
colons as emoji.  Nothing is asked of the terminal but that it replaces such
names and no more.
-/

namespace Outline.Command

open Outline.Report
open Outline.Report.JsonValue
open Outline.Report.Emoji

section

variable {terminal : Terminal} {files : FileSystem} {results : List Result}

/-- A report with the name of a file depends on whether the file can be written. -/
theorem reportJson_some {name : String} (nonempty : name ≠ "") :
    reportJson terminal files (some name) results =
      match files.write (Path.ofString name) (ofResults results).render.toUTF8.toList with
      | .error .nullCharacter => none
      | .error .refused => some (.unusable ("Failed to write JSON output file: " ++ name))
      | .ok _ =>
        some
          { exitCode := exitCodeOf results
            written := some (Path.ofString name, (ofResults results).render) } :=
  reportJson.eq_3 terminal files results name nonempty

theorem reportJson_none :
    reportJson terminal files none results =
      some
        { exitCode := exitCodeOf results
          output := terminal.display (ofResults results).render ++ "\n" } :=
  rfl

/-- A report that is written to a file writes its payload. -/
theorem exists_write_of_reportJson {name : String} {completion : Completion}
    (reported : reportJson terminal files (some name) results = some completion)
    (written : completion.written.isSome = true) :
    ∃ after, files.write (Path.ofString name) (ofResults results).render.toUTF8.toList =
        .ok after ∧
      completion.written = some (Path.ofString name, (ofResults results).render) := by
  by_cases empty : name = ""
  · subst empty
    cases reported
    cases written
  · rw [reportJson_some empty] at reported
    split at reported
    · cases reported
    · cases reported
      cases written
    · rename_i after success
      cases reported
      exact ⟨after, success, rfl⟩

/-- The file of a report holds the payload. -/
theorem readText_filesAfter {name : String} {completion : Completion}
    (reported : reportJson terminal files (some name) results = some completion)
    (written : completion.written.isSome = true) :
    (completion.filesAfter files).readText (Path.ofString name) =
      .ok (ofResults results).render := by
  rcases exists_write_of_reportJson reported written with ⟨after, success, target⟩
  have free : '\r' ∉ (ofResults results).render.toList := fun member =>
    absurd (isWritten_render _ _ member) (by decide)
  rw [Completion.filesAfter, target]
  simp only [success, Except.toOption, Option.getD_some]
  exact FileSystem.readText_of_write free success

/-- What is shown of a report is read as the payload with its names replaced. -/
theorem read?_display_ofResults (lawful : terminal.Replaces) (results : List Result) :
    read? (terminal.display (ofResults results).render ++ "\n") =
      some ((ofResults results).mapTexts (shown terminal)) :=
  read?_display_render lawful (colon_not_mem_names_ofResults results)

end

theorem shown_eq_self_iff {terminal : Terminal} (lawful : terminal.Replaces) (text : String) :
    shown terminal text = text ↔
      ∀ name ∈ namesIn text.toList, emojiFor? terminal name = none := by
  have free (name emoji : List Char) (known : emojiFor? terminal name = some emoji) :
      ':' ∉ emoji :=
    fun member => ((isSafe_iff ':').mp (lawful.safe known ':' member)).1 rfl
  rw [← showText_eq_self_iff free, shown, ← String.toList_inj, String.toList_ofList]

/--
A report that goes to a file is read from there as its payload.  A report that
goes through a terminal is read as the payload with names shown as emoji, which
is the payload if and only if no text in it holds the name of an emoji between
two colons.
-/
theorem reportJson_agrees_iff {terminal : Terminal} (lawful : terminal.Replaces)
    (files : FileSystem) (results : List Result) :
    (∀ name completion, reportJson terminal files (some name) results = some completion →
      completion.written.isSome = true →
        ∃ text, (completion.filesAfter files).readText (Path.ofString name) = .ok text ∧
          read? text = some (ofResults results)) ∧
      ∃ completion, reportJson terminal files none results = some completion ∧
        read? completion.output = some ((ofResults results).mapTexts (shown terminal)) ∧
        (read? completion.output = some (ofResults results) ↔
          ∀ text ∈ (ofResults results).texts,
            ∀ name ∈ namesIn text.toList, emojiFor? terminal name = none) := by
  constructor
  · intro name completion reported written
    exact ⟨_, readText_filesAfter reported written, read?_render _⟩
  · have read := read?_display_ofResults lawful results
    refine ⟨_, reportJson_none, read, ?_⟩
    rw [read, Option.some.injEq, mapTexts_eq_self_iff]
    exact forall₂_congr fun text _ => shown_eq_self_iff lawful text

/-- A document whose description holds a letter between two colons. -/
def lettered : FileSystem where
  root := .directory
    [("work", .directory [("a.mcbc", .file "class: A\n    description: :a:".toUTF8.toList)])]
  home := ["work"]

/-- The results of a check of the document. -/
def letteredResults : List Result :=
  Result.ofFiles lettered .initial [Path.ofString "a.mcbc"]

theorem mem_texts_letteredResults : ":a:" ∈ (ofResults letteredResults).texts := by
  decide +kernel

theorem emojiFor?_letter : emojiFor? Emoji.terminal ['a'] ≠ none := by
  decide +kernel

/-- The report is written to a file beside the directory, and shown with another text. -/
theorem reportJson_agrees_iff_lettered :
    (∃ completion text,
      reportJson Emoji.terminal lettered (some "/out/report.json") letteredResults =
          some completion ∧
        (completion.filesAfter lettered).readText (Path.ofString "/out/report.json") = .ok text ∧
        read? text = some (ofResults letteredResults)) ∧
      ∃ completion,
        reportJson Emoji.terminal lettered none letteredResults = some completion ∧
        read? completion.output ≠ some (ofResults letteredResults) := by
  rcases reportJson_agrees_iff replaces_terminal lettered letteredResults with
    ⟨file, completion, shows, -, same⟩
  constructor
  · have writes : ((reportJson Emoji.terminal lettered (some "/out/report.json")
        letteredResults).bind Completion.written).isSome = true := by
      decide +kernel
    rcases Option.isSome_iff_exists.mp writes with ⟨target, bound⟩
    rcases Option.bind_eq_some_iff.mp bound with ⟨written, reported, known⟩
    rcases file _ written reported (by rw [known]; rfl) with ⟨text, found, payload⟩
    exact ⟨written, text, reported, found, payload⟩
  · refine ⟨completion, shows, fun agrees => emojiFor?_letter ?_⟩
    exact same.mp agrees ":a:" mem_texts_letteredResults ['a'] (by decide +kernel)

/-- So a terminal may show a report that is not read as its payload. -/
theorem not_forall_read?_reportJson :
    ¬ ∀ files results completion,
      reportJson Emoji.terminal files none results = some completion →
        read? completion.output = some (ofResults results) := by
  intro always
  have same := always lettered letteredResults _ reportJson_none
  rw [read?_display_ofResults replaces_terminal, Option.some.injEq, mapTexts_eq_self_iff] at same
  have unknown := (shown_eq_self_iff replaces_terminal ":a:").mp
    (same ":a:" mem_texts_letteredResults) ['a'] (by decide +kernel)
  exact emojiFor?_letter unknown

end Outline.Command
