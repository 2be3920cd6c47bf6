import Outline.Command.Settings
import Outline.Report.Json
import Outline.Report.Table
import Outline.Report.Terminal
import Outline.Report.TreeView
import Outline.Sources

/-!
# Checking documents

A check finds the documents at the paths of its settings, reads them one after
the other and reports on all of them.  Its exit code tells whether something was
found.
-/

namespace Outline.Command

open Outline.Report

/-- The exit code when nothing is found. -/
def exitClean : Nat :=
  0

/-- The exit code when something is found. -/
def exitFindings : Nat :=
  1

/-- The exit code when nothing can be checked or reported. -/
def exitUnusable : Nat :=
  2

/-- What a check does. -/
structure Completion where
  exitCode : Nat
  output : String := ""
  errors : String := ""
  written : Option (Path × String) := none

/-- A check that does nothing but to say why. -/
def Completion.unusable (message : String) : Completion where
  exitCode := exitUnusable
  errors := message ++ "\n"

/-- The files after a check. -/
def Completion.filesAfter (completion : Completion) (files : FileSystem) : FileSystem :=
  match completion.written with
  | none => files
  | some (path, text) => (files.write path text.toUTF8.toList).toOption.getD files

/-- Why a check comes to no end of its own. -/
inductive Crash (Fault : Type) where
  | faultyRule (fault : Fault)
  /-- A path that is looked at is too long, or a name in it. -/
  | tooLong (path : Path)
  /-- The path of the report holds the null character. -/
  | nullCharacter
  deriving DecidableEq

/-- The crash that a failed search comes to, if it is not told as a message. -/
def Crash.ofFailure? {Fault : Type} : SearchFailure Fault → Option (Crash Fault)
  | .missing _ | .unreadableRules .. => none
  | .tooLong path => some (.tooLong path)
  | .faultyRule fault => some (.faultyRule fault)

/-- The wording of a crash, given that of faulty rules. -/
def Crash.message {Fault : Type} (ofFault : Fault → String) : Crash Fault → String
  | faultyRule fault => ofFault fault
  | tooLong path => ReadFailure.nameTooLong.message path.render
  | nullCharacter => "embedded null byte"

/-- The exit code for some results. -/
def exitCodeOf (results : List Result) : Nat :=
  if results.all fun result => result.outcome.isClean then exitClean else exitFindings

section

variable (matcher : Ignore.Matcher) (terminal : Terminal) (files : FileSystem)

/--
Reports as JSON, in a file or on a terminal.  There is no report if the path of
the file holds the null character.
-/
def reportJson (output : Option String) (results : List Result) : Option Completion :=
  let text := (JsonValue.ofResults results).render
  match output with
  | none | some "" =>
    some { exitCode := exitCodeOf results, output := terminal.display text ++ "\n" }
  | some name =>
    let path := Path.ofString name
    match files.write path text.toUTF8.toList with
    | .error .nullCharacter => none
    | .error .refused => some (.unusable ("Failed to write JSON output file: " ++ name))
    | .ok _ => some { exitCode := exitCodeOf results, written := some (path, text) }

/-- Reports on some results. -/
def report (settings : Settings) (results : List Result) : Option Completion :=
  match settings.format with
  | .json => reportJson terminal files settings.output results
  | .tree => some { exitCode := exitCodeOf results, output := TreeView.render results }
  | .table => some { exitCode := exitCodeOf results, output := Table.render results }

/-- Checks documents; some failures end a check without any report. -/
def check (settings : Settings) : Except (Crash matcher.Fault) Completion :=
  match findDocuments matcher files (settings.paths.map Path.ofString) settings.exclusions with
  | .error failure =>
    match Crash.ofFailure? failure with
    | none => .ok (.unusable (failure.message matcher.message))
    | some crash => .error crash
  | .ok [] => .ok (.unusable "No .mcbc files found.")
  | .ok (first :: rest) =>
    match report terminal files settings (Result.ofFiles files .initial (first :: rest)) with
    | none => .error .nullCharacter
    | some completion => .ok completion

/-- Carries out a command line; a refusal is silent. -/
def run (arguments : List String) : Except (Crash matcher.Fault) Completion :=
  match Settings.ofArguments arguments with
  | .error _ => .ok { exitCode := exitUnusable }
  | .ok settings => check matcher terminal files settings

/-- Carries out a command line; a refusal shows its page. -/
def runShown (arguments : List String) : Except (Crash matcher.Fault) Completion :=
  match Settings.ofArguments arguments with
  | .error refusal =>
    .ok { exitCode := exitUnusable, output := refusal.output, errors := refusal.errors }
  | .ok settings => check matcher terminal files settings

end

end Outline.Command
