import Outline.Command.Usage

/-!
# What a command line asks for

A command line is read from left to right, and the first fault in it counts.
The paths stand together: values after an option that follows the paths are left
over.
-/

namespace Outline.Command

/-- The formats of a report. -/
inductive Format where
  | table
  | tree
  | json
  deriving DecidableEq

namespace Format

/-- The name of a format. -/
def label : Format → String
  | table => "table"
  | tree => "tree"
  | json => "json"

/-- All formats. -/
def all : List Format :=
  [table, tree, json]

/-- The format of a name. -/
def ofLabel? (label : String) : Option Format :=
  all.find? fun format => format.label = label

end Format

/-- What to check, and how to report it. -/
structure Settings where
  paths : List String := []
  format : Format := .table
  output : Option String := none
  exclusions : List String := []
  verbose : Bool := false
  deriving DecidableEq

/-- What is known after some words. -/
structure Progress where
  settings : Settings := {}
  /-- Whether the word before was a path. -/
  inPaths : Bool := false
  /-- The words that are left over. -/
  unrecognised : List String := []

namespace Progress

/-- The options of the command. -/
def flags : List Flag :=
  [.help, .format, .output, .exclude, .verbose]

/-- A word is left over. -/
def leaveOver (progress : Progress) (word : String) : Progress :=
  { progress with unrecognised := progress.unrecognised ++ [word] }

/-- Reads a value that belongs to no option. -/
def readValue (progress : Progress) (text : String) : Progress :=
  if progress.inPaths || progress.settings.paths.isEmpty then
    { progress with
      settings := { progress.settings with paths := progress.settings.paths ++ [text] }
      inPaths := true }
  else
    progress.leaveOver text

/-- Reads two dashes, before more words or at the end. -/
def readSeparator (progress : Progress) (isLast : Bool) : Progress :=
  if progress.inPaths || (progress.settings.paths.isEmpty && !isLast) then
    progress
  else
    progress.leaveOver "--"

/-- Gives a value to an option. -/
def assign (progress : Progress) (flag : Flag) (value : String) : Except Refusal Progress :=
  let update (settings : Settings) := { progress with settings, inPaths := false }
  match flag with
  | .format =>
    match Format.ofLabel? value with
    | some format => .ok (update { progress.settings with format })
    | none =>
      .error (.misused .check (.invalidChoice flag.title value (Format.all.map Format.label)))
  | .output => .ok (update { progress.settings with output := some value })
  | .exclude =>
    .ok (update { progress.settings with exclusions := progress.settings.exclusions ++ [value] })
  | .help | .verbose => .error (.misused .check (.valueIgnored flag value))

/-- Carries out an option that has no value. -/
def switch (progress : Progress) (flag : Flag) : Except Refusal Progress :=
  match flag with
  | .help => .error (.help .check)
  | .verbose =>
    .ok { progress with settings := { progress.settings with verbose := true }, inPaths := false }
  | .format | .output | .exclude => .error (.misused .check (.valueExpected flag))

end Progress

/--
What becomes of the characters behind a request for help in one letter.  The
same letter repeats the request; from the first other character on they are a
value that cannot be given, and so is no character at all.
-/
def helpWith (page : Page) : List Char → Refusal
  | ['h'] => .help page
  | 'h' :: rest => helpWith page rest
  | value => .misused page (.valueIgnored .help (String.ofList value))

/-- What becomes of an option that is written in one word with a text. -/
def Progress.attach (progress : Progress) (flag : Flag) : Attached → Except Refusal Progress
  | .assigned text => progress.assign flag text
  | .joined text => .error (helpWith .check text.toList)

/-- Reads the words after the name of the command. -/
def readWords (progress : Progress) : List Word → Except Refusal Progress
  | [] => .ok progress
  | .separator :: rest => readWords (progress.readSeparator rest.isEmpty) rest
  | .value text :: rest => readWords (progress.readValue text) rest
  | .unknown text :: rest => readWords { progress.leaveOver text with inPaths := false } rest
  | .ambiguous word names :: _ => .error (.misused .check (.ambiguous word names))
  | .option flag (some attached) :: rest =>
    match progress.attach flag attached with
    | .error refusal => .error refusal
    | .ok next => readWords next rest
  | .option flag none :: .value text :: rest =>
    if flag.takesValue then
      match progress.assign flag text with
      | .error refusal => .error refusal
      | .ok next => readWords next rest
    else
      match progress.switch flag with
      | .error refusal => .error refusal
      | .ok next => readWords next (.value text :: rest)
  | .option flag none :: rest =>
    match progress.switch flag with
    | .error refusal => .error refusal
    | .ok next => readWords next rest

/-- The first word that is short for several options. -/
def firstAmbiguous? (words : List Word) : Option Misuse :=
  words.findSome? fun word =>
    match word with
    | .ambiguous text names => some (.ambiguous text names)
    | _ => none

/-- Reads the command line of the command; the words left over are given apart. -/
def readCheck (arguments : List String) : Except Refusal (Settings × List String) :=
  let words := Word.ofArguments Progress.flags arguments
  match firstAmbiguous? words with
  | some misuse => .error (.misused .check misuse)
  | none =>
    match readWords {} words with
    | .error refusal => .error refusal
    | .ok progress =>
      if progress.settings.paths.isEmpty then
        .error (.misused .check (.missing "paths"))
      else
        .ok (progress.settings, progress.unrecognised)

/-- The name of the command. -/
def checkName : String :=
  "check"

/-- Refuses a word in the place of the name of the command. -/
def notACommand (word : String) : Refusal :=
  .misused .program (.invalidChoice "command" word [checkName])

/--
Reads a whole command line; some words before the name of the command are left
over.
-/
def readProgram (unrecognised : List String) : List String → Except Refusal Settings
  | [] => .error (.misused .program (.missing "command"))
  | text :: rest =>
    if text = "--" then
      if rest.isEmpty then
        .error (.misused .program (.missing "command"))
      else
        .error (notACommand text)
    else
      match Word.ofText [.help] text with
      | .option _ none => .error (.help .program)
      | .option flag (some (.assigned value)) =>
        .error (.misused .program (.valueIgnored flag value))
      | .option _ (some (.joined letters)) => .error (helpWith .program letters.toList)
      | .unknown _ | .ambiguous .. => readProgram (unrecognised ++ [text]) rest
      | .value _ | .separator =>
        if text = checkName then
          match readCheck rest with
          | .error refusal => .error refusal
          | .ok (settings, further) =>
            if (unrecognised ++ further).isEmpty then
              .ok settings
            else
              .error (.misused .program (.unrecognised (unrecognised ++ further)))
        else
          .error (notACommand text)

/-- What a command line asks for. -/
def Settings.ofArguments (arguments : List String) : Except Refusal Settings :=
  readProgram [] arguments

end Outline.Command
