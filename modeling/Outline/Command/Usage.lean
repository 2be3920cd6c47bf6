import Outline.Command.Words
import Outline.Text.Quoted

/-!
# How the command is used

A command line that asks for help, or that is misused, is answered with a page
of text.
-/

namespace Outline.Command

open Outline.Text

/-- What a page is about. -/
inductive Page where
  | program
  | check
  deriving DecidableEq

namespace Page

/-- The words that call what the page is about. -/
def call : Page → String
  | program => "mcbc"
  | check => "mcbc check"

/-- The short text of a page. -/
def usage : Page → String
  | program => "usage: mcbc [-h] \x7bcheck\x7d ...\n"
  | check =>
    "usage: mcbc check [-h] [--format \x7btable,tree,json\x7d] [--output OUTPUT]\n"
      ++ "                  [--exclude EXCLUDE] [--verbose]\n"
      ++ "                  paths [paths ...]\n"

/-- The text of a page below its short text. -/
def details : Page → String
  | program =>
    "\npositional arguments:\n  \x7bcheck\x7d\n\noptions:\n"
      ++ "  -h, --help  show this help message and exit\n"
  | check =>
    "\npositional arguments:\n"
      ++ "  paths                 MCBC files or directories to check.\n"
      ++ "\noptions:\n"
      ++ "  -h, --help            show this help message and exit\n"
      ++ "  --format \x7btable,tree,json\x7d\n"
      ++ "                        Output format.\n"
      ++ "  --output OUTPUT       Optional output file path for raw JSON when --format\n"
      ++ "                        json is used.\n"
      ++ "  --exclude EXCLUDE     Gitignore-style pattern to skip inside directories;\n"
      ++ "                        repeatable.\n"
      ++ "  --verbose             Enable debug logging.\n"

end Page

/-- What is wrong with a command line. -/
inductive Misuse where
  /-- A value that must be given is missing. -/
  | missing (argument : String)
  /-- A value is none of those that may be chosen. -/
  | invalidChoice (argument value : String) (choices : List String)
  /-- An option stands without its value. -/
  | valueExpected (flag : Flag)
  /-- An option has a value that it cannot have. -/
  | valueIgnored (flag : Flag) (value : String)
  /-- A word is short for several options. -/
  | ambiguous (word : String) (names : List String)
  /-- Words are left over. -/
  | unrecognised (words : List String)
  deriving DecidableEq

/-- The wording of a misuse. -/
def Misuse.message : Misuse → String
  | missing argument => "the following arguments are required: " ++ argument
  | invalidChoice argument value choices =>
    "argument " ++ argument ++ ": invalid choice: " ++ quoted value ++ " (choose from "
      ++ String.intercalate ", " (choices.map quoted) ++ ")"
  | valueExpected flag => "argument " ++ flag.title ++ ": expected one argument"
  | valueIgnored flag value =>
    "argument " ++ flag.title ++ ": ignored explicit argument " ++ quoted value
  | ambiguous word names =>
    "ambiguous option: " ++ word ++ " could match " ++ String.intercalate ", " names
  | unrecognised words => "unrecognized arguments: " ++ String.intercalate " " words

/-- Why a command line is not carried out. -/
inductive Refusal where
  | help (page : Page)
  | misused (page : Page) (misuse : Misuse)
  deriving DecidableEq

namespace Refusal

/-- What a refusal writes to standard output. -/
def output : Refusal → String
  | help page => page.usage ++ page.details
  | misused .. => ""

/-- What a refusal writes to standard error. -/
def errors : Refusal → String
  | help _ => ""
  | misused page misuse => page.usage ++ page.call ++ ": error: " ++ misuse.message ++ "\n"

end Refusal

end Outline.Command
