/-!
# Events of a reading

While a document is read, the scopes that open and close are recorded, and so is
where the reading resumes after a line that could not be placed.
-/

namespace Outline

/-- How much detail an event belongs to. -/
inductive Level where
  | debug
  | info
  deriving DecidableEq

/-- The word for a level. -/
def Level.label : Level → String
  | .debug => "DEBUG"
  | .info => "INFO"

/-- Something that happens while a document is read. -/
inductive Event where
  /-- A scope is opened; `depth` scopes are open after that. -/
  | opened (name : String) (depth : Nat)
  /-- A scope is closed; `depth` scopes are open after that. -/
  | closed (name : String) (depth : Nat)
  /-- The reading goes on at a line after one that could not be placed. -/
  | resumed (failedLine resumeLine : Int)
  /-- All lines after one that could not be placed are passed over. -/
  | abandoned (failedLine : Int)
  | completed (source : String) (nodes findings : Nat)
  deriving DecidableEq

namespace Event

/-- Only the end of a reading is a summary. -/
def level : Event → Level
  | completed .. => .info
  | _ => .debug

/-- The wording of an event. -/
def message : Event → String
  | opened name depth => "Scope pushed (name=" ++ name ++ " depth=" ++ toString depth ++ ")"
  | closed name depth => "Scope popped (name=" ++ name ++ " depth=" ++ toString depth ++ ")"
  | resumed failedLine resumeLine =>
    "Resynchronized after structural error (failed_line=" ++ toString failedLine ++ " resume_line="
      ++ toString resumeLine ++ ")"
  | abandoned failedLine =>
    "No synchronization point after structural error (failed_line=" ++ toString failedLine ++ ")"
  | completed source nodes findings =>
    "Parse completed (source=" ++ source ++ " nodes=" ++ toString nodes ++ " errors="
      ++ toString findings ++ ")"

end Event

end Outline
