import Hyperscript.Tree.Place

/-!
# Diagnostics

What a run has to report. The collection only grows: records are appended, in the order in which
they are made. Each record that an operation makes is also a line for the log.
-/
namespace Hyperscript

inductive Severity where
  | debug | info | warning | error
  deriving DecidableEq, Repr

namespace Severity

def rank : Severity → Nat
  | .debug => 0
  | .info => 1
  | .warning => 2
  | .error => 3

instance : LE Severity := ⟨fun a b => a.rank ≤ b.rank⟩

instance (a b : Severity) : Decidable (a ≤ b) := inferInstanceAs (Decidable (a.rank ≤ b.rank))

def label : Severity → Text
  | .debug => "DEBUG"
  | .info => "INFO"
  | .warning => "WARNING"
  | .error => "ERROR"

end Severity

/-- A line for the log. -/
structure LogLine where
  severity : Severity
  text : Text
  deriving DecidableEq, Repr

def LogLine.toText (l : LogLine) : Text := l.severity.label ++ ": " ++ l.text

structure Diagnostic where
  severity : Severity
  message : Text
  /-- The part of the work that reports: parsing, transform, emission. -/
  stage : Text
  place : Place := .nowhere
  deriving DecidableEq, Repr

namespace Diagnostic

/-- `SEVERITY [stage:place]: message`; a place with neither file nor line is left out. -/
def toText (d : Diagnostic) : Text :=
  let known := d.place.file?.isSome || 0 < d.place.line
  let context := d.stage :: (if known then [d.place.toText] else [])
  d.severity.label ++ " [" ++ Text.join ":" context ++ "]: " ++ d.message

def logLine (d : Diagnostic) : LogLine := ⟨d.severity, d.toText⟩

end Diagnostic

/-- What a caller knows of a problem. -/
structure Report where
  message : Text
  /-- The stage; without one, or with an empty one, the collection's own is used. -/
  stage : Option Text := none
  place : Place := .nowhere
  /-- The place of the node that the report is about. It counts only if no line is given, and its
  file only if no file is given. -/
  subject : Option Place := none

def Report.resolved (r : Report) : Place :=
  match r.subject with
  | some p => if r.place.line = 0 then { p with file := r.place.file <|> p.file } else r.place
  | none => r.place

structure Diagnostics where
  /-- Informational messages are recorded. -/
  verbose : Bool
  /-- An error is raised to the caller once it is recorded. -/
  raising : Bool := false
  /-- The stage of reports that name none. -/
  stage : Text := "unknown"
  records : List Diagnostic := []
  errors : Nat := 0

namespace Diagnostics

/-- The levels at which informational messages are shown. -/
def isVerboseLevel (level : Text) : Bool :=
  [Text.ofString "debug", Text.ofString "info"].contains level.lower

/-- An empty collection for a level of verbosity. -/
def ofLevel (level : Text) (raising : Bool) : Diagnostics :=
  { verbose := isVerboseLevel level, raising }

def diagnose (d : Diagnostics) (severity : Severity) (r : Report) : Diagnostic :=
  ⟨severity, r.message, (r.stage.filter (!·.isEmpty)).getD d.stage, r.resolved⟩

/-- Appends a record as it is. -/
def record (d : Diagnostics) (entry : Diagnostic) : Diagnostics :=
  { d with records := d.records ++ [entry] }

def info (d : Diagnostics) (r : Report) : Diagnostics × List LogLine :=
  if d.verbose then
    let entry := d.diagnose .info r
    (d.record entry, [entry.logLine])
  else (d, [])

def error (d : Diagnostics) (r : Report) : Diagnostics × List LogLine :=
  let entry := d.diagnose .error r
  ({ d.record entry with errors := d.errors + 1 }, [entry.logLine])

/-- The diagnostic that an error with this report raises to the caller. -/
def raised? (d : Diagnostics) (r : Report) : Option Diagnostic :=
  if d.raising then some (d.diagnose .error r) else none

def hasErrors (d : Diagnostics) : Bool := 0 < d.errors

/-- The messages of at least the given severity, in the order of recording. -/
def messages (d : Diagnostics) (least : Severity) : List Text :=
  (d.records.filter fun entry => least ≤ entry.severity).map Diagnostic.toText

/-- Makes several reports for information, one after the other. -/
def infos (d : Diagnostics) : List Report → Diagnostics × List LogLine
  | [] => (d, [])
  | r :: rest =>
    let (d, lines) := d.info r
    let (d, more) := d.infos rest
    (d, lines ++ more)

end Diagnostics

end Hyperscript
