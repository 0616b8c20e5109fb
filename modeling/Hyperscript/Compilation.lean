import Hyperscript.Grammar.Parser
import Hyperscript.Lowering.Lowerer
import Hyperscript.Tree.Printer

/-!
# Compilation

A source is parsed, lowered and printed. A source that is refused is reported as a diagnostic, and
nothing is emitted once an error is recorded; a fault stops the compilation without a verdict.
-/
namespace Hyperscript

open Lowering (Config Lowerer)

inductive Verdict where
  | accepted (code : Text)
  /-- The source breaks the grammar. -/
  | parsingFailed
  /-- The source has what cannot be lowered. -/
  | transformFailed
  /-- An error is recorded by the time the code is printed. -/
  | emissionFailed
  deriving DecidableEq, Repr

namespace Verdict

def isAccepted : Verdict → Bool
  | .accepted _ => true
  | _ => false

/-- The code, or what is said instead. -/
def text : Verdict → Text
  | .accepted code => code
  | .parsingFailed => "Parsing failed"
  | .transformFailed => "JSX transform failed"
  | .emissionFailed => "Code emission failed"

end Verdict

inductive Fault where
  /-- A literal of the source has no value. -/
  | parser (name : Text) (error : Grammar.ParseError)
  | printer (error : Unprintable)

def Fault.message : Fault → Text
  | .parser name error => error.message name
  | .printer error => error.message

/-- A verdict with the messages of warnings and errors. -/
structure Summary where
  verdict : Verdict
  messages : List Text

structure Compilation where
  outcome : Except Fault Summary
  log : List LogLine

namespace Compilation

/-- The diagnostics of a refused source. -/
def refused (verdict : Verdict) (d : Diagnostics) (r : Report) : Compilation :=
  let (d, log) := d.error r
  ⟨.ok ⟨verdict, d.messages .warning⟩, log⟩

def ofSource (source name : Text) (config : Config) (level : Text) (pretty : Bool) : Compilation :=
  let diagnostics := Diagnostics.ofLevel level false
  match Grammar.parse source name with
  | .error e =>
    if e.isRefusal then
      refused .parsingFailed diagnostics
        { message := e.message name, stage := some (Text.ofString "parsing"),
          place := { file := some name } }
    else ⟨.error (.parser name e), []⟩
  | .ok program =>
    let lowerer := Lowerer.new config diagnostics
    match lowerer.lower program with
    | .error e =>
      refused .transformFailed lowerer.diagnostics
        { message := Lowering.NamespaceError.text, stage := some (Text.ofString "transform"),
          subject := some e.place }
    | .ok (lowered, after) =>
      match lowered.program.print pretty 0 with
      | .ok code =>
        let verdict := if after.diagnostics.hasErrors then .emissionFailed else .accepted code
        ⟨.ok ⟨verdict, after.diagnostics.messages .warning⟩, lowered.log⟩
      | .error e => ⟨.error (.printer e), lowered.log⟩

end Compilation

end Hyperscript
