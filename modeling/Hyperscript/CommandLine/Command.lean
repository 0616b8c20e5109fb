import Hyperscript.CommandLine.Options
import Hyperscript.Compilation
import Hyperscript.FileStore
import Hyperscript.Text.ControlSequence
import Hyperscript.Text.Utf8

/-!
# The command

Compiles a file or a text that is given as an option, and writes the code to a file or to the
standard output. All else goes to the standard error.
-/
namespace Hyperscript.CommandLine

/-- What the command says apart from the code: a message of its own, or a line of the log. -/
inductive Line where
  | message (text : Text)
  | log (line : LogLine)
  deriving DecidableEq, Repr

/-- What stops the command without a verdict. -/
inductive Failure where
  | compilation (fault : Fault)
  | file (error : FileError)

def Failure.message : Failure → Text
  | .compilation fault => fault.message
  | .file error => error.message

structure Outcome where
  exitCode : Nat
  output : Text := []
  errors : List Line := []
  failure : Option Failure := none

/-- Control sequences are for terminals only. -/
def shown (isTerminal : Bool) (t : Text) : Text :=
  if isTerminal then t else t.withoutControlSequences

/-- A line with its end. The log is written as it is. -/
def Line.toText (isTerminal : Bool) : Line → Text
  | .message text => shown isTerminal (text ++ "\n")
  | .log line => line.toText ++ "\n"

namespace Outcome

/-- What the outcome puts on the standard output. -/
def outputText (o : Outcome) (isTerminal : Bool) : Text := shown isTerminal o.output

/-- What the outcome puts on the standard error. -/
def errorText (o : Outcome) (isTerminal : Bool) : Text := o.errors.flatMap (Line.toText isTerminal)

end Outcome

def usage : List String :=
  ["Usage: main [OPTIONS] [INPUT_FILE]",
   "",
   "  Transform Vue JSX source files or strings into h() calls.",
   "",
   "Options:",
   "  -i, --input TEXT                Transform a string instead of a file",
   "  -o, --output PATH               Output file for the generated code (default:",
   "                                  stdout)",
   "  --log-level [debug|info|warning|error]",
   "                                  Set the logging level",
   "  --no-custom-tag                 Treat <anyslot> as an ordinary tag",
   "  --no-inject-h                   Do not bind h inside component methods",
   "  --merge-helper TEXT             Module whose default export merges spread",
   "                                  props  [default: babel-helper-vue-jsx-merge-",
   "                                  props]",
   "  --compact                       Print every h() call on a single line",
   "  --help                          Show this message and exit."]

def helped : Outcome := { exitCode := 0, output := usage.flatMap (Text.ofString · ++ "\n") }

/-- The arguments are wrong. -/
def misused : Outcome :=
  { exitCode := 2, errors := (usage.take 1).map fun line => .message (Text.ofString line) }

def refused : Refusal → Outcome
  | .misuse => misused
  | .nullByte name =>
    { exitCode := 1, failure := some (.file ⟨.nullByte, Path.ofText name⟩) }

/-- The command comes to an end with a last message, after the lines that have been said before. -/
def failed (said : List Line) (message : Text) : Outcome :=
  { exitCode := 1, errors := said ++ [.message message] }

/-- A text to compile, the name it goes by, and what is said of it. -/
structure Source where
  text : Text
  name : Text
  announcement : Text

variable {m : Type → Type} [Monad m] [FileStore m]

/-- The text of a file, with its line ends as line feeds. -/
def readText (p : Path) : m (Except Text Text) := do
  match ← FileStore.read p with
  | .error e => return .error e.message
  | .ok bytes =>
    return match Utf8.decode bytes with
      | .error e => .error e.message
      | .ok text => .ok text.universalNewlines

/-- The one source that the options name. An empty text is none. -/
def source (o : Options) : m (Except Text Source) := do
  match o.file, o.input.filter (!·.isEmpty) with
  | some _, some _ => return .error "Error: Cannot specify both input file and --input string"
  | none, none => return .error "Error: Must specify either an input file or --input string"
  | none, some text => return .ok ⟨text, "<string>", "Transforming string input..."⟩
  | some file, none =>
    let path := Path.ofText file
    match ← readText path with
    | .error e => return .error ("Failed to read input file: " ++ e)
    | .ok text =>
      return .ok ⟨text, ← FileStore.fullName path, "Transforming " ++ path.toText ++ "..."⟩

/-- Writes code to a file, in a directory that is made if need be. -/
def save (p : Path) (code : Text) : m (Except FileError Unit) := do
  match ← FileStore.makeDirectories p.parts.length p.parent with
  | .error e => return .error e
  | .ok () => FileStore.write p (Utf8.encode code)

def completion (messages : List Text) : Text :=
  if messages.isEmpty then "Transform completed successfully."
  else "Transform completed with " ++ Text.ofNat messages.length ++ " diagnostic(s)."

/-- A message for those who want to know more than what goes wrong. -/
def aside (o : Options) (message : Text) : List Line :=
  if o.logLevel ≤ .info then [.message message] else []

/-- Delivers the code, after the lines that have been said before. -/
def deliver (o : Options) (said : List Line) (code : Text) (messages : List Text) : m Outcome := do
  let completed := aside o (completion messages)
  match o.output with
  | none => return { exitCode := 0, output := code, errors := said ++ completed }
  | some name =>
    let path := Path.ofText name
    match ← save path code with
    | .error e => return failed said ("Failed to write output file: " ++ e.message)
    | .ok () =>
      let saved := aside o ("Output saved to " ++ path.toText)
      return { exitCode := 0, errors := said ++ saved ++ completed }

def compile (o : Options) (s : Source) : m Outcome := do
  let compilation := Compilation.ofSource s.text s.name o.config o.logLevel.label.lower (!o.compact)
  let logged := compilation.log.filter fun l => o.logLevel ≤ l.severity
  let said := aside o s.announcement ++ logged.map .log
  match compilation.outcome with
  | .error fault =>
    return { exitCode := 1, errors := said, failure := some (.compilation fault) }
  | .ok summary =>
    match summary.verdict with
    | .accepted code => deliver o said code summary.messages
    | verdict =>
      let outcome := failed said ("Compilation failed: " ++ verdict.text)
      return { outcome with errors := outcome.errors ++ summary.messages.map .message }

/-- Compiles what the options name. A file that is named has to be there. -/
def carryOut (o : Options) : m Outcome := do
  let present ←
    match o.file with
    | none => pure true
    | some name => FileStore.isPresent name
  if present then
    match ← source o with
    | .error message => return failed [] message
    | .ok s => compile o s
  else return misused

/-- Runs the command on its arguments. -/
def run (arguments : List Text) : m Outcome :=
  match Request.ofArguments arguments with
  | .error refusal => return refused refusal
  | .ok .help => return helped
  | .ok (.compilation o) => carryOut o

end Hyperscript.CommandLine
