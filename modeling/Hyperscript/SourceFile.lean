import Hyperscript.FileStore
import Hyperscript.Grammar.Parser
import Hyperscript.Text.Utf8

/-!
# Source files

Reads a program from a file. The file is named on its nodes by its path.
-/
namespace Hyperscript

inductive SourceFileError where
  | missing (path : Path)
  | missingGrammar (path : Path)
  | unusableGrammar (error : FileError)
  | unreadable (error : FileError)
  | malformed (error : Utf8.Malformed)
  | unparsable (path : Path) (error : Grammar.ParseError)

def SourceFileError.message : SourceFileError → Text
  | .missing path => "Source file not found: " ++ path.toText
  | .missingGrammar path => "Grammar file not found: " ++ path.toText
  | .unusableGrammar error => "Failed to load grammar: " ++ error.message
  | .unreadable error => error.message
  | .malformed error => error.message
  | .unparsable path error => error.message path.toText

variable {m : Type → Type} [Monad m] [FileStore m]

/-- A file that describes the grammar may be named. It has to be readable, before anything else is
read. -/
def checkGrammar (path : Option Path) : m (Except SourceFileError Unit) := do
  match path with
  | none => return .ok ()
  | some path =>
    return match ← FileStore.read path with
      | .error ⟨.missing, _⟩ => .error (.missingGrammar path)
      | .error e => .error (.unusableGrammar e)
      | .ok _ => .ok ()

/-- The program in a file; line ends of every kind count as line feeds. -/
def parseFile (path : Path) : m (Except SourceFileError Node) := do
  match ← FileStore.read path with
  | .error ⟨.missing, _⟩ => return .error (.missing path)
  | .error e => return .error (.unreadable e)
  | .ok bytes =>
    return do
      let text ← (Utf8.decode bytes).mapError .malformed
      (Grammar.parse text.universalNewlines path.toText).mapError (.unparsable path)

end Hyperscript
