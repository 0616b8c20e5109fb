import Hyperscript.Diagnostic
import Hyperscript.Tree.Walk

/-!
# Helper imports

The registry of a program gives each helper that the output needs one local name, which no
identifier of the program has.
-/
namespace Hyperscript.Lowering

/-- `export` of `source`, imported under a local name. -/
structure Helper where
  source : Text
  exported : Text
  localName : Text
  deriving DecidableEq, Repr

namespace Helper

def provides (h : Helper) (source exported : Text) : Bool :=
  h.source = source && h.exported = exported

def specifier (h : Helper) : Node :=
  let localName : Node := .plain (.identifier h.localName)
  if h.exported = "default" then .plain (.importDefault localName)
  else .plain (.importSpecifier (.plain (.identifier h.exported)) localName)

def declaration (h : Helper) : Node :=
  .plain (.importDeclaration [h.specifier] (.plain (.string h.source none)))

def logLine (h : Helper) : LogLine :=
  ⟨.debug, "Registered helper import " ++ h.localName ++ " from " ++ h.source⟩

end Helper

structure Registry where
  /-- Names that are taken. -/
  used : List Text
  /-- The helpers, in the order of their first use. -/
  helpers : List Helper := []

namespace Registry

/-- The registry of a program takes the names of all its identifiers, in the script and in tags. -/
def ofProgram (program : Node) : Registry := { used := program.walk.filterMap Node.name? }

/-- The name itself, then with 2, 3, 4 and so on behind it. -/
def candidate (name : Text) (n : Nat) : Text := if n ≤ 1 then name else name ++ Text.ofNat n

/-- The first candidate from number `n` on that is not taken. -/
def firstFree (used : List Text) (name : Text) : Nat → Nat → Text
  | 0, n => candidate name n
  | fuel + 1, n =>
    if used.contains (candidate name n) then firstFree used name fuel (n + 1) else candidate name n

/-- A name that is not taken. The candidates differ, so more of them than there are names taken
need not be tried. -/
def freshName (r : Registry) (name : Text) : Text := firstFree r.used name r.used.length 1

def find? (r : Registry) (source exported : Text) : Option Helper :=
  r.helpers.find? (·.provides source exported)

/-- The local name of an export, which is imported on first use under the given name or the next
free one. -/
def resolve (r : Registry) (source exported name : Text) : Text × Registry :=
  match r.find? source exported with
  | some helper => (helper.localName, r)
  | none =>
    let localName := r.freshName name
    (localName, ⟨localName :: r.used, r.helpers ++ [⟨source, exported, localName⟩]⟩)

/-- The program with the imports in front. -/
def apply (r : Registry) (program : Node) : Node :=
  match program.form with
  | .program body => ⟨program.place, .program (r.helpers.map Helper.declaration ++ body)⟩
  | _ => program

end Registry

end Hyperscript.Lowering
