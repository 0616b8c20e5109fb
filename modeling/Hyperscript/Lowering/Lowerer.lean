import Hyperscript.Lowering.Binding
import Hyperscript.Lowering.Element

/-!
# The lowering of a program

A lowerer takes one program after another. A program with a namespaced name is refused before
anything is done; of any other, methods are bound, elements lowered and helpers imported.
-/
namespace Hyperscript.Lowering

/-- A namespaced name stands in a tag or an attribute. -/
structure NamespaceError where
  node : Node

namespace NamespaceError

def place (e : NamespaceError) : Place := e.node.place

def text : Text :=
  "Namespaced tags/attributes are not supported. JSX is not XML.\n" ++
    "For attributes like xlink:href, use xlinkHref instead."

/-- The text, and the place if it is known. -/
def message (e : NamespaceError) : Text :=
  if 0 < e.place.line then text ++ " at " ++ e.place.lineColumn else text

end NamespaceError

/-- Refuses a tree with a namespaced name, on account of the first. -/
def checkNamespaces (program : Node) : Except NamespaceError Unit :=
  match program.firstBelow Node.isNamespacedName with
  | some n => .error ⟨n⟩
  | none => .ok ()

/-- A lowered program and what was done to it. -/
structure Lowered where
  program : Node
  imports : List Helper
  injected : List Method
  elements : Nat
  mergeSites : Nat
  log : List LogLine

structure Lowerer where
  config : Config := {}
  diagnostics : Diagnostics
  /-- The registry and the counts of the last program that was lowered. -/
  registry : Option Registry := none
  elements : Nat := 0
  mergeSites : Nat := 0

namespace Lowerer

/-- A lowerer reports to a collection, as the stage `transform`. -/
def new (config : Config) (diagnostics : Diagnostics) : Lowerer :=
  { config, diagnostics := { diagnostics with stage := "transform" } }

/-- What is reported of a program, for information. -/
def reports (config : Config) (injected : List Method) (mergeSites : Nat) : List Report :=
  let bound : List Report := injected.map fun m =>
    { message := "Bound " ++ config.pragma ++ " in " ++ m.describe, subject := some m.place }
  if mergeSites = 0 then bound
  else
    bound ++
      [{ message := Text.ofNat mergeSites ++ " spread merge(s) use " ++ config.mergeModule }]

/-- Lowers a program. A refusal leaves the lowerer as it was. -/
def lower (l : Lowerer) (program : Node) : Except NamespaceError (Lowered × Lowerer) := do
  checkNamespaces program
  let (bound, injected) :=
    if l.config.bindsFactory then Binding.insert l.config program else (program, [])
  let start : Progress :=
    { registry := .ofProgram program, log := injected.map (·.logLine l.config.pragma) }
  let (tree, done) := (lowerElements l.config bound).run start
  let (diagnostics, lines) := l.diagnostics.infos (reports l.config injected done.mergeSites)
  return (
    { program := done.registry.apply tree
      imports := done.registry.helpers
      injected
      elements := done.elements
      mergeSites := done.mergeSites
      log := done.log ++ lines },
    { l with
      diagnostics
      registry := some done.registry
      elements := done.elements
      mergeSites := done.mergeSites })

end Lowerer

/-- Lowers a single program. -/
def lowerProgram (config : Config) (program : Node) : Except NamespaceError Lowered :=
  ((Lowerer.new config { verbose := false }).lower program).map (·.1)

end Hyperscript.Lowering
