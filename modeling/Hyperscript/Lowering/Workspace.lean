import Hyperscript.Lowering.Lowerer

/-!
# The steps of a lowering

A program is rewritten in place: each step changes the program or the lowerer that works on it, and
what a step has changed stays changed if a later one fails. Besides a refusal, a step fails on a tree
that it is not made for.
-/
namespace Hyperscript.Lowering

/-- What stops a lowering. -/
inductive Failure where
  | refused (e : NamespaceError)
  /-- The tree is not one that the step is made for. -/
  | undefined

/-- A program and the lowerer that works on it. -/
structure Workspace where
  program : Node
  lowerer : Lowerer

/-- A statement can be put in front of the body of a method that needs a binding. -/
def canBind (config : Config) (n : Node) : Bool :=
  (Binding.method? config n).all fun m =>
    match m.body.form with
    | .block _ | .program _ | .classBody _ => true
    | _ => false

def isAttribute (n : Node) : Bool :=
  match n.form with
  | .jsxAttribute .. | .jsxSpreadAttribute _ => true
  | _ => false

/-- An element has nothing but attributes for attributes, and their entries can be laid out. -/
def canLower (config : Config) (n : Node) : Bool :=
  match n.form with
  | .jsxElement name attributes children _ =>
    let e : Element := ⟨n.place, name, attributes.map Attribute.ofNode, children⟩
    attributes.all isAttribute &&
      ((e.head config.customTag).groups config.mustUseProp).all fun g =>
        config.grouping.admits g.entries
  | _ => true

namespace Workspace

/-- A step of a lowering. -/
abbrev Step := EStateM Failure Workspace

def require (condition : Bool) : Step Unit := if condition then pure () else throw .undefined

def checkNames : Step Unit := do
  match checkNamespaces (← get).program with
  | .ok _ => return ()
  | .error e => throw (.refused e)

/-- The lowerer forgets the last program. -/
def restart : Step Unit :=
  modify fun w =>
    { w with
      lowerer :=
        { w.lowerer with registry := some (.ofProgram w.program), elements := 0, mergeSites := 0 } }

/-- Inserts the bindings that the program needs, if they are asked for. -/
def bindMethods : Step (List Method) := do
  let w ← get
  if w.lowerer.config.bindsFactory then
    require (w.program.walk.all (canBind w.lowerer.config))
    let (program, injected) := Binding.insert w.lowerer.config w.program
    set { w with program }
    return injected
  else return []

/-- Lowers the elements of the program, and continues a log. -/
def lowerAll (log : List LogLine) : Step (List LogLine) := do
  let w ← get
  match w.lowerer.registry with
  | none => throw .undefined
  | some registry =>
    require (w.program.walk.all (canLower w.lowerer.config))
    let start : Progress :=
      { registry, elements := w.lowerer.elements, mergeSites := w.lowerer.mergeSites, log }
    let (program, done) := (lowerElements w.lowerer.config w.program).run start
    let lowerer :=
      { w.lowerer with
        registry := some done.registry, elements := done.elements, mergeSites := done.mergeSites }
    set ({ program, lowerer } : Workspace)
    return done.log

/-- Puts the imports of the helpers in front of the program. -/
def importHelpers : Step (List Helper) := do
  let w ← get
  match w.lowerer.registry, w.program.form with
  | some registry, .program _ =>
    set { w with program := registry.apply w.program }
    return registry.helpers
  | _, _ => throw .undefined

def report (injected : List Method) : Step (List LogLine) := do
  let w ← get
  let (diagnostics, lines) := w.lowerer.diagnostics.infos
    (Lowerer.reports w.lowerer.config injected w.lowerer.mergeSites)
  set { w with lowerer := { w.lowerer with diagnostics } }
  return lines

/-- Lowers the program in place. -/
def lower : Step Lowered := do
  checkNames
  restart
  let injected ← bindMethods
  let log ← lowerAll (injected.map (·.logLine (← get).lowerer.config.pragma))
  let imports ← importHelpers
  let lines ← report injected
  let w ← get
  return {
    program := w.program
    imports
    injected
    elements := w.lowerer.elements
    mergeSites := w.lowerer.mergeSites
    log := log ++ lines }

end Workspace

end Hyperscript.Lowering
