import Hyperscript.Diagnostic
import Hyperscript.Lowering.Config
import Hyperscript.Tree.Walk

/-!
# Bindings of the factory

Calls refer to the function that makes elements by its name. A method that makes elements and does
not receive the function as its first parameter gets a binding at the start of its body: from the
first argument in the render method, from the component in any other.
-/
namespace Hyperscript.Lowering

/-- A method of an object or of a class. -/
structure Method where
  place : Place
  key : Node
  params : List Node
  body : Node
  computed : Bool

namespace Method

def ofNode? (n : Node) : Option Method :=
  match n.form with
  | .objectMethod key params body computed => some ⟨n.place, key, params, body, computed⟩
  | .classMethod key params body _ _ computed _ => some ⟨n.place, key, params, body, computed⟩
  | _ => none

/-- The name, if it is not computed and not quoted. -/
def name? (m : Method) : Option Text := if m.computed then none else m.key.identifierName?

/-- The first parameter is the function that makes elements. -/
def receives (m : Method) (pragma : Text) : Bool :=
  (m.params.head?.bind Node.identifierName?) == some pragma

def needsBinding (m : Method) (pragma : Text) : Bool :=
  !m.receives pragma && m.body.containsElement

/-- How messages name the method. -/
def describe (m : Method) : Text :=
  match m.name? with
  | some name => name ++ "()"
  | none => "computed method"

def logLine (m : Method) (pragma : Text) : LogLine :=
  let name : Text := (m.name?.filter (!·.isEmpty)).getD "<computed>"
  ⟨.debug, "Injected " ++ pragma ++ " binding into " ++ name ++ "()"⟩

/-- What the function is bound to. -/
def factory (config : Config) (m : Method) : Node :=
  if m.name? = some config.renderMethod then
    .plain (.member (.plain (.identifier "arguments"))
      (.plain (.number (.integer 0) (some (Text.ofString "0")))) true)
  else .plain (.member (.plain .this) (.plain (.identifier config.factorySlot)) false)

/-- `const h = …` -/
def binding (config : Config) (m : Method) : Node :=
  .plain (.variableDeclaration "const"
    [.plain (.declarator (.plain (.identifier config.pragma)) (some (m.factory config)))])

end Method

namespace Binding

/-- A body with a statement in front. -/
def prepend (statement body : Node) : Node :=
  match body.form with
  | .block statements => ⟨body.place, .block (statement :: statements)⟩
  | .program statements => ⟨body.place, .program (statement :: statements)⟩
  | .classBody members => ⟨body.place, .classBody (statement :: members)⟩
  | _ => body

/-- A method with a statement in front of its body. -/
def prependTo (statement : Node) : Form Node → Form Node
  | .objectMethod key params body computed =>
    .objectMethod key params (prepend statement body) computed
  | .classMethod key params body kind isStatic computed decorators =>
    .classMethod key params (prepend statement body) kind isStatic computed decorators
  | form => form

/-- A node, the node with bindings inserted at it and below it, and the methods that got one. -/
structure Bound where
  source : Node
  node : Node
  methods : List Method

/-- The method at a node, if it needs a binding. -/
def method? (config : Config) (n : Node) : Option Method :=
  (Method.ofNode? n).filter (·.needsBinding config.pragma)

/-- A node from its parts. Whether a method needs a binding is decided by the method as it was
read. -/
def layer (config : Config) (place : Place) (form : Form Bound) : Bound :=
  let source : Node := ⟨place, form.map Bound.source⟩
  let inner := form.map Bound.node
  let below := form.children.flatMap Bound.methods
  match method? config source with
  | none => ⟨source, ⟨place, inner⟩, below⟩
  | some m => ⟨source, ⟨place, prependTo (m.binding config) inner⟩, m :: below⟩

/-- Inserts the bindings that a tree needs. The methods come as a walk meets them. -/
def insert (config : Config) (n : Node) : Node × List Method :=
  let bound := n.fold (layer config)
  (bound.node, bound.methods)

end Binding

end Hyperscript.Lowering
