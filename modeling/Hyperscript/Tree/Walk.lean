import Hyperscript.Tree.Kind

/-!
# Walks

`Node.walk` lists a node and all nodes below it, parents first and parts in field order, with an
explicit stack of what is still to be visited.
-/
namespace Hyperscript.Node

/-- Takes the node on top of the stack and puts its parts in its stead. -/
def walkFrom : Nat → List Node → List Node
  | _, [] => []
  | 0, _ => []
  | fuel + 1, n :: stack => n :: walkFrom fuel (n.children ++ stack)

/-- The node and everything below it. Each node is taken once, so its size is fuel enough. -/
def walk (n : Node) : List Node := walkFrom n.size [n]

/-- A node together with what a recursive visit of it found. -/
structure Visit (β : Type) where
  node : Node
  found : β

/-- The first node that satisfies the test, as a recursive visit meets them: it does not look below
a node that it has found. -/
def firstBelow (test : Node → Bool) (n : Node) : Option Node :=
  (n.fold fun place form =>
    let here : Node := ⟨place, form.map Visit.node⟩
    (⟨here, if test here then some here else form.children.findSome? Visit.found⟩ :
      Visit (Option Node))).found

/-- An element occurs at the node or below it. -/
def containsElement (n : Node) : Bool := n.walk.any isElement

/-- Names the source file on every node. -/
def inFile (file : Text) (n : Node) : Node :=
  n.fold fun place form => ⟨{ place with file := some file }, form⟩

end Hyperscript.Node
