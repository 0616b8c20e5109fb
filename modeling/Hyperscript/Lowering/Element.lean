import Hyperscript.Lowering.Child
import Hyperscript.Lowering.PropGroup
import Hyperscript.Lowering.Tag

/-!
# Elements

Every element becomes a call of the factory with the tag, the properties and, if there are any, the
list of children. Inner elements are lowered before the elements around them.
-/
namespace Hyperscript.Lowering

structure Element where
  place : Place
  name : Node
  attributes : List Attribute
  children : List Node

/-- A tag as it is looked up, with the attributes that belong to it. -/
structure Head where
  /-- The first argument of the call. -/
  tag : Node
  name : Option Text
  attributes : List Attribute
  /-- The tag was a custom one and stands for another. -/
  isCustom : Bool

namespace Element

def ofNode? (n : Node) : Option Element :=
  match n.form with
  | .jsxElement name attributes children _ =>
    some ⟨n.place, name, attributes.map Attribute.ofNode, children⟩
  | _ => none

/-- A custom tag is always a string, another one if it is looked up by name. -/
def head (e : Element) (customTag : Option Text) : Head :=
  let tag := Tag.expression false e.name
  let name := Tag.plainName? tag
  let quoted (name : Text) : Node := ⟨e.name.place, .string name none⟩
  match Tag.custom? customTag name e.attributes with
  | some (target, attributes) => ⟨quoted target, some target, attributes, true⟩
  | none =>
    match name with
    | some name => ⟨if Tag.isByName name then quoted name else tag, some name, e.attributes, false⟩
    | none => ⟨tag, none, e.attributes, false⟩

end Element

def Head.descriptor (h : Head) : Descriptor := .of h.name h.attributes

def Head.groups (h : Head) (rule : PropRule) : List PropGroup :=
  PropGroup.ofAttributes rule h.descriptor h.attributes

/-- What a run over a program has done so far. -/
structure Progress where
  registry : Registry
  elements : Nat := 0
  /-- Elements whose properties have to be merged. -/
  mergeSites : Nat := 0
  log : List LogLine := []

namespace Element

/-- The call for an element with the given properties. -/
def call (e : Element) (pragma : Text) (tag props : Node) : Node :=
  let children := Child.arguments e.children
  let list := if children.isEmpty then [] else [.plain (.arrayExpression children)]
  ⟨e.place, .call (.plain (.identifier pragma)) (tag :: props :: list) (!children.isEmpty)⟩

def logLine (e : Element) (name : Option Text) : LogLine :=
  let name : Text := (name.filter (!·.isEmpty)).getD "?"
  ⟨.debug, "Lowered <" ++ name ++ "> at " ++ e.place.toText⟩

/-- Lowers an element whose parts are lowered already. -/
def lower (config : Config) (e : Element) (p : Progress) : Node × Progress :=
  let head := e.head config.customTag
  let groups := head.groups config.mustUseProp
  let (props, registry) := PropGroup.merge config groups p.registry
  let added := registry.helpers.drop p.registry.helpers.length
  (e.call config.pragma head.tag props,
    { registry
      elements := p.elements + 1
      mergeSites := if 1 < groups.length then p.mergeSites + 1 else p.mergeSites
      log := p.log ++ added.map Helper.logLine ++ [e.logLine head.name] })

end Element

/-- Lowers every element of a tree, innermost first and in the order of the fields. -/
def lowerElements (config : Config) : Node → StateM Progress Node :=
  Node.fold fun place form => do
    let form ← form.traverse id
    let n : Node := ⟨place, form⟩
    match Element.ofNode? n with
    | some e => modifyGet (e.lower config)
    | none => return n

end Hyperscript.Lowering
