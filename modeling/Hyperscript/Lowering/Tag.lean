import Hyperscript.Lowering.Attribute

/-!
# Tags

The first argument of a call: the expression that a tag name stands for, or a string for tags that
are looked up by name.
-/
namespace Hyperscript.Lowering.Tag

/-- The expression that a tag name stands for. `this` is itself unless it follows a dot, and a name
that is no identifier name is a string. -/
def expression (isProperty : Bool) : Node → Node
  | ⟨place, .jsxIdentifier name⟩ =>
    if !isProperty && name = "this" then ⟨place, .this⟩
    else if name.isIdentifierName then ⟨place, .identifier name⟩
    else ⟨place, .string name none⟩
  | ⟨place, .jsxMember object property⟩ =>
    let object := expression false object
    let property := expression true property
    ⟨place, .member object property property.identifierName?.isNone⟩
  | n => n

/-- The name of a tag whose expression is a name or a string. -/
def plainName? (n : Node) : Option Text :=
  match n.form with
  | .identifier name => some name
  | .string value _ => some value
  | _ => none

/-- The tag is looked up by name: it starts with a small letter or has a dash. -/
def isByName (name : Text) : Bool :=
  name.head?.any CodePoint.isLower || name.contains (CodePoint.ofChar '-')

/-- The attribute that names the component of a custom tag. -/
def isTarget (a : Attribute) : Bool := a.name? == some (Text.ofString "is")

/-- The component that a custom tag stands for and the attributes that are left for it. Nothing
changes without an `is` that has a string for its value, or an empty one. -/
def custom? (customTag name : Option Text) (attributes : List Attribute) :
    Option (Text × List Attribute) :=
  if customTag.isSome && name = customTag then
    (attributes.findSome? fun a =>
      if isTarget a then a.string?.filter (!·.isEmpty) else none).map fun target =>
        (target, attributes.filter (!isTarget ·))
  else none

end Hyperscript.Lowering.Tag
