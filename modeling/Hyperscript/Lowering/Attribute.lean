import Hyperscript.Lowering.Config
import Hyperscript.Text.Identifier
import Hyperscript.Tree.Kind

/-!
# Attributes

An attribute of a tag has a name and perhaps a value, or spreads an object. A named attribute
becomes an entry of an object.
-/
namespace Hyperscript.Lowering

inductive Attribute where
  | named (place : Place) (name : Node) (value : Option Node)
  | spread (argument : Node)

/-- A tag as the rule sees it. -/
structure Descriptor where
  name : Option Text
  /-- The value of the first `type` attribute, if it is a plain string. -/
  type : Option Text
  deriving DecidableEq, Repr

/-- A property of the object that an attribute goes to. Names with a namespace do not become entry
names. -/
structure Entry where
  place : Place := .nowhere
  name : Option Text
  namePlace : Place := .nowhere
  value : Node

namespace Attribute

/-- Any node among the attributes that is not a named attribute counts as what is spread. -/
def ofNode (n : Node) : Attribute :=
  match n.form with
  | .jsxAttribute name value => .named n.place name value
  | .jsxSpreadAttribute argument => .spread argument
  | _ => .spread n

def name? : Attribute → Option Text
  | .named _ ⟨_, .jsxIdentifier name⟩ _ => some name
  | _ => none

/-- The value, if it is a plain string. -/
def string? : Attribute → Option Text
  | .named _ _ (some ⟨_, .string value _⟩) => some value
  | _ => none

/-- The value is computed by an expression in braces. -/
def isComputed : Attribute → Bool
  | .named _ _ (some ⟨_, .jsxExpressionContainer _⟩) => true
  | _ => false

/-- Marks attributes that are bound as properties of the document node. -/
def domPropsMark : Text := "domProps-"

/-- The name under which an attribute is emitted. -/
def classify (rule : PropRule) (tag : Descriptor) (a : Attribute) : Option Text :=
  a.name?.map fun name =>
    if a.isComputed && rule tag.name tag.type name then domPropsMark ++ name else name

/-- Copies a text, and writes a line feed with the white space after it as a single space. The flag
says that such a line feed has just been written. -/
def collapseFrom : Bool → Text → Text
  | _, [] => []
  | true, c :: rest => if c.isBlank then collapseFrom true rest else c :: collapseFrom false rest
  | false, c :: rest =>
    if c = '\n' && rest.head?.any CodePoint.isBlank then ' ' :: collapseFrom true rest
    else c :: collapseFrom false rest

def collapse (t : Text) : Text := collapseFrom false t

/-- The expression that a value stands for; an attribute without a value is true. -/
def expression : Option Node → Node
  | none => .plain (.boolean true)
  | some ⟨_, .jsxExpressionContainer expression⟩ => expression
  | some ⟨place, .string value _⟩ => ⟨place, .string (collapse value) none⟩
  | some n => n

end Attribute

/-- The descriptor of a tag with the given attributes. -/
def Descriptor.of (name : Option Text) (attributes : List Attribute) : Descriptor :=
  let type := attributes.find? fun a => a.name? == some (Text.ofString "type")
  ⟨name, type.bind Attribute.string?⟩

namespace Entry

/-- The key, quoted unless it can stand alone. -/
def key (e : Entry) : Node :=
  match e.name with
  | some name =>
    ⟨e.namePlace, if name.isValidIdentifier then .identifier name else .string name none⟩
  | none => ⟨e.namePlace, .null⟩

def toNode (e : Entry) : Node := ⟨e.place, .objectProperty e.key e.value false false⟩

end Entry

end Hyperscript.Lowering
