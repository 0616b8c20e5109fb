import Hyperscript.Text

/-!
# Configuration

The settings of a lowering. The defaults are those of the second version of the component framework
that the calls are made for.
-/
namespace Hyperscript.Lowering

/-- Decides by the name of a tag, the value of its `type` and the name of an attribute whether a
computed value of the attribute is bound as a property of the document node. -/
abbrev PropRule := Option Text → Option Text → Text → Bool

/-- How the entries of one run of attributes are laid out in an object. -/
inductive Grouping where
  /-- Sorted into the sections that the runtime expects. -/
  | buckets
  /-- One after the other, as they are. -/
  | flat
  deriving DecidableEq, Repr

/-- Tags whose `value` is live. -/
def valueTags : List Text :=
  ["input", "textarea", "option", "select", "progress"].map Text.ofString

def mustUseProp : PropRule := fun tag type name =>
  (name = "value" && tag.any valueTags.contains && type != some (Text.ofString "button")) ||
  (name = "selected" && tag = some (Text.ofString "option")) ||
  (name = "checked" && tag = some (Text.ofString "input")) ||
  (name = "muted" && tag = some (Text.ofString "video"))

structure Config where
  /-- The function that makes an element. -/
  pragma : Text := "h"
  /-- The method whose first argument is that function. -/
  renderMethod : Text := "render"
  /-- The member of a component that holds the function. -/
  factorySlot : Text := "$createElement"
  /-- The tag that stands for the component that its `is` attribute names. -/
  customTag : Option Text := some (Text.ofString "anyslot")
  /-- Where the function that merges groups of properties comes from, and how it is called if that
  name is free. -/
  mergeModule : Text := "babel-helper-vue-jsx-merge-props"
  mergeExport : Text := "default"
  mergeAlias : Text := "_mergeJSXProps"
  /-- Methods that make elements get a binding of the function. -/
  bindsFactory : Bool := true
  mustUseProp : PropRule := mustUseProp
  grouping : Grouping := .buckets

end Hyperscript.Lowering
