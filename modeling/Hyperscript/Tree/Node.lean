import Hyperscript.Tree.Form
import Hyperscript.Tree.Place

/-!
# Nodes

A node is a form over nodes, with the place it was read from. `Node.fold` is the recursion that
every walk over a tree shares.
-/
namespace Hyperscript

structure Node where
  place : Place
  form : Form Node

namespace Node

/-- A node made by a pass and not read from a source. -/
def plain (form : Form Node) : Node := ⟨.nowhere, form⟩

instance : Inhabited Node := ⟨plain .null⟩

def children (n : Node) : List Node := n.form.children

section Fold

variable {β : Type} (layer : Place → Form β → β)

mutual

/-- Computes a result for a node from its place and the results of its parts. -/
def fold : Node → β
  | ⟨place, form⟩ => layer place (foldForm form)

def foldList : List Node → List β
  | [] => []
  | n :: rest => fold n :: foldList rest

def foldOption : Option Node → Option β
  | none => none
  | some n => some (fold n)

def foldForm : Form Node → Form β
  | .bare kind => .bare kind
  | .identifier name => .identifier name
  | .this => .this
  | .member object property computed => .member (fold object) (fold property) computed
  | .call callee arguments pretty => .call (fold callee) (foldList arguments) pretty
  | .new callee arguments => .new (fold callee) (foldList arguments)
  | .spread argument => .spread (fold argument)
  | .unary operator argument => .unary operator (fold argument)
  | .update operator argument leading => .update operator (fold argument) leading
  | .binary operator left right => .binary operator (fold left) (fold right)
  | .logical operator left right => .logical operator (fold left) (fold right)
  | .conditional test consequent alternate =>
    .conditional (fold test) (fold consequent) (fold alternate)
  | .assignment operator left right => .assignment operator (fold left) (fold right)
  | .arrayExpression elements => .arrayExpression (foldList elements)
  | .objectExpression properties => .objectExpression (foldList properties)
  | .objectProperty key value computed shorthand =>
    .objectProperty (fold key) (fold value) computed shorthand
  | .objectMethod key params body computed =>
    .objectMethod (fold key) (foldList params) (fold body) computed
  | .functionExpression id params body =>
    .functionExpression (foldOption id) (foldList params) (fold body)
  | .arrow params body => .arrow (foldList params) (fold body)
  | .classExpression id superClass body decorators =>
    .classExpression (foldOption id) (foldOption superClass) (fold body) (foldList decorators)
  | .string value spelling => .string value spelling
  | .number value spelling => .number value spelling
  | .boolean value => .boolean value
  | .null => .null
  | .template raw => .template raw
  | .assignmentPattern left right => .assignmentPattern (fold left) (fold right)
  | .restElement argument => .restElement (fold argument)
  | .objectPattern properties => .objectPattern (foldList properties)
  | .arrayPattern elements => .arrayPattern (foldList elements)
  | .program body => .program (foldList body)
  | .block body => .block (foldList body)
  | .expressionStatement expression => .expressionStatement (fold expression)
  | .declarator target init => .declarator (fold target) (foldOption init)
  | .variableDeclaration kind declarations => .variableDeclaration kind (foldList declarations)
  | .returnStatement argument => .returnStatement (foldOption argument)
  | .throwStatement argument => .throwStatement (fold argument)
  | .ifStatement test consequent alternate =>
    .ifStatement (fold test) (fold consequent) (foldOption alternate)
  | .functionDeclaration id params body =>
    .functionDeclaration (foldOption id) (foldList params) (fold body)
  | .decorator expression => .decorator (fold expression)
  | .classMethod key params body kind isStatic computed decorators =>
    .classMethod (fold key) (foldList params) (fold body) kind isStatic computed
      (foldList decorators)
  | .classProperty key value isStatic computed decorators =>
    .classProperty (fold key) (foldOption value) isStatic computed (foldList decorators)
  | .classBody body => .classBody (foldList body)
  | .classDeclaration id superClass body decorators =>
    .classDeclaration (foldOption id) (foldOption superClass) (fold body) (foldList decorators)
  | .importSpecifier imported localName => .importSpecifier (fold imported) (fold localName)
  | .importDefault localName => .importDefault (fold localName)
  | .importNamespace localName => .importNamespace (fold localName)
  | .importDeclaration specifiers source => .importDeclaration (foldList specifiers) (fold source)
  | .exportSpecifier exportee exported => .exportSpecifier (fold exportee) (fold exported)
  | .exportDefault declaration => .exportDefault (fold declaration)
  | .exportNamed declaration specifiers =>
    .exportNamed (foldOption declaration) (foldList specifiers)
  | .jsxIdentifier name => .jsxIdentifier name
  | .jsxNamespacedName space name => .jsxNamespacedName (fold space) (fold name)
  | .jsxMember object property => .jsxMember (fold object) (fold property)
  | .jsxEmptyExpression => .jsxEmptyExpression
  | .jsxExpressionContainer expression => .jsxExpressionContainer (fold expression)
  | .jsxText value spelling => .jsxText value spelling
  | .jsxAttribute name value => .jsxAttribute (fold name) (foldOption value)
  | .jsxSpreadAttribute argument => .jsxSpreadAttribute (fold argument)
  | .jsxElement name attributes children selfClosing =>
    .jsxElement (fold name) (foldList attributes) (foldList children) selfClosing

end

theorem foldList_eq (ns : List Node) : foldList layer ns = ns.map (fold layer) := by
  induction ns with
  | nil => rfl
  | cons n rest ih => exact congrArg _ ih

theorem foldOption_eq (n : Option Node) : foldOption layer n = n.map (fold layer) := by
  cases n <;> rfl

theorem foldForm_eq (form : Form Node) : foldForm layer form = form.map (fold layer) := by
  cases form <;> simp only [Form.map, ← foldList_eq, ← foldOption_eq] <;> rfl

/-- The result for a node is the layer applied to the results of its parts. -/
theorem fold_eq (n : Node) : fold layer n = layer n.place (n.form.map (fold layer)) := by
  cases n with
  | mk place form => rw [fold, foldForm_eq]

end Fold

/-- Rebuilds every node of a tree, innermost first, from its place and form. -/
def rebuild (layer : Place → Form Node → Node) : Node → Node := fold layer

/-- The number of nodes. -/
def size : Node → Nat := fold fun _ form => form.children.foldr (· + ·) 1

end Node

end Hyperscript
