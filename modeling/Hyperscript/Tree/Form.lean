import Hyperscript.Number

/-!
# Forms

A form is one layer of a syntax tree: the kind of a node with its fields, over a type of parts.
The parts of a form come in the order of its fields. Any form may stand in any field; which
combinations a program can have is the business of the grammar.
-/
namespace Hyperscript

/-- Nodes of these kinds have no fields. They are members of a tree but of no program. -/
inductive BareKind where
  | node | expression | literal | statement
  deriving DecidableEq, Repr

inductive Form (α : Type) where
  /-- A node that is nothing but its kind. -/
  | bare (kind : BareKind)
  | identifier (name : Text)
  | this
  /-- `object.property`, or `object[property]` when computed. -/
  | member (object property : α) (computed : Bool)
  /-- A call; a pretty one may be laid out with one argument per line. -/
  | call (callee : α) (arguments : List α) (pretty : Bool)
  | new (callee : α) (arguments : List α)
  | spread (argument : α)
  | unary (operator : Text) (argument : α)
  /-- An increment or decrement, whose operator stands before or after. -/
  | update (operator : Text) (argument : α) (leading : Bool)
  | binary (operator : Text) (left right : α)
  | logical (operator : Text) (left right : α)
  | conditional (test consequent alternate : α)
  | assignment (operator : Text) (left right : α)
  | arrayExpression (elements : List α)
  | objectExpression (properties : List α)
  | objectProperty (key value : α) (computed shorthand : Bool)
  | objectMethod (key : α) (params : List α) (body : α) (computed : Bool)
  | functionExpression (id : Option α) (params : List α) (body : α)
  | arrow (params : List α) (body : α)
  | classExpression (id superClass : Option α) (body : α) (decorators : List α)
  /-- A string literal; one that was read keeps its spelling. -/
  | string (value : Text) (spelling : Option Text)
  | number (value : Number) (spelling : Option Text)
  | boolean (value : Bool)
  | null
  /-- A template literal, as it was spelled. -/
  | template (raw : Text)
  /-- A binding with a default. -/
  | assignmentPattern (left right : α)
  | restElement (argument : α)
  | objectPattern (properties : List α)
  | arrayPattern (elements : List α)
  | program (body : List α)
  | block (body : List α)
  | expressionStatement (expression : α)
  | declarator (target : α) (init : Option α)
  | variableDeclaration (kind : Text) (declarations : List α)
  | returnStatement (argument : Option α)
  | throwStatement (argument : α)
  | ifStatement (test consequent : α) (alternate : Option α)
  | functionDeclaration (id : Option α) (params : List α) (body : α)
  | decorator (expression : α)
  | classMethod (key : α) (params : List α) (body : α) (kind : Text) (isStatic computed : Bool)
    (decorators : List α)
  | classProperty (key : α) (value : Option α) (isStatic computed : Bool) (decorators : List α)
  | classBody (body : List α)
  | classDeclaration (id superClass : Option α) (body : α) (decorators : List α)
  /-- `imported as localName` in an import. -/
  | importSpecifier (imported localName : α)
  | importDefault (localName : α)
  | importNamespace (localName : α)
  | importDeclaration (specifiers : List α) (source : α)
  /-- `exportee as exported` in an export. -/
  | exportSpecifier (exportee exported : α)
  | exportDefault (declaration : α)
  | exportNamed (declaration : Option α) (specifiers : List α)
  | jsxIdentifier (name : Text)
  /-- `space:name` in a tag or an attribute. -/
  | jsxNamespacedName (space name : α)
  | jsxMember (object property : α)
  | jsxEmptyExpression
  | jsxExpressionContainer (expression : α)
  | jsxText (value : Text) (spelling : Option Text)
  | jsxAttribute (name : α) (value : Option α)
  | jsxSpreadAttribute (argument : α)
  | jsxElement (name : α) (attributes children : List α) (selfClosing : Bool)

namespace Form

variable {α β : Type}

/-- The parts, in the order of the fields. -/
@[grind =] def children : Form α → List α
  | .bare _ => []
  | .identifier _ => []
  | .this => []
  | .member object property _ => [object, property]
  | .call callee arguments _ => [callee] ++ arguments
  | .new callee arguments => [callee] ++ arguments
  | .spread argument => [argument]
  | .unary _ argument => [argument]
  | .update _ argument _ => [argument]
  | .binary _ left right => [left, right]
  | .logical _ left right => [left, right]
  | .conditional test consequent alternate => [test, consequent, alternate]
  | .assignment _ left right => [left, right]
  | .arrayExpression elements => elements
  | .objectExpression properties => properties
  | .objectProperty key value _ _ => [key, value]
  | .objectMethod key params body _ => [key] ++ params ++ [body]
  | .functionExpression id params body => id.toList ++ params ++ [body]
  | .arrow params body => params ++ [body]
  | .classExpression id superClass body decorators =>
    id.toList ++ superClass.toList ++ [body] ++ decorators
  | .string _ _ => []
  | .number _ _ => []
  | .boolean _ => []
  | .null => []
  | .template _ => []
  | .assignmentPattern left right => [left, right]
  | .restElement argument => [argument]
  | .objectPattern properties => properties
  | .arrayPattern elements => elements
  | .program body => body
  | .block body => body
  | .expressionStatement expression => [expression]
  | .declarator target init => [target] ++ init.toList
  | .variableDeclaration _ declarations => declarations
  | .returnStatement argument => argument.toList
  | .throwStatement argument => [argument]
  | .ifStatement test consequent alternate => [test, consequent] ++ alternate.toList
  | .functionDeclaration id params body => id.toList ++ params ++ [body]
  | .decorator expression => [expression]
  | .classMethod key params body _ _ _ decorators => [key] ++ params ++ [body] ++ decorators
  | .classProperty key value _ _ decorators => [key] ++ value.toList ++ decorators
  | .classBody body => body
  | .classDeclaration id superClass body decorators =>
    id.toList ++ superClass.toList ++ [body] ++ decorators
  | .importSpecifier imported localName => [imported, localName]
  | .importDefault localName => [localName]
  | .importNamespace localName => [localName]
  | .importDeclaration specifiers source => specifiers ++ [source]
  | .exportSpecifier exportee exported => [exportee, exported]
  | .exportDefault declaration => [declaration]
  | .exportNamed declaration specifiers => declaration.toList ++ specifiers
  | .jsxIdentifier _ => []
  | .jsxNamespacedName space name => [space, name]
  | .jsxMember object property => [object, property]
  | .jsxEmptyExpression => []
  | .jsxExpressionContainer expression => [expression]
  | .jsxText _ _ => []
  | .jsxAttribute name value => [name] ++ value.toList
  | .jsxSpreadAttribute argument => [argument]
  | .jsxElement name attributes children _ => [name] ++ attributes ++ children

/-- Replaces every part. -/
@[grind =] def map (f : α → β) : Form α → Form β
  | .bare kind => .bare kind
  | .identifier name => .identifier name
  | .this => .this
  | .member object property computed => .member (f object) (f property) computed
  | .call callee arguments pretty => .call (f callee) (arguments.map f) pretty
  | .new callee arguments => .new (f callee) (arguments.map f)
  | .spread argument => .spread (f argument)
  | .unary operator argument => .unary operator (f argument)
  | .update operator argument leading => .update operator (f argument) leading
  | .binary operator left right => .binary operator (f left) (f right)
  | .logical operator left right => .logical operator (f left) (f right)
  | .conditional test consequent alternate => .conditional (f test) (f consequent) (f alternate)
  | .assignment operator left right => .assignment operator (f left) (f right)
  | .arrayExpression elements => .arrayExpression (elements.map f)
  | .objectExpression properties => .objectExpression (properties.map f)
  | .objectProperty key value computed shorthand =>
    .objectProperty (f key) (f value) computed shorthand
  | .objectMethod key params body computed => .objectMethod (f key) (params.map f) (f body) computed
  | .functionExpression id params body => .functionExpression (id.map f) (params.map f) (f body)
  | .arrow params body => .arrow (params.map f) (f body)
  | .classExpression id superClass body decorators =>
    .classExpression (id.map f) (superClass.map f) (f body) (decorators.map f)
  | .string value spelling => .string value spelling
  | .number value spelling => .number value spelling
  | .boolean value => .boolean value
  | .null => .null
  | .template raw => .template raw
  | .assignmentPattern left right => .assignmentPattern (f left) (f right)
  | .restElement argument => .restElement (f argument)
  | .objectPattern properties => .objectPattern (properties.map f)
  | .arrayPattern elements => .arrayPattern (elements.map f)
  | .program body => .program (body.map f)
  | .block body => .block (body.map f)
  | .expressionStatement expression => .expressionStatement (f expression)
  | .declarator target init => .declarator (f target) (init.map f)
  | .variableDeclaration kind declarations => .variableDeclaration kind (declarations.map f)
  | .returnStatement argument => .returnStatement (argument.map f)
  | .throwStatement argument => .throwStatement (f argument)
  | .ifStatement test consequent alternate => .ifStatement (f test) (f consequent) (alternate.map f)
  | .functionDeclaration id params body => .functionDeclaration (id.map f) (params.map f) (f body)
  | .decorator expression => .decorator (f expression)
  | .classMethod key params body kind isStatic computed decorators =>
    .classMethod (f key) (params.map f) (f body) kind isStatic computed (decorators.map f)
  | .classProperty key value isStatic computed decorators =>
    .classProperty (f key) (value.map f) isStatic computed (decorators.map f)
  | .classBody body => .classBody (body.map f)
  | .classDeclaration id superClass body decorators =>
    .classDeclaration (id.map f) (superClass.map f) (f body) (decorators.map f)
  | .importSpecifier imported localName => .importSpecifier (f imported) (f localName)
  | .importDefault localName => .importDefault (f localName)
  | .importNamespace localName => .importNamespace (f localName)
  | .importDeclaration specifiers source => .importDeclaration (specifiers.map f) (f source)
  | .exportSpecifier exportee exported => .exportSpecifier (f exportee) (f exported)
  | .exportDefault declaration => .exportDefault (f declaration)
  | .exportNamed declaration specifiers => .exportNamed (declaration.map f) (specifiers.map f)
  | .jsxIdentifier name => .jsxIdentifier name
  | .jsxNamespacedName space name => .jsxNamespacedName (f space) (f name)
  | .jsxMember object property => .jsxMember (f object) (f property)
  | .jsxEmptyExpression => .jsxEmptyExpression
  | .jsxExpressionContainer expression => .jsxExpressionContainer (f expression)
  | .jsxText value spelling => .jsxText value spelling
  | .jsxAttribute name value => .jsxAttribute (f name) (value.map f)
  | .jsxSpreadAttribute argument => .jsxSpreadAttribute (f argument)
  | .jsxElement name attributes children selfClosing =>
    .jsxElement (f name) (attributes.map f) (children.map f) selfClosing

/-- Replaces every part by the result of an action, in the order of the fields. -/
def traverse {m : Type → Type} [Monad m] (f : α → m β) : Form α → m (Form β)
  | .bare kind => pure (.bare kind)
  | .identifier name => pure (.identifier name)
  | .this => pure (.this)
  | .member object property computed => do
    return .member (← f object) (← f property) computed
  | .call callee arguments pretty => do
    return .call (← f callee) (← arguments.mapM f) pretty
  | .new callee arguments => do
    return .new (← f callee) (← arguments.mapM f)
  | .spread argument => do
    return .spread (← f argument)
  | .unary operator argument => do
    return .unary operator (← f argument)
  | .update operator argument leading => do
    return .update operator (← f argument) leading
  | .binary operator left right => do
    return .binary operator (← f left) (← f right)
  | .logical operator left right => do
    return .logical operator (← f left) (← f right)
  | .conditional test consequent alternate => do
    return .conditional (← f test) (← f consequent) (← f alternate)
  | .assignment operator left right => do
    return .assignment operator (← f left) (← f right)
  | .arrayExpression elements => do
    return .arrayExpression (← elements.mapM f)
  | .objectExpression properties => do
    return .objectExpression (← properties.mapM f)
  | .objectProperty key value computed shorthand => do
    return .objectProperty (← f key) (← f value) computed shorthand
  | .objectMethod key params body computed => do
    return .objectMethod (← f key) (← params.mapM f) (← f body) computed
  | .functionExpression id params body => do
    return .functionExpression (← id.mapM f) (← params.mapM f) (← f body)
  | .arrow params body => do
    return .arrow (← params.mapM f) (← f body)
  | .classExpression id superClass body decorators => do
    return .classExpression (← id.mapM f) (← superClass.mapM f) (← f body) (← decorators.mapM f)
  | .string value spelling => pure (.string value spelling)
  | .number value spelling => pure (.number value spelling)
  | .boolean value => pure (.boolean value)
  | .null => pure (.null)
  | .template raw => pure (.template raw)
  | .assignmentPattern left right => do
    return .assignmentPattern (← f left) (← f right)
  | .restElement argument => do
    return .restElement (← f argument)
  | .objectPattern properties => do
    return .objectPattern (← properties.mapM f)
  | .arrayPattern elements => do
    return .arrayPattern (← elements.mapM f)
  | .program body => do
    return .program (← body.mapM f)
  | .block body => do
    return .block (← body.mapM f)
  | .expressionStatement expression => do
    return .expressionStatement (← f expression)
  | .declarator target init => do
    return .declarator (← f target) (← init.mapM f)
  | .variableDeclaration kind declarations => do
    return .variableDeclaration kind (← declarations.mapM f)
  | .returnStatement argument => do
    return .returnStatement (← argument.mapM f)
  | .throwStatement argument => do
    return .throwStatement (← f argument)
  | .ifStatement test consequent alternate => do
    return .ifStatement (← f test) (← f consequent) (← alternate.mapM f)
  | .functionDeclaration id params body => do
    return .functionDeclaration (← id.mapM f) (← params.mapM f) (← f body)
  | .decorator expression => do
    return .decorator (← f expression)
  | .classMethod key params body kind isStatic computed decorators => do
    return .classMethod (← f key) (← params.mapM f) (← f body) kind isStatic computed
      (← decorators.mapM f)
  | .classProperty key value isStatic computed decorators => do
    return .classProperty (← f key) (← value.mapM f) isStatic computed (← decorators.mapM f)
  | .classBody body => do
    return .classBody (← body.mapM f)
  | .classDeclaration id superClass body decorators => do
    return .classDeclaration (← id.mapM f) (← superClass.mapM f) (← f body) (← decorators.mapM f)
  | .importSpecifier imported localName => do
    return .importSpecifier (← f imported) (← f localName)
  | .importDefault localName => do
    return .importDefault (← f localName)
  | .importNamespace localName => do
    return .importNamespace (← f localName)
  | .importDeclaration specifiers source => do
    return .importDeclaration (← specifiers.mapM f) (← f source)
  | .exportSpecifier exportee exported => do
    return .exportSpecifier (← f exportee) (← f exported)
  | .exportDefault declaration => do
    return .exportDefault (← f declaration)
  | .exportNamed declaration specifiers => do
    return .exportNamed (← declaration.mapM f) (← specifiers.mapM f)
  | .jsxIdentifier name => pure (.jsxIdentifier name)
  | .jsxNamespacedName space name => do
    return .jsxNamespacedName (← f space) (← f name)
  | .jsxMember object property => do
    return .jsxMember (← f object) (← f property)
  | .jsxEmptyExpression => pure (.jsxEmptyExpression)
  | .jsxExpressionContainer expression => do
    return .jsxExpressionContainer (← f expression)
  | .jsxText value spelling => pure (.jsxText value spelling)
  | .jsxAttribute name value => do
    return .jsxAttribute (← f name) (← value.mapM f)
  | .jsxSpreadAttribute argument => do
    return .jsxSpreadAttribute (← f argument)
  | .jsxElement name attributes children selfClosing => do
    return .jsxElement (← f name) (← attributes.mapM f) (← children.mapM f) selfClosing

theorem children_map (f : α → β) (form : Form α) :
    (form.map f).children = form.children.map f := by
  have optional (x : Option α) : (x.map f).toList = x.toList.map f := by cases x <;> rfl
  cases form <;> simp [map, children, optional]

end Form

end Hyperscript
