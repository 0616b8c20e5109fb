import Hyperscript.Grammar.Production
import Hyperscript.Grammar.Token
import Hyperscript.Tree.Kind

/-!
# Building nodes

The actions of the productions: what is built from the parts of a right side. A node takes the
place of a part that it starts with, as far as that part has one; brackets and words that are
skipped leave no trace in places.
-/
namespace Hyperscript.Grammar

/-- Why a text has no tree. -/
inductive ParseError where
  | unexpectedToken (position : Position)
  /-- The text ends too early; the position is that of the last token. -/
  | unexpectedEnd (position : Position)
  | closingTag (opening : Text) (place : Place)
  | arrowParameter (place : Place)
  | destructuringTarget (place : Place)
  | literal (error : LiteralError)
  /-- The parts do not fit the action, or the table does not fit the grammar. -/
  | stuck
  deriving DecidableEq, Repr

/-- What a symbol on the parser's stack stands for. -/
inductive Part where
  | absent
  | token (t : Token)
  | node (n : Node)
  | nodes (ns : List Node)
  /-- A key in brackets. -/
  | computedKey (n : Node)
  /-- An operator or an accessor. -/
  | word (w : Text)

namespace Part

def node? : Part → Option Node
  | .node n => some n
  | _ => none

/-- The nodes among the parts; absent parts vanish. -/
def compact (parts : List Part) : List Node := parts.filterMap node?

/-- A key and whether it stood in brackets. -/
def key? : Part → Option (Node × Bool)
  | .node n => some (n, false)
  | .computedKey n => some (n, true)
  | _ => none

/-- A list that may have been left out. -/
def list? : Part → Option (List Node)
  | .nodes ns => some ns
  | .absent => some []
  | _ => none

/-- A node that may have been left out. -/
def optional? : Part → Option (Option Node)
  | .node n => some (some n)
  | .absent => some none
  | _ => none

/-- A token that may have been left out. -/
def optionalToken? : Part → Option (Option Token)
  | .token t => some (some t)
  | .absent => some none
  | _ => none

end Part

/-- Something a node may take its place from. -/
inductive Located where
  | unlocated
  | part (place : Place)
  | group (items : List Located)

namespace Located

def node (n : Node) : Located := .part n.place

def nodes (ns : List Node) : Located := .group (ns.map node)

def optional (n : Option Node) : Located := (n.map node).getD .unlocated

mutual

/-- The place that decides: `none` asks to look further. -/
def decisive : Located → Option (Option Place)
  | .unlocated => none
  | .part place => if place.line = 0 then none else some (some place)
  | .group items => if items.isEmpty then none else some (first items)

/-- The first place with a line. A group that is not empty ends the search, with or without one. -/
def first : List Located → Option Place
  | [] => none
  | item :: rest =>
    match decisive item with
    | none => first rest
    | some found => found

end

/-- The place to give to a node that starts with these items. -/
def place (items : List Located) : Place := (first items).getD .nowhere

end Located

namespace Build

def identifier (t : Token) : Node := ⟨t.place, .identifier t.text⟩

def jsxIdentifier (t : Token) : Node := ⟨t.place, .jsxIdentifier t.text⟩

def string (t : Token) : Except ParseError Node :=
  match Text.unescape t.text with
  | .ok value => .ok ⟨t.place, .string value (some t.text)⟩
  | .error e => .error (.literal e)

def number (t : Token) : Except ParseError Node :=
  match Number.read t.text with
  | .ok value => .ok ⟨t.place, .number value (some t.text)⟩
  | .error e => .error (.literal e)

def jsxText (t : Token) : Except ParseError Node :=
  match Text.decodeReferences t.text with
  | .ok value => .ok ⟨t.place, .jsxText value (some t.text)⟩
  | .error e => .error (.literal e)

/-- A string in markup has no escapes but character references. -/
def jsxString (t : Token) : Except ParseError Node :=
  match Text.decodeReferences t.text.inner with
  | .ok value => .ok ⟨t.place, .string value (some t.text)⟩
  | .error e => .error (.literal e)

mutual

/-- Reads an expression as the binding that an arrow function's parameter list means by it. -/
def toPattern : Node → Except ParseError Node
  | ⟨place, .identifier name⟩ => .ok ⟨place, .identifier name⟩
  | ⟨place, .assignment operator left right⟩ =>
    if operator = "=" then (toPattern left).map fun l => ⟨place, .assignmentPattern l right⟩
    else .error (.arrowParameter place)
  | ⟨place, .spread argument⟩ => (toPattern argument).map fun a => ⟨place, .restElement a⟩
  | ⟨place, .arrayExpression elements⟩ =>
    (toPatterns elements).map fun es => ⟨place, .arrayPattern es⟩
  | ⟨place, .objectExpression properties⟩ =>
    (toPatternProperties properties).map fun ps => ⟨place, .objectPattern ps⟩
  | ⟨place, _⟩ => .error (.arrowParameter place)

def toPatterns : List Node → Except ParseError (List Node)
  | [] => .ok []
  | n :: rest => do
    let pattern ← toPattern n
    let others ← toPatterns rest
    return pattern :: others

def toPatternProperties : List Node → Except ParseError (List Node)
  | [] => .ok []
  | ⟨place, .objectProperty key value computed shorthand⟩ :: rest => do
    let pattern ← toPattern value
    let others ← toPatternProperties rest
    return ⟨place, .objectProperty key pattern computed shorthand⟩ :: others
  | ⟨place, .spread argument⟩ :: rest => do
    let pattern ← toPattern argument
    let others ← toPatternProperties rest
    return ⟨place, .restElement pattern⟩ :: others
  | ⟨place, _⟩ :: _ => .error (.destructuringTarget place)

end

/-- A function or class expression as the declaration it is after `export`. -/
def asDeclaration (n : Node) : Node :=
  match n.form with
  | .functionExpression id params body => ⟨n.place, .functionDeclaration id params body⟩
  | .classExpression id superClass body decorators =>
    ⟨n.place, .classDeclaration id superClass body decorators⟩
  | _ => n

/-- A named function or class expression is a declaration where a statement stands. -/
def asStatement (n : Node) : Node :=
  match n.form with
  | .functionExpression (some _) .. | .classExpression (some _) .. => asDeclaration n
  | _ => ⟨n.place, .expressionStatement n⟩

def isDecorator (n : Node) : Bool :=
  match n.form with
  | .decorator _ => true
  | _ => false

/-- A class with decorators in front, placed where the first of them stands. -/
def decorate (decorators : List Node) (n : Node) : Node :=
  let declaration := asDeclaration n
  let place := Located.place ((decorators.take 1).map .node ++ [.node declaration])
  match declaration.form with
  | .classDeclaration id superClass body own =>
    ⟨place, .classDeclaration id superClass body (decorators ++ own)⟩
  | form => ⟨place, form⟩

/-- The decorators before the last part, and the last part. -/
def decorated? (parts : List Part) : Option Node :=
  match parts.getLast? with
  | some (.node n) => some (decorate ((Part.compact parts.dropLast).filter isDecorator) n)
  | _ => none

/-- The name of a tag as it is written. -/
def tagText : Node → Text
  | ⟨_, .jsxIdentifier name⟩ => name
  | ⟨_, .jsxNamespacedName space name⟩ => space.name?.getD [] ++ ":" ++ name.name?.getD []
  | ⟨_, .jsxMember object property⟩ => tagText object ++ "." ++ property.name?.getD []
  | _ => []

def isAttribute (n : Node) : Bool :=
  match n.form with
  | .jsxAttribute .. | .jsxSpreadAttribute _ => true
  | _ => false

/-- An element from the parts between its tags; attributes and children keep their order. -/
def element (name : Node) (parts : List Node) (selfClosing : Bool) : Node :=
  ⟨name.place, .jsxElement name (parts.filter isAttribute) (parts.filter (!isAttribute ·))
    selfClosing⟩

/-- The closing tag has to repeat the name of the opening one. -/
def pairedElement (name : Node) (parts : List Node) (closing : Node) : Except ParseError Node :=
  if tagText name = tagText closing then .ok (element name parts false)
  else .error (.closingTag (tagText name) closing.place)

/-- A row of parts that is a single node. -/
def onNode (f : Node → Part) : List Part → Except ParseError Part
  | [.node n] => .ok (f n)
  | _ => .error .stuck

def onTwoNodes (f : Node → Node → Part) : List Part → Except ParseError Part
  | [.node first, .node second] => .ok (f first second)
  | _ => .error .stuck

def onThreeNodes (f : Node → Node → Node → Part) : List Part → Except ParseError Part
  | [.node first, .node second, .node third] => .ok (f first second third)
  | _ => .error .stuck

/-- A node and perhaps another one. -/
def onNodeOptional (f : Node → Option Node → Part) : List Part → Except ParseError Part
  | [.node n, last] =>
    match last.optional? with
    | some m => .ok (f n m)
    | none => .error .stuck
  | _ => .error .stuck

/-- A row of parts that is a single token, which may have no value. -/
def onToken (f : Token → Except ParseError Part) : List Part → Except ParseError Part
  | [.token t] => f t
  | _ => .error .stuck

def onTokenNode (f : Token → Node → Part) : List Part → Except ParseError Part
  | [.token t, .node n] => .ok (f t n)
  | _ => .error .stuck

def onNodeToken (f : Node → Token → Part) : List Part → Except ParseError Part
  | [.node n, .token t] => .ok (f n t)
  | _ => .error .stuck

/-- Two nodes with an operator between them. -/
def onOperator (f : Node → Token → Node → Part) : List Part → Except ParseError Part
  | [.node left, .token t, .node right] => .ok (f left t right)
  | _ => .error .stuck

/-- A name and perhaps the name that it goes by elsewhere. -/
def onRenaming (f : Node → Node → Part) : List Part → Except ParseError Part
  | [.token t, .absent] => .ok (f (identifier t) (.plain (.identifier t.text)))
  | [.token t, .token renamed] => .ok (f (identifier t) (identifier renamed))
  | _ => .error .stuck

/-- The nodes of a list, however many there are. -/
def onList (f : List Node → Part) (parts : List Part) : Except ParseError Part :=
  .ok (f (Part.compact parts))

/-- Decorators and what they decorate. -/
def onDecorated (f : Node → Part) (parts : List Part) : Except ParseError Part :=
  match decorated? parts with
  | some n => .ok (f n)
  | none => .error .stuck

/-- A node of nodes, placed where the first of them stands. -/
def listNode (form : List Node → Form Node) (ns : List Node) : Part :=
  .node ⟨Located.place (ns.map .node), form ns⟩

def returnStatement : List Part → Except ParseError Part
  | [.absent] => .ok (.node (.plain (.returnStatement none)))
  | [.node n] => .ok (.node ⟨n.place, .returnStatement (some n)⟩)
  | _ => .error .stuck

def ifStatement : List Part → Except ParseError Part
  | [.node test, .node consequent, last] =>
    match last.optional? with
    | some alternate =>
      let place := Located.place [.node test, .node consequent, .optional alternate]
      .ok (.node ⟨place, .ifStatement test consequent alternate⟩)
    | none => .error .stuck
  | _ => .error .stuck

def variableList : List Part → Except ParseError Part
  | .token kind :: parts =>
    .ok (.node ⟨kind.place, .variableDeclaration kind.text (Part.compact parts)⟩)
  | _ => .error .stuck

def importFrom : List Part → Except ParseError Part
  | [.nodes specifiers, .token t] =>
    (string t).map fun source =>
      .node ⟨Located.place (specifiers.map .node), .importDeclaration specifiers source⟩
  | _ => .error .stuck

/-- A decorator without or with arguments. -/
def decorator : List Part → Except ParseError Part
  | [.node target, .absent] => .ok (.node ⟨target.place, .decorator target⟩)
  | [.node target, .nodes arguments] =>
    .ok (.node ⟨target.place, .decorator ⟨target.place, .call target arguments false⟩⟩)
  | _ => .error .stuck

def property : List Part → Except ParseError Part
  | [first, .node value] =>
    match first.key? with
    | some (key, computed) => .ok (.node ⟨key.place, .objectProperty key value computed false⟩)
    | none => .error .stuck
  | _ => .error .stuck

def propertyDefault : List Part → Except ParseError Part
  | [first, .node target, .node fallback] =>
    match first.key? with
    | some (key, computed) =>
      let value : Node := ⟨target.place, .assignmentPattern target fallback⟩
      .ok (.node ⟨key.place, .objectProperty key value computed false⟩)
    | none => .error .stuck
  | _ => .error .stuck

def assign : List Part → Except ParseError Part
  | [.node left, .word operator, .node right] =>
    .ok (.node ⟨left.place, .assignment operator left right⟩)
  | _ => .error .stuck

def call : List Part → Except ParseError Part
  | [.node callee, .nodes arguments] =>
    .ok (.node ⟨callee.place, .call callee arguments false⟩)
  | _ => .error .stuck

def objectMethod : List Part → Except ParseError Part
  | [first, second, .node body] =>
    match first.key?, second.list? with
    | some (key, computed), some params =>
      .ok (.node ⟨key.place, .objectMethod key params body computed⟩)
    | _, _ => .error .stuck
  | _ => .error .stuck

def newExpression : List Part → Except ParseError Part
  | [.node callee, last] =>
    match last.list? with
    | some arguments => .ok (.node ⟨callee.place, .new callee arguments⟩)
    | none => .error .stuck
  | _ => .error .stuck

def functionExpression : List Part → Except ParseError Part
  | [first, second, .node body] =>
    match first.optionalToken?, second.list? with
    | some name, some params =>
      let id := name.map identifier
      .ok (.node ⟨Located.place [.optional id, .node body], .functionExpression id params body⟩)
    | _, _ => .error .stuck
  | _ => .error .stuck

def arrowFunction : List Part → Except ParseError Part
  | [.nodes params, .node body] =>
    .ok (.node ⟨Located.place [.nodes params, .node body], .arrow params body⟩)
  | _ => .error .stuck

def classExpression : List Part → Except ParseError Part
  | [first, second, .node body] =>
    match first.optionalToken?, second.optional? with
    | some name, some superClass =>
      let id := name.map identifier
      let place := Located.place [.optional id, .optional superClass, .node body]
      .ok (.node ⟨place, .classExpression id superClass body []⟩)
    | _, _ => .error .stuck
  | _ => .error .stuck

/-- The decorators before the last `count` parts. -/
def leadingDecorators (count : Nat) (parts : List Part) : List Node :=
  (Part.compact (parts.take (parts.length - count))).filter isDecorator

/-- Where a member of a class starts: with a decorator, the word `static` or its key. -/
def memberPlace (decorators : List Node) (static : Option Token) (key : Node) : Place :=
  let mark := (static.map fun t => Located.part t.place).getD .unlocated
  Located.place [.nodes decorators, mark, .node key]

def classMethod (parts : List Part) : Except ParseError Part :=
  let decorators := leadingDecorators 5 parts
  match parts.drop (parts.length - 5) with
  | [first, accessor, third, fourth, .node body] =>
    match first.optionalToken?, third.key?, fourth.list? with
    | some static, some (key, computed), some params =>
      let kind : Text :=
        match accessor with
        | .word w => w
        | _ => "method"
      .ok (.node ⟨memberPlace decorators static key,
        .classMethod key params body kind static.isSome computed decorators⟩)
    | _, _, _ => .error .stuck
  | _ => .error .stuck

def classProperty (parts : List Part) : Except ParseError Part :=
  let decorators := leadingDecorators 3 parts
  match parts.drop (parts.length - 3) with
  | [first, second, last] =>
    match first.optionalToken?, second.key?, last.optional? with
    | some static, some (key, computed), some value =>
      .ok (.node ⟨memberPlace decorators static key,
        .classProperty key value static.isSome computed decorators⟩)
    | _, _, _ => .error .stuck
  | _ => .error .stuck

def paired : List Part → Except ParseError Part
  | .node name :: parts =>
    match parts.getLast? with
    | some (.node closing) =>
      (pairedElement name (Part.compact parts.dropLast) closing).map .node
    | _ => .error .stuck
  | _ => .error .stuck

def selfClosing : List Part → Except ParseError Part
  | .node name :: parts => .ok (.node (element name (Part.compact parts) true))
  | _ => .error .stuck

def jsxNamespacedName : List Part → Except ParseError Part
  | [.token space, .token name] =>
    .ok (.node ⟨space.place, .jsxNamespacedName (jsxIdentifier space) (jsxIdentifier name)⟩)
  | _ => .error .stuck

/-- What an action makes of the parts; `stuck` if they are not of its kind. -/
@[grind =] def apply : Action → List Part → Except ParseError Part
  | .program => onList fun body => .node (.plain (.program body))
  | .expressionStatement => onNode fun n => .node (asStatement n)
  | .block => onList (listNode .block)
  | .returnStatement => returnStatement
  | .throwStatement => onNode fun n => .node ⟨n.place, .throwStatement n⟩
  | .ifStatement => ifStatement
  | .variableList => variableList
  | .declarator => onNodeOptional fun target init => .node ⟨target.place, .declarator target init⟩
  | .importFrom => importFrom
  | .importBare => onToken fun t =>
    (string t).map fun source => .node ⟨source.place, .importDeclaration [] source⟩
  | .importClause => fun parts => .ok (.nodes (parts.flatMap fun p => p.list?.getD []))
  | .importDefault => onToken fun t => .ok (.nodes [⟨t.place, .importDefault (identifier t)⟩])
  | .importNamespace => onToken fun t =>
    .ok (.nodes [⟨t.place, .importNamespace (identifier t)⟩])
  | .nodes => onList .nodes
  | .importSpecifier => onRenaming fun imported localName =>
    .node ⟨imported.place, .importSpecifier imported localName⟩
  | .exportDefault => onNode fun n =>
    .node ⟨(asDeclaration n).place, .exportDefault (asDeclaration n)⟩
  | .exportNamed => onNode fun n =>
    .node ⟨(asDeclaration n).place, .exportNamed (some (asDeclaration n)) []⟩
  | .exportSpecifiers => onList (listNode (.exportNamed none))
  | .exportSpecifier => onRenaming fun exportee exported =>
    .node ⟨exportee.place, .exportSpecifier exportee exported⟩
  | .decoratedClass => onDecorated .node
  | .decoratedExportDefault => onDecorated fun n => .node ⟨n.place, .exportDefault n⟩
  | .decoratedExportNamed => onDecorated fun n => .node ⟨n.place, .exportNamed (some n) []⟩
  | .decorator => decorator
  | .decoratorMember => onNodeToken fun object t =>
    .node ⟨object.place, .member object (identifier t) false⟩
  | .identifier => onToken fun t => .ok (.node (identifier t))
  | .objectPattern => onList (listNode .objectPattern)
  | .arrayPattern => onList (listNode .arrayPattern)
  | .shorthand => onToken fun t =>
    .ok (.node ⟨t.place,
      .objectProperty (identifier t) (.plain (.identifier t.text)) false true⟩)
  | .shorthandDefault => onTokenNode fun t fallback =>
    let value : Node := ⟨t.place, .assignmentPattern (.plain (.identifier t.text)) fallback⟩
    .node ⟨t.place, .objectProperty (identifier t) value false true⟩
  | .property => property
  | .propertyDefault => propertyDefault
  | .restName => onToken fun t => .ok (.node ⟨t.place, .restElement (identifier t)⟩)
  | .restElement => onNode fun n => .node ⟨n.place, .restElement n⟩
  | .assignmentPattern => onTwoNodes fun left right =>
    .node ⟨left.place, .assignmentPattern left right⟩
  | .word => onToken fun t => .ok (.word t.text)
  | .assign => assign
  | .conditional => onThreeNodes fun test consequent alternate =>
    .node ⟨test.place, .conditional test consequent alternate⟩
  | .logical => onOperator fun left t right => .node ⟨left.place, .logical t.text left right⟩
  | .binary => onOperator fun left t right => .node ⟨left.place, .binary t.text left right⟩
  | .unary => onTokenNode fun t argument => .node ⟨t.place, .unary t.text argument⟩
  | .updateLeading => onTokenNode fun t argument => .node ⟨t.place, .update t.text argument true⟩
  | .updateTrailing => onNodeToken fun argument t =>
    .node ⟨argument.place, .update t.text argument false⟩
  | .member => onTwoNodes fun object property =>
    .node ⟨object.place, .member object property false⟩
  | .computedMember => onTwoNodes fun object property =>
    .node ⟨object.place, .member object property true⟩
  | .call => call
  | .this => onToken fun t => .ok (.node ⟨t.place, .this⟩)
  | .true => onToken fun t => .ok (.node ⟨t.place, .boolean .true⟩)
  | .false => onToken fun t => .ok (.node ⟨t.place, .boolean .false⟩)
  | .null => onToken fun t => .ok (.node ⟨t.place, .null⟩)
  | .string => onToken fun t => (string t).map .node
  | .number => onToken fun t => (number t).map .node
  | .template => onToken fun t => .ok (.node ⟨t.place, .template t.text⟩)
  | .array => onList (listNode .arrayExpression)
  | .spread => onNode fun n => .node ⟨n.place, .spread n⟩
  | .object => onList (listNode .objectExpression)
  | .objectMethod => objectMethod
  | .computedKey => onNode .computedKey
  | .newExpression => newExpression
  | .functionExpression => functionExpression
  | .arrowFunction => arrowFunction
  | .arrowName => onToken fun t => .ok (.nodes [identifier t])
  | .arrowEmpty => fun _ => .ok (.nodes [])
  | .arrowList => fun parts => (toPatterns (Part.compact parts)).map .nodes
  | .classExpression => classExpression
  | .classBody => onList (listNode .classBody)
  | .classMethod => classMethod
  | .classProperty => classProperty
  | .emptyMember => fun _ => .ok .absent
  | .pairedElement => paired
  | .selfClosingElement => selfClosing
  | .jsxText => onToken fun t => (jsxText t).map .node
  | .container => onNode fun n => .node ⟨n.place, .jsxExpressionContainer n⟩
  | .emptyContainer => fun _ =>
    .ok (.node (.plain (.jsxExpressionContainer (.plain .jsxEmptyExpression))))
  | .jsxIdentifier => onToken fun t => .ok (.node (jsxIdentifier t))
  | .jsxNamespacedName => jsxNamespacedName
  | .jsxMember => onNodeToken fun object t =>
    .node ⟨object.place, .jsxMember object (jsxIdentifier t)⟩
  | .jsxAttribute => onNodeOptional fun name value => .node ⟨name.place, .jsxAttribute name value⟩
  | .jsxSpreadAttribute => onNode fun n => .node ⟨n.place, .jsxSpreadAttribute n⟩
  | .jsxString => onToken fun t => (jsxString t).map .node

end Build

end Hyperscript.Grammar
