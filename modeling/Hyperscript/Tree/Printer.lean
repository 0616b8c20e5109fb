import Hyperscript.Tree.Kind

/-!
# Printing

`Node.print` writes a tree as source text. Parentheses stand only where precedence asks for them.
A call marked pretty may get one argument per line, and an object goes on one line unless a member
needs several. Markup has no printed form, so a tree must be lowered first.
-/
namespace Hyperscript

/-- A node that has no printed form. -/
structure Unprintable where
  typeName : Text
  deriving DecidableEq, Repr

def Unprintable.message (e : Unprintable) : Text := "Cannot print " ++ e.typeName ++ " node"

namespace Precedence

def assignment : Nat := 2
def conditional : Nat := 3
def unary : Nat := 15
def postfixed : Nat := 16
def call : Nat := 17
def primary : Nat := 18

/-- Operators between two operands; one that is not listed binds like `||`. -/
def operators : List (String × Nat) :=
  [("??", 4), ("||", 4), ("&&", 5), ("|", 6), ("^", 7), ("&", 8), ("==", 9), ("!=", 9),
   ("===", 9), ("!==", 9), ("<", 10), (">", 10), ("<=", 10), (">=", 10), ("in", 10),
   ("instanceof", 10), ("<<", 11), (">>", 11), (">>>", 11), ("+", 12), ("-", 12), ("*", 13),
   ("/", 13), ("%", 13), ("**", 14)]

def ofOperator (operator : Text) : Nat :=
  ((operators.find? fun entry => Text.ofString entry.1 = operator).map (·.2)).getD 4

end Precedence

namespace Node

/-- How tightly the printed form of a node binds. -/
def precedence (n : Node) : Nat :=
  match n.form with
  | .assignment .. | .arrow .. => Precedence.assignment
  | .conditional .. => Precedence.conditional
  | .binary operator _ _ | .logical operator _ _ => Precedence.ofOperator operator
  | .unary .. => Precedence.unary
  | .update _ _ leading => if leading then Precedence.unary else Precedence.postfixed
  | .call .. | .member .. | .new .. => Precedence.call
  | _ => Precedence.primary

/-- The leftmost token of the printed form would open a block or a declaration. -/
def startsLikeDeclaration : Node → Bool
  | ⟨_, .objectExpression _⟩ => true
  | ⟨_, .functionExpression ..⟩ => true
  | ⟨_, .classExpression ..⟩ => true
  | ⟨_, .call callee _ _⟩ => startsLikeDeclaration callee
  | ⟨_, .member object _ _⟩ => startsLikeDeclaration object
  | ⟨_, .binary _ left _⟩ => startsLikeDeclaration left
  | ⟨_, .logical _ left _⟩ => startsLikeDeclaration left
  | ⟨_, .assignment _ left _⟩ => startsLikeDeclaration left
  | ⟨_, .conditional test _ _⟩ => startsLikeDeclaration test
  | ⟨_, .update _ argument false⟩ => startsLikeDeclaration argument
  | _ => false

def isBlock (n : Node) : Bool :=
  match n.form with
  | .block _ => true
  | _ => false

def isCall (n : Node) : Bool :=
  match n.form with
  | .call .. => true
  | _ => false

/-- An object, function or class expression, which a default export may start with. -/
def isDeclarationLike (n : Node) : Bool :=
  match n.form with
  | .objectExpression _ | .functionExpression .. | .classExpression .. => true
  | _ => false

/-- The name as it is printed where only an identifier makes sense. -/
def printedName (n : Node) : Text := n.name?.getD []

end Node

namespace Layout

def indent (depth : Nat) : Text := List.replicate (2 * depth) (CodePoint.ofChar ' ')

def parenthesize (needed : Bool) (t : Text) : Text := if needed then "(" ++ t ++ ")" else t

def commas (parts : List Text) : Text := Text.join ", " parts

/-- Items on lines of their own between an opening and a closing bracket. -/
def lines (opening separator closing : Text) (depth : Nat) (items : List Text) : Text :=
  opening ++ "\n" ++ Text.join (separator ++ "\n") (items.map (indent (depth + 1) ++ ·)) ++ "\n" ++
    indent depth ++ closing

/-- Decorators stand above what they decorate. -/
def decorators (depth : Nat) (printed : List Text) : Text :=
  printed.flatMap fun t => t ++ "\n" ++ indent depth

def optionalName (id : Option Node) : Text :=
  match id with
  | none => []
  | some n => " " ++ n.printedName

def functionText (id : Option Node) (params : List Text) (body : Text) : Text :=
  "function" ++ optionalName id ++ "(" ++ commas params ++ ") " ++ body

/-- A class behind the words that export it. -/
def classText (depth : Nat) (exporting : Text) (printedDecorators : List Text) (id : Option Node)
    (superClass : Option Text) (body : Text) : Text :=
  let extension : Text :=
    match superClass with
    | none => []
    | some t => " extends " ++ t
  decorators depth printedDecorators ++ exporting ++ "class" ++ optionalName id ++ extension ++
    " " ++
    body

def importText (printed : List (Bool × Text)) (source : Text) : Text :=
  let others := (printed.filter fun s => !s.1).map (·.2)
  let named := (printed.filter fun s => s.1).map (·.2)
  let parts := if named.isEmpty then others else others ++ ["\x7b " ++ commas named ++ " \x7d"]
  "import " ++ commas parts ++ " from " ++ source ++ ";"

def renamed (name localName : Text) : Text :=
  if name = localName then localName else name ++ " as " ++ localName

/-- Operators that are words, and so need a space after them. -/
def wordOperators : List Text := ["typeof", "void", "delete"]

/-- A unary operator also keeps its distance from an operand that starts with it. -/
def unaryText (operator argument : Text) : Text :=
  if wordOperators.contains operator || operator.isPrefixOf argument then
    operator ++ " " ++ argument
  else operator ++ argument

end Layout

open Layout

namespace Node

/-- A property `{ name }` that stands for `{ name: name }`. -/
def shorthandName? (key value : Node) : Option Text :=
  match key.identifierName?, value.identifierName? with
  | some k, some v => if k = v then some v else none
  | _, _ => none

def isAssignmentPattern (n : Node) : Bool :=
  match n.form with
  | .assignmentPattern .. => true
  | _ => false

def isImportSpecifier (n : Node) : Bool :=
  match n.form with
  | .importSpecifier .. => true
  | _ => false

def isObject (n : Node) : Bool :=
  match n.form with
  | .objectExpression _ => true
  | _ => false

/-- An operand, in parentheses when it binds looser than its position asks. -/
def operand (n : Node) (least : Nat) (printed : Text) : Text :=
  parenthesize (n.precedence < least) printed

/-- The key of a member; a computed one is an expression in brackets. -/
def printedKey (key : Node) (computed : Bool) (printed : Text) : Text :=
  if computed then "[" ++ key.operand Precedence.assignment printed ++ "]" else printed

/-- A body that is an object literal stands in parentheses, lest it be read as a block. -/
def arrowBody (body : Node) (printed : Text) : Text :=
  if body.isObject then "(" ++ printed ++ ")" else body.operand Precedence.assignment printed

def unprintable {β : Type} (n : Node) : Except Unprintable β := .error ⟨n.typeName⟩

section Print

variable (pretty : Bool)

mutual

/-- The printed form of a node that starts at the given depth of indentation. -/
@[grind =] def print (depth : Nat) : Node → Except Unprintable Text
  | ⟨_, .program body⟩ => do
    let lines ← printAll depth 0 body
    return lines.flatMap (· ++ "\n")
  | ⟨_, .block body⟩ => do
    let printed ← printAll (depth + 1) 0 body
    return if printed.isEmpty then "\x7b\x7d" else lines "\x7b" "" "\x7d" depth printed
  | ⟨_, .expressionStatement expression⟩ => do
    let text ← print depth expression
    return parenthesize expression.startsLikeDeclaration text ++ ";"
  | ⟨_, .variableDeclaration kind declarations⟩ => do
    let printed ← printAll depth 0 declarations
    return kind ++ " " ++ commas printed ++ ";"
  | ⟨_, .declarator target none⟩ => print depth target
  | ⟨_, .declarator target (some init)⟩ => do
    let left ← print depth target
    let right ← print depth init
    return left ++ " = " ++ init.operand Precedence.assignment right
  | ⟨_, .returnStatement none⟩ => return "return;"
  | ⟨_, .returnStatement (some argument)⟩ => do
    let text ← print depth argument
    return "return " ++ text ++ ";"
  | ⟨_, .throwStatement argument⟩ => do
    let text ← print depth argument
    return "throw " ++ text ++ ";"
  | ⟨_, .ifStatement test consequent none⟩ => do
    let condition ← print depth test
    let first ← print depth consequent
    return "if (" ++ condition ++ ") " ++ first
  | ⟨_, .ifStatement test consequent (some alternate)⟩ => do
    let condition ← print depth test
    let first ← print depth consequent
    let second ← print depth alternate
    let gap : Text := if consequent.isBlock then " " else "\n" ++ indent depth
    return "if (" ++ condition ++ ") " ++ first ++ gap ++ "else " ++ second
  | ⟨_, .functionDeclaration id params body⟩
  | ⟨_, .functionExpression id params body⟩ => do
    let printed ← printAll depth Precedence.assignment params
    let text ← print depth body
    return functionText id printed text
  | ⟨_, .classDeclaration id superClass body decorators⟩
  | ⟨_, .classExpression id superClass body decorators⟩ => do
    let above ← printAll depth 0 decorators
    let parent ← printOption depth Precedence.call superClass
    let text ← print depth body
    return classText depth "" above id parent text
  | ⟨_, .classBody body⟩ => do
    let printed ← printAll (depth + 1) 0 body
    return if printed.isEmpty then "\x7b\x7d" else lines "\x7b" "\n" "\x7d" depth printed
  | ⟨_, .classMethod key params body kind isStatic computed decorators⟩ => do
    let above ← printAll depth 0 decorators
    let name ← print depth key
    let printed ← printAll depth Precedence.assignment params
    let text ← print depth body
    let static : Text := if isStatic then "static " else ""
    let accessor : Text := if kind = "get" || kind = "set" then kind ++ " " else ""
    return Layout.decorators depth above ++ static ++ accessor ++ key.printedKey computed name ++
      "(" ++ commas printed ++ ") " ++ text
  | ⟨_, .classProperty key value isStatic computed decorators⟩ => do
    let above ← printAll depth 0 decorators
    let name ← print depth key
    let initial ← printOption depth Precedence.assignment value
    let static : Text := if isStatic then "static " else ""
    let assigned : Text :=
      match initial with
      | none => []
      | some t => " = " ++ t
    return Layout.decorators depth above ++ static ++ key.printedKey computed name ++ assigned ++
      ";"
  | ⟨_, .decorator expression⟩ => do
    let text ← print depth expression
    return "@" ++ expression.operand Precedence.call text
  | ⟨_, .importDeclaration specifiers source⟩ => do
    let origin ← print depth source
    let printed ← printAll depth 0 specifiers
    return if specifiers.isEmpty then "import " ++ origin ++ ";"
      else importText ((specifiers.map isImportSpecifier).zip printed) origin
  | ⟨_, .importSpecifier imported localName⟩ =>
    return renamed imported.printedName localName.printedName
  | ⟨_, .importDefault localName⟩ => return localName.printedName
  | ⟨_, .importNamespace localName⟩ => return "* as " ++ localName.printedName
  | ⟨_, .exportDefault ⟨_, .classDeclaration id superClass body decorators⟩⟩ => do
    let above ← printAll depth 0 decorators
    let parent ← printOption depth Precedence.call superClass
    let text ← print depth body
    return classText depth "export default " above id parent text
  | ⟨_, .exportDefault ⟨_, .functionDeclaration id params body⟩⟩ => do
    let printed ← printAll depth Precedence.assignment params
    let text ← print depth body
    return "export default " ++ functionText id printed text
  | ⟨_, .exportDefault declaration⟩ => do
    let text ← print depth declaration
    let ambiguous := declaration.startsLikeDeclaration && !declaration.isDeclarationLike
    let guarded := parenthesize ambiguous (declaration.operand Precedence.assignment text)
    return "export default " ++ guarded ++ ";"
  | ⟨_, .exportNamed (some ⟨_, .classDeclaration id superClass body decorators⟩) _⟩ => do
    let above ← printAll depth 0 decorators
    let parent ← printOption depth Precedence.call superClass
    let text ← print depth body
    return classText depth "export " above id parent text
  | ⟨_, .exportNamed (some declaration) _⟩ => do
    let text ← print depth declaration
    return "export " ++ text
  | ⟨_, .exportNamed none specifiers⟩ => do
    let printed ← printAll depth 0 specifiers
    let listed := commas printed
    return if listed.isEmpty then "export \x7b\x7d;" else "export \x7b " ++ listed ++ " \x7d;"
  | ⟨_, .exportSpecifier exportee exported⟩ =>
    return if exportee.printedName = exported.printedName then exportee.printedName
      else exportee.printedName ++ " as " ++ exported.printedName
  | ⟨_, .identifier name⟩ => return name
  | ⟨_, .this⟩ => return "this"
  | ⟨_, .string value spelling⟩ => return spelling.getD value.quote
  | ⟨_, .number value spelling⟩ => return spelling.getD value.toText
  | ⟨_, .boolean value⟩ => return if value then "true" else "false"
  | ⟨_, .null⟩ => return "null"
  | ⟨_, .template raw⟩ => return raw
  | ⟨_, .arrayExpression elements⟩ => do
    let printed ← printAll depth Precedence.assignment elements
    return "[" ++ commas printed ++ "]"
  | ⟨_, .objectExpression properties⟩ => do
    let printed ← printAll depth 0 properties
    let inline := commas printed
    if printed.isEmpty then return "\x7b\x7d"
    else if inline.contains (CodePoint.ofChar '\n') then
      let members ← printAll (depth + 1) 0 properties
      return lines "\x7b" "," "\x7d" depth members
    else return "\x7b " ++ inline ++ " \x7d"
  | ⟨_, .objectProperty key value computed shorthand⟩ => do
    match (if shorthand && !computed then shorthandName? key value else none) with
    | some name => return name
    | none =>
      if shorthand && !computed && value.isAssignmentPattern then print depth value
      else
        let name ← print depth key
        let text ← print depth value
        return key.printedKey computed name ++ ": " ++ value.operand Precedence.assignment text
  | ⟨_, .objectMethod key params body computed⟩ => do
    let name ← print depth key
    let printed ← printAll depth Precedence.assignment params
    let text ← print depth body
    return key.printedKey computed name ++ "(" ++ commas printed ++ ") " ++ text
  | ⟨_, .spread argument⟩ => do
    let text ← print depth argument
    return "..." ++ argument.operand Precedence.assignment text
  | ⟨_, .member object property computed⟩ => do
    let left ← print depth object
    let right ← print depth property
    let base := object.operand Precedence.call left
    return if computed then base ++ "[" ++ right ++ "]" else base ++ "." ++ right
  | ⟨_, .call callee arguments spacious⟩ => do
    let function ← print depth callee
    if pretty && spacious && !arguments.isEmpty then
      let printed ← printAll (depth + 1) Precedence.assignment arguments
      return callee.operand Precedence.call function ++ lines "(" "," ")" depth printed
    else
      let printed ← printAll depth Precedence.assignment arguments
      return callee.operand Precedence.call function ++ "(" ++ commas printed ++ ")"
  | ⟨_, .new callee arguments⟩ => do
    let text ← print depth callee
    let printed ← printAll depth Precedence.assignment arguments
    let guarded := callee.isCall || callee.precedence < Precedence.call
    return "new " ++ parenthesize guarded text ++ "(" ++ commas printed ++ ")"
  | ⟨_, .unary operator argument⟩ => do
    let text ← print depth argument
    return unaryText operator (argument.operand Precedence.unary text)
  | ⟨_, .update operator argument leading⟩ => do
    if leading then
      let text ← print depth argument
      return operator ++ argument.operand Precedence.unary text
    else
      let text ← print depth argument
      return argument.operand Precedence.postfixed text ++ operator
  | ⟨_, .binary operator left right⟩
  | ⟨_, .logical operator left right⟩ => do
    let first ← print depth left
    let second ← print depth right
    let level := Precedence.ofOperator operator
    return left.operand level first ++ " " ++ operator ++ " " ++ right.operand (level + 1) second
  | ⟨_, .conditional test consequent alternate⟩ => do
    let condition ← print depth test
    let first ← print depth consequent
    let second ← print depth alternate
    return test.operand (Precedence.conditional + 1) condition ++ " ? " ++
      consequent.operand Precedence.assignment first ++ " : " ++
      alternate.operand Precedence.assignment second
  | ⟨_, .assignment operator left right⟩ => do
    let target ← print depth left
    let value ← print depth right
    return left.operand Precedence.call target ++ " " ++ operator ++ " " ++
      right.operand Precedence.assignment value
  | ⟨_, .arrow [⟨_, .identifier name⟩] body⟩ => do
    let text ← print depth body
    return name ++ " => " ++ body.arrowBody text
  | ⟨_, .arrow params body⟩ => do
    let printed ← printAll depth Precedence.assignment params
    let text ← print depth body
    return "(" ++ commas printed ++ ") => " ++ body.arrowBody text
  | ⟨_, .assignmentPattern left right⟩ => do
    let target ← print depth left
    let value ← print depth right
    return target ++ " = " ++ right.operand Precedence.assignment value
  | ⟨_, .restElement argument⟩ => do
    let text ← print depth argument
    return "..." ++ text
  | ⟨_, .objectPattern properties⟩ => do
    let printed ← printAll depth 0 properties
    return if printed.isEmpty then "\x7b\x7d" else "\x7b " ++ commas printed ++ " \x7d"
  | ⟨_, .arrayPattern elements⟩ => do
    let printed ← printAll depth 0 elements
    return "[" ++ commas printed ++ "]"
  | n => n.unprintable

def printAll (depth least : Nat) : List Node → Except Unprintable (List Text)
  | [] => return []
  | n :: rest => do
    let text ← print depth n
    let others ← printAll depth least rest
    return n.operand least text :: others

def printOption (depth least : Nat) : Option Node → Except Unprintable (Option Text)
  | none => return none
  | some n => do
    let text ← print depth n
    return some (n.operand least text)

end

end Print

end Node

end Hyperscript
