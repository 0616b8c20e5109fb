import Hyperscript.Tree.Node

/-!
# Names of node kinds

The name under which a node is listed, and the questions about kinds that several passes ask.
-/
namespace Hyperscript

def BareKind.typeName : BareKind → Text
  | .node => "ASTNode"
  | .expression => "Expr"
  | .literal => "Literal"
  | .statement => "Statement"

def Form.typeName {α : Type} : Form α → Text
  | .bare kind => kind.typeName
  | .identifier .. => "Identifier"
  | .this => "ThisExpression"
  | .member .. => "MemberExpression"
  | .call .. => "CallExpression"
  | .new .. => "NewExpression"
  | .spread .. => "SpreadElement"
  | .unary .. => "UnaryExpression"
  | .update .. => "UpdateExpression"
  | .binary .. => "BinaryExpression"
  | .logical .. => "LogicalExpression"
  | .conditional .. => "ConditionalExpression"
  | .assignment .. => "AssignmentExpression"
  | .arrayExpression .. => "ArrayExpression"
  | .objectExpression .. => "ObjectExpression"
  | .objectProperty .. => "ObjectProperty"
  | .objectMethod .. => "ObjectMethod"
  | .functionExpression .. => "FunctionExpression"
  | .arrow .. => "ArrowFunctionExpression"
  | .classExpression .. => "ClassExpression"
  | .string .. => "StringLiteral"
  | .number .. => "NumericLiteral"
  | .boolean .. => "BooleanLiteral"
  | .null => "NullLiteral"
  | .template .. => "TemplateLiteral"
  | .assignmentPattern .. => "AssignmentPattern"
  | .restElement .. => "RestElement"
  | .objectPattern .. => "ObjectPattern"
  | .arrayPattern .. => "ArrayPattern"
  | .program .. => "Program"
  | .block .. => "BlockStatement"
  | .expressionStatement .. => "ExpressionStatement"
  | .declarator .. => "VariableDeclarator"
  | .variableDeclaration .. => "VariableDeclaration"
  | .returnStatement .. => "ReturnStatement"
  | .throwStatement .. => "ThrowStatement"
  | .ifStatement .. => "IfStatement"
  | .functionDeclaration .. => "FunctionDeclaration"
  | .decorator .. => "Decorator"
  | .classMethod .. => "ClassMethod"
  | .classProperty .. => "ClassProperty"
  | .classBody .. => "ClassBody"
  | .classDeclaration .. => "ClassDeclaration"
  | .importSpecifier .. => "ImportSpecifier"
  | .importDefault .. => "ImportDefaultSpecifier"
  | .importNamespace .. => "ImportNamespaceSpecifier"
  | .importDeclaration .. => "ImportDeclaration"
  | .exportSpecifier .. => "ExportSpecifier"
  | .exportDefault .. => "ExportDefaultDeclaration"
  | .exportNamed .. => "ExportNamedDeclaration"
  | .jsxIdentifier .. => "JSXIdentifier"
  | .jsxNamespacedName .. => "JSXNamespacedName"
  | .jsxMember .. => "JSXMemberExpression"
  | .jsxEmptyExpression => "JSXEmptyExpression"
  | .jsxExpressionContainer .. => "JSXExpressionContainer"
  | .jsxText .. => "JSXText"
  | .jsxAttribute .. => "JSXAttribute"
  | .jsxSpreadAttribute .. => "JSXSpreadAttribute"
  | .jsxElement .. => "JSXElement"

namespace Node

def typeName (n : Node) : Text := n.form.typeName

def isElement (n : Node) : Bool :=
  match n.form with
  | .jsxElement .. => true
  | _ => false

def isNamespacedName (n : Node) : Bool :=
  match n.form with
  | .jsxNamespacedName .. => true
  | _ => false

/-- The name of an identifier, in the script or in markup. -/
def name? (n : Node) : Option Text :=
  match n.form with
  | .identifier name => some name
  | .jsxIdentifier name => some name
  | _ => none

def identifierName? (n : Node) : Option Text :=
  match n.form with
  | .identifier name => some name
  | _ => none

end Node

end Hyperscript
