import Hyperscript.Text

/-!
# Symbols of the grammar

Terminals are classes of tokens, fixed words and marks. The expression levels form a chain from
assignments down to primaries, and each level comes twice: with and without the right to start
with a brace. An expression that opens a statement has no such right, because there a brace opens
a block.
-/
namespace Hyperscript.Grammar

inductive Terminal where
  -- classes
  | name | number | string | template | jsxName | jsxString | jsxText
  -- words
  | thisWord | trueWord | falseWord | nullWord | staticWord | returnWord | throwWord | ifWord
  | elseWord | constWord | letWord | varWord | importWord | fromWord | asWord | exportWord
  | defaultWord | instanceofWord | inWord | typeofWord | voidWord | deleteWord | newWord
  | functionWord | classWord | extendsWord | getWord | setWord
  -- marks
  | semicolon | comma | dot | ellipsis | colon | question | atSign | arrow | braceOpen
  | braceClose | parenOpen | parenClose | bracketOpen | bracketClose | assign | plusAssign
  | minusAssign | starAssign | slashAssign | percentAssign | orAssign | andAssign | nullishAssign
  | orMark | andMark | nullish | equal | unequal | strictEqual | strictUnequal | less | greater
  | lessEqual | greaterEqual | plus | minus | star | slash | percent | bang | tilde | increment
  | decrement | closing | selfClosing
  -- the end of the text
  | finish
  deriving DecidableEq, Repr

namespace Terminal

/-- Terminals that are spelled in one way only, longer spellings first. -/
def fixed : List (Terminal × String) :=
  [(.instanceofWord, "instanceof"), (.functionWord, "function"), (.defaultWord, "default"),
   (.extendsWord, "extends"), (.staticWord, "static"), (.returnWord, "return"),
   (.importWord, "import"), (.exportWord, "export"), (.typeofWord, "typeof"),
   (.deleteWord, "delete"), (.falseWord, "false"), (.throwWord, "throw"), (.constWord, "const"),
   (.classWord, "class"), (.thisWord, "this"), (.trueWord, "true"), (.nullWord, "null"),
   (.elseWord, "else"), (.fromWord, "from"), (.voidWord, "void"), (.letWord, "let"),
   (.varWord, "var"), (.newWord, "new"), (.getWord, "get"), (.setWord, "set"), (.ellipsis, "..."),
   (.orAssign, "||="), (.andAssign, "&&="), (.nullishAssign, "??="), (.strictEqual, "==="),
   (.strictUnequal, "!=="), (.ifWord, "if"), (.asWord, "as"), (.inWord, "in"), (.arrow, "=>"),
   (.plusAssign, "+="), (.minusAssign, "-="), (.starAssign, "*="), (.slashAssign, "/="),
   (.percentAssign, "%="), (.orMark, "||"), (.andMark, "&&"), (.nullish, "??"), (.equal, "=="),
   (.unequal, "!="), (.lessEqual, "<="), (.greaterEqual, ">="), (.increment, "++"),
   (.decrement, "--"), (.closing, "</"), (.selfClosing, "/>"), (.semicolon, ";"), (.comma, ","),
   (.dot, "."), (.colon, ":"), (.question, "?"), (.atSign, "@"), (.braceOpen, "\x7b"),
   (.braceClose, "\x7d"), (.parenOpen, "("), (.parenClose, ")"), (.bracketOpen, "["),
   (.bracketClose, "]"), (.assign, "="), (.less, "<"), (.greater, ">"), (.plus, "+"), (.minus, "-"),
   (.star, "*"), (.slash, "/"), (.percent, "%"), (.bang, "!"), (.tilde, "~")]

/-- The number of a terminal in sets of terminals. -/
def index (t : Terminal) : Nat := t.ctorIdx

end Terminal

/-- The levels of an expression, from the loosest to the tightest. -/
inductive Level where
  | assign | conditional | logicalOr | logicalAnd | equality | relational | additive
  | multiplicative | unary | postfixed | callMember | primary
  deriving DecidableEq, Repr

namespace Level

def index (l : Level) : Nat := l.ctorIdx

def all : List Level :=
  [.assign, .conditional, .logicalOr, .logicalAnd, .equality, .relational, .additive,
   .multiplicative, .unary, .postfixed, .callMember, .primary]

end Level

inductive Nonterminal where
  /-- The whole text. -/
  | program
  -- statements
  | statements | statement | block | ifStatement | expressionStatement | returnStatement
  | throwStatement | variableList | variableKind | declarator | moreDeclarators
  | importDeclaration | importClause | importDefault | importNamespace | importNamed
  | importSpecifier | moreImports | exportDeclaration | exportSpecifier | moreExports
  | decoratedDeclaration | decorators | decorator | decoratorTarget
  -- bindings
  | pattern | patternProperty | moreProperties | patternElement | moreElements | params | param
  | moreParams
  -- expressions
  | arrowFunction | arrowParams | moreExpressions | arrowBody | assignOperator
  /-- A level of the expression chain; without `brace` it may not start with one. -/
  | chain (brace : Bool) (level : Level)
  | propertyName | arguments | argument | moreArguments | array | arrayItem | moreItems | object
  | objectMember | moreMembers | key | newExpression | newCallee | functionExpression
  | classExpression | classBody | classMembers | classMember | accessor
  -- markup
  | element | children | child | tagName | memberName | memberNameObject | attributes | oneAttribute
  | attributeName | attributeValue
  deriving DecidableEq, Repr

namespace Nonterminal

/-- The number of a nonterminal: the chain level by level, then the others. -/
def index : Nonterminal → Nat
  | .chain brace level => 2 * level.index + (if brace then 0 else 1)
  | a => 24 + a.ctorIdx

/-- An expression in a place where nothing else could start with a brace. -/
abbrev expression : Nonterminal := .chain true .assign

end Nonterminal

inductive Symbol where
  | terminal (t : Terminal)
  | nonterminal (a : Nonterminal)
  deriving DecidableEq, Repr

/-- One number for every symbol: terminals lie below 128, nonterminals above. -/
def Symbol.code : Symbol → Nat
  | .terminal t => t.index
  | .nonterminal a => 128 + a.index

end Hyperscript.Grammar
