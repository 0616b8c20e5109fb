import Hyperscript.Grammar.Symbol

/-!
# Productions

The grammar of modules with markup. A right side is a row of slots: what a slot keeps is handed to
the action of the production, in order. A slot for an optional part that is missing takes no input
and hands over an absent part, so that the parts after it keep their position.

`x+` is read by a nonterminal of its own, which is either an `x` or itself followed by an `x`, and
`x*` as that or nothing. Only the whole text may be empty.
-/
namespace Hyperscript.Grammar

inductive Slot where
  | keep (s : Symbol)
  | skip (t : Terminal)
  | absent
  deriving DecidableEq, Repr

/-- The symbol that a slot reads, if it reads one. -/
def Slot.symbol? : Slot → Option Symbol
  | .keep s => some s
  | .skip t => some (.terminal t)
  | .absent => none

/-- What is built from the parts of a right side. -/
inductive Action where
  | program | expressionStatement | block | returnStatement | throwStatement | ifStatement
  | variableList | declarator | importFrom | importBare | importClause | importDefault
  | importNamespace | nodes | importSpecifier | exportDefault | exportNamed | exportSpecifiers
  | exportSpecifier | decoratedClass | decoratedExportDefault | decoratedExportNamed | decorator
  | decoratorMember | identifier | objectPattern | arrayPattern | shorthand | shorthandDefault
  | property | propertyDefault | restName | restElement | assignmentPattern | word | assign
  | conditional | logical | binary | unary | updateLeading | updateTrailing | member
  | computedMember | call | this | true | false | null | string | number | template | array
  | spread | object | objectMethod | computedKey | newExpression | functionExpression
  | arrowFunction | arrowName | arrowEmpty | arrowList | classExpression | classBody | classMethod
  | classProperty | emptyMember | pairedElement | selfClosingElement | jsxText | container
  | emptyContainer | jsxIdentifier | jsxNamespacedName | jsxMember | jsxAttribute
  | jsxSpreadAttribute | jsxString
  deriving DecidableEq, Repr

/-- A production without an action hands over the parts that it kept. -/
structure Production where
  left : Nonterminal
  slots : List Slot
  action : Option Action
  deriving DecidableEq, Repr

def Production.right (p : Production) : List Symbol := p.slots.filterMap Slot.symbol?

/-- Several ways to fill a piece of a right side. -/
abbrev Piece := List (List Slot)

namespace Piece

def keep (s : Symbol) : Piece := [[.keep s]]

def skip (t : Terminal) : Piece := [[.skip t]]

/-- One of several terminals, kept. -/
def oneOf (ts : List Terminal) : Piece := ts.map fun t => [.keep (.terminal t)]

instance : Coe Terminal Piece := ⟨skip⟩

instance : Coe Nonterminal Piece := ⟨fun a => keep (.nonterminal a)⟩

/-- The pieces one after the other, in every combination. -/
def consecutive : List Piece → Piece
  | [] => [[]]
  | p :: rest => p.flatMap fun first => (consecutive rest).map (first ++ ·)

/-- The pieces, or nothing. -/
def optional (pieces : List Piece) : Piece := consecutive pieces ++ [[]]

/-- The pieces, or as many absent parts as they keep. -/
def placed (count : Nat) (pieces : List Piece) : Piece :=
  consecutive pieces ++ [List.replicate count .absent]

/-- Items between commas, and perhaps one more comma; or none. -/
def listed (item more : Nonterminal) : Piece :=
  optional [item, optional [more], optional [Terminal.comma]]

end Piece

open Piece Terminal Nonterminal

/-- An alternative of a nonterminal: the pieces in sequence, and what is built from them. -/
abbrev Alternative := Option Action × List Piece

def builds (action : Action) (pieces : List Piece) : Alternative := (some action, pieces)

def passes (pieces : List Piece) : Alternative := (none, pieces)

def token (t : Terminal) : Piece := keep (.terminal t)

/-- `a+`, for the nonterminal `list` that reads it. -/
def repeated (list a : Nonterminal) : List Alternative := [passes [a], passes [list, a]]

/-- One or more times a comma and an `a`. -/
def commaRepeated (list a : Nonterminal) : List Alternative :=
  [passes [comma, a], passes [list, comma, a]]

/-- Left-associative operators between one level and the next tighter one. -/
def leftAssociative (brace : Bool) (action : Action) (level tighter : Level)
    (operators : List Terminal) : List Alternative :=
  [passes [chain brace tighter],
   builds action [chain brace level, oneOf operators, chain .true tighter]]

/-- The alternatives of an expression level. Only what stands first in it depends on `brace`. -/
def chainAlternatives (brace : Bool) : Level → List Alternative
  | .assign =>
    [passes [chain brace .conditional],
     builds .assign [chain brace .callMember, assignOperator, expression],
     passes [arrowFunction]]
  | .conditional =>
    [passes [chain brace .logicalOr],
     builds .conditional [chain brace .logicalOr, question, expression, colon, expression]]
  | .logicalOr => leftAssociative brace .logical .logicalOr .logicalAnd [orMark, nullish]
  | .logicalAnd => leftAssociative brace .logical .logicalAnd .equality [andMark]
  | .equality =>
    leftAssociative brace .binary .equality .relational
      [equal, unequal, strictEqual, strictUnequal]
  | .relational =>
    leftAssociative brace .binary .relational .additive
      [less, greater, lessEqual, greaterEqual, instanceofWord, inWord]
  | .additive => leftAssociative brace .binary .additive .multiplicative [plus, minus]
  | .multiplicative => leftAssociative brace .binary .multiplicative .unary [star, slash, percent]
  | .unary =>
    [passes [chain brace .postfixed],
     builds .unary
       [oneOf [bang, minus, plus, tilde, typeofWord, voidWord, deleteWord], chain .true .unary],
     builds .updateLeading [oneOf [increment, decrement], chain .true .unary]]
  | .postfixed =>
    [passes [chain brace .callMember],
     builds .updateTrailing [chain brace .callMember, oneOf [increment, decrement]]]
  | .callMember =>
    [passes [chain brace .primary],
     builds .member [chain brace .callMember, dot, propertyName],
     builds .computedMember [chain brace .callMember, bracketOpen, expression, bracketClose],
     builds .call [chain brace .callMember, arguments]]
  | .primary =>
    if brace then [passes [chain .false .primary], passes [object]]
    else
      [builds .identifier [token name],
       builds .this [token thisWord],
       builds .true [token trueWord],
       builds .false [token falseWord],
       builds .null [token nullWord],
       builds .string [token string],
       builds .number [token number],
       builds .template [token template],
       passes [array],
       passes [parenOpen, expression, parenClose],
       passes [functionExpression],
       passes [classExpression],
       passes [newExpression],
       passes [element]]

/-- An element between its tags, or one that closes itself. -/
def elementAlternatives : List Alternative :=
  [builds .pairedElement
     [less, tagName, optional [attributes], greater, optional [children], closing, tagName,
      greater],
   builds .selfClosingElement [less, tagName, optional [attributes], selfClosing]]

def alternatives : Nonterminal → List Alternative
  | .program => [builds .program [optional [statements]]]
  | .statements => repeated statements statement
  | .statement =>
    [passes [importDeclaration],
     passes [exportDeclaration],
     passes [decoratedDeclaration],
     passes [variableList, optional [semicolon]],
     passes [returnStatement],
     passes [throwStatement],
     passes [ifStatement],
     passes [block],
     passes [expressionStatement]]
  | .block => [builds .block [braceOpen, optional [statements], braceClose]]
  | .ifStatement =>
    [builds .ifStatement
      [ifWord, parenOpen, expression, parenClose, statement, placed 1 [elseWord, statement]]]
  | .expressionStatement =>
    [builds .expressionStatement [chain .false .assign, optional [semicolon]]]
  | .returnStatement =>
    [builds .returnStatement [returnWord, placed 1 [expression], optional [semicolon]]]
  | .throwStatement => [builds .throwStatement [throwWord, expression, optional [semicolon]]]
  | .variableList => [builds .variableList [variableKind, declarator, optional [moreDeclarators]]]
  | .variableKind => [passes [oneOf [constWord, letWord, varWord]]]
  | .declarator => [builds .declarator [pattern, placed 1 [assign, expression]]]
  | .moreDeclarators => commaRepeated moreDeclarators declarator
  | .importDeclaration =>
    [builds .importFrom [importWord, importClause, fromWord, token string, optional [semicolon]],
     builds .importBare [importWord, token string, optional [semicolon]]]
  | .importClause =>
    [builds .importClause [importDefault],
     builds .importClause [importDefault, comma, importNamed],
     builds .importClause [importDefault, comma, importNamespace],
     builds .importClause [importNamed],
     builds .importClause [importNamespace]]
  | .importDefault => [builds .importDefault [token name]]
  | .importNamespace => [builds .importNamespace [star, asWord, token name]]
  | .importNamed => [builds .nodes [braceOpen, listed importSpecifier moreImports, braceClose]]
  | .importSpecifier => [builds .importSpecifier [token name, placed 1 [asWord, token name]]]
  | .moreImports => commaRepeated moreImports importSpecifier
  | .exportDeclaration =>
    [builds .exportDefault [exportWord, defaultWord, expression, optional [semicolon]],
     builds .exportNamed [exportWord, variableList, optional [semicolon]],
     builds .exportNamed [exportWord, functionExpression],
     builds .exportNamed [exportWord, classExpression],
     builds .exportSpecifiers
       [exportWord, braceOpen, listed exportSpecifier moreExports, braceClose,
        optional [semicolon]]]
  | .exportSpecifier => [builds .exportSpecifier [token name, placed 1 [asWord, token name]]]
  | .moreExports => commaRepeated moreExports exportSpecifier
  | .decoratedDeclaration =>
    [builds .decoratedClass [decorators, classExpression],
     builds .decoratedExportDefault [decorators, exportWord, defaultWord, classExpression],
     builds .decoratedExportNamed [decorators, exportWord, classExpression]]
  | .decorators => repeated decorators decorator
  | .decorator => [builds .decorator [atSign, decoratorTarget, placed 1 [arguments]]]
  | .decoratorTarget =>
    [builds .identifier [token name],
     builds .decoratorMember [decoratorTarget, dot, token name]]
  | .pattern =>
    [builds .identifier [token name],
     builds .objectPattern [braceOpen, listed patternProperty moreProperties, braceClose],
     builds .arrayPattern [bracketOpen, listed patternElement moreElements, bracketClose]]
  | .patternProperty =>
    [builds .shorthand [token name],
     builds .shorthandDefault [token name, assign, expression],
     builds .property [key, colon, pattern],
     builds .propertyDefault [key, colon, pattern, assign, expression],
     builds .restName [ellipsis, token name]]
  | .moreProperties => commaRepeated moreProperties patternProperty
  | .patternElement =>
    [passes [pattern],
     builds .assignmentPattern [pattern, assign, expression],
     builds .restElement [ellipsis, pattern]]
  | .moreElements => commaRepeated moreElements patternElement
  | .params => [builds .nodes [param, optional [moreParams], optional [comma]]]
  | .param =>
    [passes [pattern],
     builds .assignmentPattern [pattern, assign, expression],
     builds .restElement [ellipsis, pattern]]
  | .moreParams => commaRepeated moreParams param
  | .arrowFunction => [builds .arrowFunction [arrowParams, arrow, arrowBody]]
  | .arrowParams =>
    [builds .arrowName [token name],
     builds .arrowEmpty [parenOpen, parenClose],
     builds .arrowList [parenOpen, expression, optional [moreExpressions], parenClose]]
  | .moreExpressions => commaRepeated moreExpressions expression
  | .arrowBody => [passes [block], passes [chain .false .assign]]
  | .assignOperator =>
    [builds .word
      [oneOf [assign, plusAssign, minusAssign, starAssign, slashAssign, percentAssign, orAssign,
        andAssign, nullishAssign]]]
  | .chain brace level => chainAlternatives brace level
  | .propertyName => [builds .identifier [token name]]
  | .arguments => [builds .nodes [parenOpen, listed argument moreArguments, parenClose]]
  | .argument => [passes [expression], builds .spread [ellipsis, expression]]
  | .moreArguments => commaRepeated moreArguments argument
  | .array => [builds .array [bracketOpen, listed arrayItem moreItems, bracketClose]]
  | .arrayItem => [passes [expression], builds .spread [ellipsis, expression]]
  | .moreItems => commaRepeated moreItems arrayItem
  | .object => [builds .object [braceOpen, listed objectMember moreMembers, braceClose]]
  | .objectMember =>
    [builds .property [key, colon, expression],
     builds .shorthand [token name],
     builds .objectMethod [key, parenOpen, placed 1 [params], parenClose, block],
     builds .spread [ellipsis, expression]]
  | .moreMembers => commaRepeated moreMembers objectMember
  | .key =>
    [builds .identifier [token name],
     builds .string [token string],
     builds .number [token number],
     builds .computedKey [bracketOpen, expression, bracketClose]]
  | .newExpression => [builds .newExpression [newWord, newCallee, placed 1 [arguments]]]
  | .newCallee =>
    [builds .identifier [token name],
     builds .this [token thisWord],
     builds .member [newCallee, dot, propertyName]]
  | .functionExpression =>
    [builds .functionExpression
      [functionWord, placed 1 [token name], parenOpen, placed 1 [params], parenClose, block]]
  | .classExpression =>
    [builds .classExpression
      [classWord, placed 1 [token name], placed 1 [extendsWord, chain .true .callMember],
       classBody]]
  | .classBody => [builds .classBody [braceOpen, optional [classMembers], braceClose]]
  | .classMembers => repeated classMembers classMember
  | .classMember =>
    [builds .classMethod
       [optional [decorators], placed 1 [token staticWord], placed 1 [accessor], key, parenOpen,
        placed 1 [params], parenClose, block],
     builds .classProperty
       [optional [decorators], placed 1 [token staticWord], key, placed 1 [assign, expression],
        optional [semicolon]],
     builds .emptyMember [semicolon]]
  | .accessor => [builds .word [oneOf [getWord, setWord]]]
  | .element => elementAlternatives
  | .children => repeated Nonterminal.children child
  | .child =>
    [builds .jsxText [token jsxText],
     builds .container [braceOpen, expression, braceClose],
     builds .emptyContainer [braceOpen, braceClose]] ++ elementAlternatives
  | .tagName =>
    [builds .jsxIdentifier [token jsxName],
     passes [memberName],
     builds .jsxNamespacedName [token jsxName, colon, token jsxName]]
  | .memberName => [builds .jsxMember [memberNameObject, dot, token jsxName]]
  | .memberNameObject => [builds .jsxIdentifier [token jsxName], passes [memberName]]
  | .attributes => repeated attributes oneAttribute
  | .oneAttribute =>
    [builds .jsxAttribute [attributeName, placed 1 [assign, attributeValue]],
     builds .jsxSpreadAttribute [braceOpen, ellipsis, expression, braceClose]]
  | .attributeName =>
    [builds .jsxIdentifier [token jsxName],
     builds .jsxNamespacedName [token jsxName, colon, token jsxName]]
  | .attributeValue =>
    [builds .jsxString [token jsxString],
     builds .container [braceOpen, expression, braceClose]]

def Alternative.productions (left : Nonterminal) (a : Alternative) : List Production :=
  (consecutive a.2).map fun slots => ⟨left, slots, a.1⟩

def Nonterminal.productions (a : Nonterminal) : List Production :=
  (alternatives a).flatMap (Alternative.productions a)

def nonterminals : List Nonterminal :=
  ([.program, .statements, .statement, .block, .ifStatement, .expressionStatement,
    .returnStatement, .throwStatement, .variableList, .variableKind, .declarator, .moreDeclarators,
    .importDeclaration, .importClause, .importDefault, .importNamespace, .importNamed,
    .importSpecifier, .moreImports, .exportDeclaration, .exportSpecifier, .moreExports,
    .decoratedDeclaration, .decorators, .decorator, .decoratorTarget, .pattern, .patternProperty,
    .moreProperties, .patternElement, .moreElements, .params, .param, .moreParams, .arrowFunction,
    .arrowParams, .moreExpressions, .arrowBody, .assignOperator] : List Nonterminal) ++
  Level.all.flatMap (fun level => [Nonterminal.chain .true level, .chain .false level]) ++
  ([.propertyName, .arguments, .argument, .moreArguments, .array, .arrayItem, .moreItems, .object,
    .objectMember, .moreMembers, .key, .newExpression, .newCallee, .functionExpression,
    .classExpression, .classBody, .classMembers, .classMember, .accessor, .element, .children,
    .child, .tagName, .memberName, .memberNameObject, .attributes, .oneAttribute, .attributeName,
    .attributeValue] : List Nonterminal)

/-- All productions, numbered by their position. -/
def productions : List Production := nonterminals.flatMap Nonterminal.productions

end Hyperscript.Grammar
