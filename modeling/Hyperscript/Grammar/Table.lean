import Hyperscript.Grammar.Production

/-!
# The parsing table

The LALR(1) automaton of the grammar, state by state. A row holds what the parser shifts, where it
goes after a reduction, and what it reduces on which lookaheads. Where a terminal could be shifted
or reduced on, it is shifted. State zero is the start, and no state reduces by two productions on
the same lookahead.

The parser does not trust the table: a reduction is made only if the symbols on its stack are those
of the production.
-/
namespace Hyperscript.Grammar

/-- What the parser may do in one state. A reduction names its production by the nonterminal and the
position among its productions. -/
structure Row where
  shifts : List (Terminal × Nat)
  gotos : List (Nonterminal × Nat)
  reductions : List (List Terminal × Nonterminal × Nat)

namespace Table

/-- Lookahead sets, the most frequent first. -/
def lookaheads : List (List Terminal) :=
  [[.name, .number, .string, .template, .thisWord, .trueWord, .falseWord, .nullWord, .staticWord,
    .returnWord, .throwWord, .ifWord, .elseWord, .constWord, .letWord, .varWord, .importWord,
    .exportWord, .instanceofWord, .inWord, .typeofWord, .voidWord, .deleteWord, .newWord,
    .functionWord, .classWord, .getWord, .setWord, .semicolon, .comma, .dot, .colon, .question,
    .atSign, .braceOpen, .braceClose, .parenOpen, .parenClose, .bracketOpen, .bracketClose, .assign,
    .plusAssign, .minusAssign, .starAssign, .slashAssign, .percentAssign, .orAssign, .andAssign,
    .nullishAssign, .orMark, .andMark, .nullish, .equal, .unequal, .strictEqual, .strictUnequal,
    .less, .greater, .lessEqual, .greaterEqual, .plus, .minus, .star, .slash, .percent, .bang,
    .tilde, .increment, .decrement, .finish],
   [.name, .number, .string, .template, .thisWord, .trueWord, .falseWord, .nullWord, .returnWord,
    .throwWord, .ifWord, .elseWord, .constWord, .letWord, .varWord, .importWord, .exportWord,
    .typeofWord, .voidWord, .deleteWord, .newWord, .functionWord, .classWord, .atSign, .braceOpen,
    .braceClose, .parenOpen, .bracketOpen, .less, .plus, .minus, .bang, .tilde, .increment,
    .decrement, .finish],
   [.name, .number, .string, .template, .thisWord, .trueWord, .falseWord, .nullWord, .staticWord,
    .returnWord, .throwWord, .ifWord, .elseWord, .constWord, .letWord, .varWord, .importWord,
    .exportWord, .instanceofWord, .inWord, .typeofWord, .voidWord, .deleteWord, .newWord,
    .functionWord, .classWord, .getWord, .setWord, .semicolon, .comma, .colon, .question, .atSign,
    .braceOpen, .braceClose, .parenOpen, .parenClose, .bracketOpen, .bracketClose, .orMark,
    .andMark, .nullish, .equal, .unequal, .strictEqual, .strictUnequal, .less, .greater, .lessEqual,
    .greaterEqual, .plus, .minus, .star, .slash, .percent, .bang, .tilde, .increment, .decrement,
    .finish],
   [.name, .number, .string, .staticWord, .getWord, .setWord, .semicolon, .atSign, .braceClose,
    .bracketOpen],
   [.comma, .braceClose],
   [.name, .number, .string, .template, .thisWord, .trueWord, .falseWord, .nullWord, .staticWord,
    .returnWord, .throwWord, .ifWord, .elseWord, .constWord, .letWord, .varWord, .importWord,
    .exportWord, .instanceofWord, .inWord, .typeofWord, .voidWord, .deleteWord, .newWord,
    .functionWord, .classWord, .getWord, .setWord, .semicolon, .comma, .colon, .question, .atSign,
    .braceOpen, .braceClose, .parenOpen, .parenClose, .bracketOpen, .bracketClose, .orMark,
    .andMark, .nullish, .equal, .unequal, .strictEqual, .strictUnequal, .less, .greater, .lessEqual,
    .greaterEqual, .bang, .tilde, .increment, .decrement, .finish],
   [.name, .number, .string, .template, .thisWord, .trueWord, .falseWord, .nullWord, .staticWord,
    .returnWord, .throwWord, .ifWord, .elseWord, .constWord, .letWord, .varWord, .importWord,
    .exportWord, .typeofWord, .voidWord, .deleteWord, .newWord, .functionWord, .classWord, .getWord,
    .setWord, .semicolon, .comma, .colon, .atSign, .braceOpen, .braceClose, .parenOpen, .parenClose,
    .bracketOpen, .bracketClose, .less, .plus, .minus, .bang, .tilde, .increment, .decrement,
    .finish],
   [.name, .number, .string, .template, .thisWord, .trueWord, .falseWord, .nullWord, .returnWord,
    .throwWord, .ifWord, .elseWord, .constWord, .letWord, .varWord, .importWord, .exportWord,
    .typeofWord, .voidWord, .deleteWord, .newWord, .functionWord, .classWord, .semicolon, .comma,
    .atSign, .braceOpen, .braceClose, .parenOpen, .parenClose, .bracketOpen, .bracketClose, .assign,
    .less, .plus, .minus, .bang, .tilde, .increment, .decrement, .finish],
   [.fromWord],
   [.comma, .parenClose],
   [.jsxText, .braceOpen, .less, .closing],
   [.name, .number, .string, .template, .thisWord, .trueWord, .falseWord, .nullWord, .staticWord,
    .returnWord, .throwWord, .ifWord, .elseWord, .constWord, .letWord, .varWord, .importWord,
    .exportWord, .typeofWord, .voidWord, .deleteWord, .newWord, .functionWord, .classWord, .getWord,
    .setWord, .semicolon, .comma, .colon, .question, .atSign, .braceOpen, .braceClose, .parenOpen,
    .parenClose, .bracketOpen, .bracketClose, .orMark, .andMark, .nullish, .equal, .unequal,
    .strictEqual, .strictUnequal, .plus, .minus, .bang, .tilde, .increment, .decrement, .finish],
   [.jsxName, .braceOpen, .greater, .selfClosing],
   [.name, .number, .string, .template, .thisWord, .trueWord, .falseWord, .nullWord, .typeofWord,
    .voidWord, .deleteWord, .newWord, .functionWord, .classWord, .braceOpen, .parenOpen,
    .bracketOpen, .less, .plus, .minus, .bang, .tilde, .increment, .decrement],
   [.comma, .bracketClose],
   [.name, .number, .string, .staticWord, .getWord, .setWord, .atSign, .braceClose, .bracketOpen],
   [.name, .number, .string, .template, .thisWord, .trueWord, .falseWord, .nullWord, .staticWord,
    .returnWord, .throwWord, .ifWord, .elseWord, .constWord, .letWord, .varWord, .importWord,
    .exportWord, .typeofWord, .voidWord, .deleteWord, .newWord, .functionWord, .classWord, .getWord,
    .setWord, .semicolon, .comma, .colon, .question, .atSign, .braceOpen, .braceClose, .parenOpen,
    .parenClose, .bracketOpen, .bracketClose, .orMark, .nullish, .less, .plus, .minus, .bang,
    .tilde, .increment, .decrement, .finish],
   [.name, .number, .string, .template, .thisWord, .trueWord, .falseWord, .nullWord, .staticWord,
    .returnWord, .throwWord, .ifWord, .elseWord, .constWord, .letWord, .varWord, .importWord,
    .exportWord, .instanceofWord, .inWord, .typeofWord, .voidWord, .deleteWord, .newWord,
    .functionWord, .classWord, .getWord, .setWord, .semicolon, .comma, .colon, .question, .atSign,
    .braceOpen, .braceClose, .parenOpen, .parenClose, .bracketOpen, .bracketClose, .orMark,
    .andMark, .nullish, .equal, .unequal, .strictEqual, .strictUnequal, .less, .greater, .lessEqual,
    .greaterEqual, .plus, .minus, .bang, .tilde, .increment, .decrement, .finish],
   [.name, .number, .string, .staticWord, .exportWord, .classWord, .getWord, .setWord, .atSign,
    .bracketOpen],
   [.arrow],
   [.name, .number, .string, .template, .thisWord, .trueWord, .falseWord, .nullWord, .staticWord,
    .returnWord, .throwWord, .ifWord, .elseWord, .constWord, .letWord, .varWord, .importWord,
    .exportWord, .typeofWord, .voidWord, .deleteWord, .newWord, .functionWord, .classWord, .getWord,
    .setWord, .semicolon, .comma, .colon, .question, .atSign, .braceOpen, .braceClose, .parenOpen,
    .parenClose, .bracketOpen, .bracketClose, .orMark, .andMark, .nullish, .less, .plus, .minus,
    .bang, .tilde, .increment, .decrement, .finish],
   [.name, .number, .string, .template, .thisWord, .trueWord, .falseWord, .nullWord, .returnWord,
    .throwWord, .ifWord, .elseWord, .constWord, .letWord, .varWord, .importWord, .exportWord,
    .typeofWord, .voidWord, .deleteWord, .newWord, .functionWord, .classWord, .semicolon, .comma,
    .atSign, .braceOpen, .braceClose, .parenOpen, .bracketOpen, .less, .plus, .minus, .bang, .tilde,
    .increment, .decrement, .finish],
   [.parenClose],
   [.name, .number, .string, .template, .thisWord, .trueWord, .falseWord, .nullWord, .returnWord,
    .throwWord, .ifWord, .constWord, .letWord, .varWord, .importWord, .exportWord, .typeofWord,
    .voidWord, .deleteWord, .newWord, .functionWord, .classWord, .atSign, .braceOpen, .braceClose,
    .parenOpen, .bracketOpen, .less, .plus, .minus, .bang, .tilde, .increment, .decrement, .finish],
   [.name, .braceOpen, .bracketOpen],
   [.name, .number, .string, .template, .thisWord, .trueWord, .falseWord, .nullWord, .staticWord,
    .returnWord, .throwWord, .ifWord, .elseWord, .constWord, .letWord, .varWord, .importWord,
    .exportWord, .instanceofWord, .inWord, .typeofWord, .voidWord, .deleteWord, .newWord,
    .functionWord, .classWord, .getWord, .setWord, .semicolon, .comma, .colon, .question, .atSign,
    .braceOpen, .braceClose, .parenClose, .bracketClose, .orMark, .andMark, .nullish, .equal,
    .unequal, .strictEqual, .strictUnequal, .less, .greater, .lessEqual, .greaterEqual, .plus,
    .minus, .star, .slash, .percent, .bang, .tilde, .finish],
   [.name, .number, .string, .staticWord, .getWord, .setWord, .semicolon, .colon, .atSign,
    .braceClose, .parenOpen, .bracketOpen, .assign],
   [.finish],
   [.name, .number, .string, .template, .thisWord, .trueWord, .falseWord, .nullWord, .returnWord,
    .throwWord, .ifWord, .elseWord, .constWord, .letWord, .varWord, .importWord, .exportWord,
    .typeofWord, .voidWord, .deleteWord, .newWord, .functionWord, .classWord, .semicolon, .atSign,
    .braceOpen, .braceClose, .parenOpen, .bracketOpen, .less, .plus, .minus, .bang, .tilde,
    .increment, .decrement, .finish],
   [.name, .number, .string, .staticWord, .exportWord, .classWord, .getWord, .setWord, .dot,
    .atSign, .parenOpen, .bracketOpen],
   [.name, .number, .string, .template, .thisWord, .trueWord, .falseWord, .nullWord, .staticWord,
    .returnWord, .throwWord, .ifWord, .elseWord, .constWord, .letWord, .varWord, .importWord,
    .exportWord, .instanceofWord, .inWord, .typeofWord, .voidWord, .deleteWord, .newWord,
    .functionWord, .classWord, .getWord, .setWord, .semicolon, .comma, .dot, .colon, .question,
    .atSign, .braceOpen, .braceClose, .parenOpen, .parenClose, .bracketOpen, .bracketClose, .orMark,
    .andMark, .nullish, .equal, .unequal, .strictEqual, .strictUnequal, .less, .greater, .lessEqual,
    .greaterEqual, .plus, .minus, .star, .slash, .percent, .bang, .tilde, .increment, .decrement,
    .finish],
   [.dot],
   [.name, .number, .string, .bracketOpen],
   [.jsxName, .braceOpen, .assign, .greater, .selfClosing],
   [.returnWord, .throwWord, .ifWord, .elseWord, .constWord, .letWord, .varWord, .importWord,
    .exportWord, .atSign, .braceClose, .finish],
   [.fromWord, .comma],
   [.name, .number, .string, .template, .thisWord, .trueWord, .falseWord, .nullWord, .staticWord,
    .returnWord, .throwWord, .ifWord, .elseWord, .constWord, .letWord, .varWord, .importWord,
    .exportWord, .instanceofWord, .inWord, .typeofWord, .voidWord, .deleteWord, .newWord,
    .functionWord, .classWord, .getWord, .setWord, .semicolon, .comma, .colon, .question, .atSign,
    .braceOpen, .braceClose, .parenClose, .bracketOpen, .bracketClose, .assign, .plusAssign,
    .minusAssign, .starAssign, .slashAssign, .percentAssign, .orAssign, .andAssign, .nullishAssign,
    .orMark, .andMark, .nullish, .equal, .unequal, .strictEqual, .strictUnequal, .less, .greater,
    .lessEqual, .greaterEqual, .plus, .minus, .star, .slash, .percent, .bang, .tilde, .increment,
    .decrement, .finish],
   [.colon, .parenOpen],
   [.colon],
   [.name, .number, .string, .staticWord, .getWord, .setWord, .semicolon, .atSign, .braceClose,
    .parenOpen, .bracketOpen, .assign],
   [.jsxName, .dot, .braceOpen, .greater, .selfClosing]]

/-- Shifts that several states have in common, the most frequent first. -/
def commonShifts : List (List (Terminal × Nat)) :=
  [[(.name, 164), (.number, 56), (.string, 55), (.template, 57), (.thisWord, 51), (.trueWord, 52),
    (.falseWord, 53), (.nullWord, 54), (.typeofWord, 91), (.voidWord, 92), (.deleteWord, 93),
    (.newWord, 64), (.functionWord, 65), (.classWord, 66), (.braceOpen, 99), (.parenOpen, 165),
    (.bracketOpen, 63), (.less, 67), (.plus, 89), (.minus, 88), (.bang, 87), (.tilde, 90),
    (.increment, 94), (.decrement, 95)],
   [(.name, 28), (.number, 56), (.string, 55), (.template, 57), (.thisWord, 51), (.trueWord, 52),
    (.falseWord, 53), (.nullWord, 54), (.typeofWord, 91), (.voidWord, 92), (.deleteWord, 93),
    (.newWord, 64), (.functionWord, 65), (.classWord, 66), (.braceOpen, 99), (.parenOpen, 29),
    (.bracketOpen, 63), (.less, 67), (.plus, 89), (.minus, 88), (.bang, 87), (.tilde, 90),
    (.increment, 94), (.decrement, 95)],
   [(.instanceofWord, 212), (.inWord, 213), (.less, 208), (.greater, 209), (.lessEqual, 210),
    (.greaterEqual, 211)],
   [(.name, 103), (.braceOpen, 104), (.bracketOpen, 105)],
   [(.star, 216), (.slash, 217), (.percent, 218)],
   [(.name, 28), (.number, 56), (.string, 55), (.template, 57), (.thisWord, 51), (.trueWord, 52),
    (.falseWord, 53), (.nullWord, 54), (.returnWord, 16), (.throwWord, 17), (.ifWord, 14),
    (.constWord, 19), (.letWord, 20), (.varWord, 21), (.importWord, 22), (.exportWord, 23),
    (.typeofWord, 45), (.voidWord, 46), (.deleteWord, 47), (.newWord, 64), (.functionWord, 65),
    (.classWord, 66), (.atSign, 26), (.braceOpen, 13), (.parenOpen, 29), (.bracketOpen, 63),
    (.less, 67), (.plus, 43), (.minus, 42), (.bang, 41), (.tilde, 44), (.increment, 48),
    (.decrement, 49)],
   [(.name, 315), (.number, 234), (.string, 233), (.bracketOpen, 235)],
   [(.equal, 204), (.unequal, 205), (.strictEqual, 206), (.strictUnequal, 207)],
   [(.name, 164), (.number, 56), (.string, 55), (.template, 57), (.thisWord, 51), (.trueWord, 52),
    (.falseWord, 53), (.nullWord, 54), (.newWord, 64), (.functionWord, 65), (.classWord, 66),
    (.braceOpen, 99), (.parenOpen, 165), (.bracketOpen, 63), (.less, 67)],
   [(.dot, 197), (.braceOpen, 186), (.parenOpen, 142), (.bracketOpen, 198)],
   [(.name, 315), (.number, 234), (.string, 233), (.getWord, 323), (.setWord, 324),
    (.bracketOpen, 235)],
   [(.name, 103), (.ellipsis, 308), (.braceOpen, 104), (.bracketOpen, 105)]]

def common (i : Nat) : List (Terminal × Nat) := commonShifts[i]?.getD []

/-- A reduction on the lookaheads of the given number. -/
def reduce (i : Nat) (a : Nonterminal) (alternative : Nat) : List Terminal × Nonterminal × Nat :=
  (lookaheads[i]?.getD [], a, alternative)

/-- A step along the expression chain where a brace may come first. -/
def wide (level : Level) (state : Nat) : Nonterminal × Nat := (.chain .true level, state)

/-- A step along the expression chain where a brace may not come first. -/
def guarded (level : Level) (state : Nat) : Nonterminal × Nat := (.chain .false level, state)

def rowsFrom0 : List Row :=
  [⟨common 5, [(.program, 1), (.statements, 2), (.statement, 3), (.block, 11), (.ifStatement, 10),
    (.expressionStatement, 12), (.returnStatement, 8), (.throwStatement, 9), (.variableList, 7),
    (.variableKind, 18), (.importDeclaration, 4), (.exportDeclaration, 5), (.decoratedDeclaration,
    6), (.decorators, 24), (.decorator, 25), (.arrowFunction, 32), (.arrowParams, 27),
    guarded .assign 15, guarded .conditional 30, guarded .logicalOr 33, guarded .logicalAnd 34,
    guarded .equality 35, guarded .relational 36, guarded .additive 37, guarded .multiplicative 38,
    guarded .unary 39, guarded .postfixed 40, guarded .callMember 31, guarded .primary 50, (.array,
    58), (.newExpression, 61), (.functionExpression, 59), (.classExpression, 60), (.element, 62)],
    [reduce 27 .program 1]⟩,
   ⟨[], [], []⟩,
   ⟨common 5, [(.statement, 68), (.block, 11), (.ifStatement, 10), (.expressionStatement, 12),
    (.returnStatement, 8), (.throwStatement, 9), (.variableList, 7), (.variableKind, 18),
    (.importDeclaration, 4), (.exportDeclaration, 5), (.decoratedDeclaration, 6), (.decorators, 24),
    (.decorator, 25), (.arrowFunction, 32), (.arrowParams, 27), guarded .assign 15,
    guarded .conditional 30, guarded .logicalOr 33, guarded .logicalAnd 34, guarded .equality 35,
    guarded .relational 36, guarded .additive 37, guarded .multiplicative 38, guarded .unary 39,
    guarded .postfixed 40, guarded .callMember 31, guarded .primary 50, (.array, 58),
    (.newExpression, 61), (.functionExpression, 59), (.classExpression, 60), (.element, 62)],
    [reduce 27 .program 0]⟩,
   ⟨[], [], [reduce 23 .statements 0]⟩,
   ⟨[], [], [reduce 1 .statement 0]⟩,
   ⟨[], [], [reduce 1 .statement 1]⟩,
   ⟨[], [], [reduce 1 .statement 2]⟩,
   ⟨[(.semicolon, 69)], [], [reduce 1 .statement 4]⟩,
   ⟨[], [], [reduce 1 .statement 5]⟩,
   ⟨[], [], [reduce 1 .statement 6]⟩,
   ⟨[], [], [reduce 1 .statement 7]⟩,
   ⟨[], [], [reduce 1 .statement 8]⟩,
   ⟨[], [], [reduce 1 .statement 9]⟩,
   ⟨[(.name, 28), (.number, 56), (.string, 55), (.template, 57), (.thisWord, 51), (.trueWord, 52),
    (.falseWord, 53), (.nullWord, 54), (.returnWord, 16), (.throwWord, 17), (.ifWord, 14),
    (.constWord, 19), (.letWord, 20), (.varWord, 21), (.importWord, 22), (.exportWord, 23),
    (.typeofWord, 45), (.voidWord, 46), (.deleteWord, 47), (.newWord, 64), (.functionWord, 65),
    (.classWord, 66), (.atSign, 26), (.braceOpen, 13), (.braceClose, 71), (.parenOpen, 29),
    (.bracketOpen, 63), (.less, 67), (.plus, 43), (.minus, 42), (.bang, 41), (.tilde, 44),
    (.increment, 48), (.decrement, 49)], [(.statements, 70), (.statement, 3), (.block, 11),
    (.ifStatement, 10), (.expressionStatement, 12), (.returnStatement, 8), (.throwStatement, 9),
    (.variableList, 7), (.variableKind, 18), (.importDeclaration, 4), (.exportDeclaration, 5),
    (.decoratedDeclaration, 6), (.decorators, 24), (.decorator, 25), (.arrowFunction, 32),
    (.arrowParams, 27), guarded .assign 15, guarded .conditional 30, guarded .logicalOr 33,
    guarded .logicalAnd 34, guarded .equality 35, guarded .relational 36, guarded .additive 37,
    guarded .multiplicative 38, guarded .unary 39, guarded .postfixed 40, guarded .callMember 31,
    guarded .primary 50, (.array, 58), (.newExpression, 61), (.functionExpression, 59),
    (.classExpression, 60), (.element, 62)], []⟩,
   ⟨[(.parenOpen, 72)], [], []⟩,
   ⟨[(.semicolon, 73)], [], [reduce 1 .expressionStatement 1]⟩,
   ⟨[(.name, 28), (.number, 56), (.string, 55), (.template, 57), (.thisWord, 51), (.trueWord, 52),
    (.falseWord, 53), (.nullWord, 54), (.typeofWord, 91), (.voidWord, 92), (.deleteWord, 93),
    (.newWord, 64), (.functionWord, 65), (.classWord, 66), (.semicolon, 75), (.braceOpen, 99),
    (.parenOpen, 29), (.bracketOpen, 63), (.less, 67), (.plus, 89), (.minus, 88), (.bang, 87),
    (.tilde, 90), (.increment, 94), (.decrement, 95)], [(.arrowFunction, 78), (.arrowParams, 27),
    wide .assign 74, wide .conditional 76, wide .logicalOr 79, wide .logicalAnd 80,
    wide .equality 81, wide .relational 82, wide .additive 83, wide .multiplicative 84,
    wide .unary 85, wide .postfixed 86, wide .callMember 77, wide .primary 96, guarded .primary 97,
    (.array, 58), (.object, 98), (.newExpression, 61), (.functionExpression, 59), (.classExpression,
    60), (.element, 62)], [reduce 34 .returnStatement 3]⟩,
   ⟨common 1, [(.arrowFunction, 78), (.arrowParams, 27), wide .assign 100, wide .conditional 76,
    wide .logicalOr 79, wide .logicalAnd 80, wide .equality 81, wide .relational 82,
    wide .additive 83, wide .multiplicative 84, wide .unary 85, wide .postfixed 86,
    wide .callMember 77, wide .primary 96, guarded .primary 97, (.array, 58), (.object, 98),
    (.newExpression, 61), (.functionExpression, 59), (.classExpression, 60), (.element, 62)], []⟩,
   ⟨common 3, [(.declarator, 101), (.pattern, 102)], []⟩,
   ⟨[], [], [reduce 24 .variableKind 0]⟩,
   ⟨[], [], [reduce 24 .variableKind 1]⟩,
   ⟨[], [], [reduce 24 .variableKind 2]⟩,
   ⟨[(.name, 111), (.string, 107), (.braceOpen, 113), (.star, 112)], [(.importClause, 106),
    (.importDefault, 108), (.importNamespace, 110), (.importNamed, 109)], []⟩,
   ⟨[(.constWord, 19), (.letWord, 20), (.varWord, 21), (.defaultWord, 114), (.functionWord, 65),
    (.classWord, 66), (.braceOpen, 118)], [(.variableList, 115), (.variableKind, 18),
    (.functionExpression, 116), (.classExpression, 117)], []⟩,
   ⟨[(.exportWord, 120), (.classWord, 66), (.atSign, 26)], [(.decorator, 121), (.classExpression,
    119)], []⟩,
   ⟨[], [], [reduce 18 .decorators 0]⟩,
   ⟨[(.name, 123)], [(.decoratorTarget, 122)], []⟩,
   ⟨[(.arrow, 124)], [], []⟩,
   ⟨[], [], [reduce 19 .arrowParams 0, reduce 0 (.chain .false .primary) 0]⟩,
   ⟨[(.name, 28), (.number, 56), (.string, 55), (.template, 57), (.thisWord, 51), (.trueWord, 52),
    (.falseWord, 53), (.nullWord, 54), (.typeofWord, 91), (.voidWord, 92), (.deleteWord, 93),
    (.newWord, 64), (.functionWord, 65), (.classWord, 66), (.braceOpen, 99), (.parenOpen, 29),
    (.parenClose, 125), (.bracketOpen, 63), (.less, 67), (.plus, 89), (.minus, 88), (.bang, 87),
    (.tilde, 90), (.increment, 94), (.decrement, 95)], [(.arrowFunction, 78), (.arrowParams, 27),
    wide .assign 126, wide .conditional 76, wide .logicalOr 79, wide .logicalAnd 80,
    wide .equality 81, wide .relational 82, wide .additive 83, wide .multiplicative 84,
    wide .unary 85, wide .postfixed 86, wide .callMember 77, wide .primary 96, guarded .primary 97,
    (.array, 58), (.object, 98), (.newExpression, 61), (.functionExpression, 59), (.classExpression,
    60), (.element, 62)], []⟩,
   ⟨[], [], [reduce 6 (.chain .false .assign) 0]⟩,
   ⟨[(.dot, 139), (.parenOpen, 142), (.bracketOpen, 140), (.assign, 127), (.plusAssign, 128),
    (.minusAssign, 129), (.starAssign, 130), (.slashAssign, 131), (.percentAssign, 132), (.orAssign,
    133), (.andAssign, 134), (.nullishAssign, 135), (.increment, 137), (.decrement, 138)],
    [(.assignOperator, 136), (.arguments, 141)], [reduce 25 (.chain .false .postfixed) 0]⟩]

def rowsFrom32 : List Row :=
  [⟨[], [], [reduce 6 (.chain .false .assign) 2]⟩,
   ⟨[(.question, 143), (.orMark, 144), (.nullish, 145)], [],
    [reduce 6 (.chain .false .conditional) 0]⟩,
   ⟨[(.andMark, 146)], [], [reduce 16 (.chain .false .logicalOr) 0]⟩,
   ⟨[(.equal, 147), (.unequal, 148), (.strictEqual, 149), (.strictUnequal, 150)], [],
    [reduce 20 (.chain .false .logicalAnd) 0]⟩,
   ⟨[(.instanceofWord, 155), (.inWord, 156), (.less, 151), (.greater, 152), (.lessEqual, 153),
    (.greaterEqual, 154)], [], [reduce 11 (.chain .false .equality) 0]⟩,
   ⟨[(.plus, 157), (.minus, 158)], [], [reduce 5 (.chain .false .relational) 0]⟩,
   ⟨[(.star, 159), (.slash, 160), (.percent, 161)], [], [reduce 17 (.chain .false .additive) 0]⟩,
   ⟨[], [], [reduce 2 (.chain .false .multiplicative) 0]⟩,
   ⟨[], [], [reduce 2 (.chain .false .unary) 0]⟩,
   ⟨common 0, [wide .unary 162, wide .postfixed 86, wide .callMember 163, wide .primary 96,
    guarded .primary 97, (.array, 58), (.object, 98), (.newExpression, 61), (.functionExpression,
    59), (.classExpression, 60), (.element, 62)], []⟩,
   ⟨common 0, [wide .unary 166, wide .postfixed 86, wide .callMember 163, wide .primary 96,
    guarded .primary 97, (.array, 58), (.object, 98), (.newExpression, 61), (.functionExpression,
    59), (.classExpression, 60), (.element, 62)], []⟩,
   ⟨common 0, [wide .unary 167, wide .postfixed 86, wide .callMember 163, wide .primary 96,
    guarded .primary 97, (.array, 58), (.object, 98), (.newExpression, 61), (.functionExpression,
    59), (.classExpression, 60), (.element, 62)], []⟩,
   ⟨common 0, [wide .unary 168, wide .postfixed 86, wide .callMember 163, wide .primary 96,
    guarded .primary 97, (.array, 58), (.object, 98), (.newExpression, 61), (.functionExpression,
    59), (.classExpression, 60), (.element, 62)], []⟩,
   ⟨common 0, [wide .unary 169, wide .postfixed 86, wide .callMember 163, wide .primary 96,
    guarded .primary 97, (.array, 58), (.object, 98), (.newExpression, 61), (.functionExpression,
    59), (.classExpression, 60), (.element, 62)], []⟩,
   ⟨common 0, [wide .unary 170, wide .postfixed 86, wide .callMember 163, wide .primary 96,
    guarded .primary 97, (.array, 58), (.object, 98), (.newExpression, 61), (.functionExpression,
    59), (.classExpression, 60), (.element, 62)], []⟩,
   ⟨common 0, [wide .unary 171, wide .postfixed 86, wide .callMember 163, wide .primary 96,
    guarded .primary 97, (.array, 58), (.object, 98), (.newExpression, 61), (.functionExpression,
    59), (.classExpression, 60), (.element, 62)], []⟩,
   ⟨common 0, [wide .unary 172, wide .postfixed 86, wide .callMember 163, wide .primary 96,
    guarded .primary 97, (.array, 58), (.object, 98), (.newExpression, 61), (.functionExpression,
    59), (.classExpression, 60), (.element, 62)], []⟩,
   ⟨common 0, [wide .unary 173, wide .postfixed 86, wide .callMember 163, wide .primary 96,
    guarded .primary 97, (.array, 58), (.object, 98), (.newExpression, 61), (.functionExpression,
    59), (.classExpression, 60), (.element, 62)], []⟩,
   ⟨[], [], [reduce 0 (.chain .false .callMember) 0]⟩,
   ⟨[], [], [reduce 0 (.chain .false .primary) 1]⟩,
   ⟨[], [], [reduce 0 (.chain .false .primary) 2]⟩,
   ⟨[], [], [reduce 0 (.chain .false .primary) 3]⟩,
   ⟨[], [], [reduce 0 (.chain .false .primary) 4]⟩,
   ⟨[], [], [reduce 0 (.chain .false .primary) 5]⟩,
   ⟨[], [], [reduce 0 (.chain .false .primary) 6]⟩,
   ⟨[], [], [reduce 0 (.chain .false .primary) 7]⟩,
   ⟨[], [], [reduce 0 (.chain .false .primary) 8]⟩,
   ⟨[], [], [reduce 0 (.chain .false .primary) 10]⟩,
   ⟨[], [], [reduce 0 (.chain .false .primary) 11]⟩,
   ⟨[], [], [reduce 0 (.chain .false .primary) 12]⟩,
   ⟨[], [], [reduce 0 (.chain .false .primary) 13]⟩,
   ⟨[(.name, 28), (.number, 56), (.string, 55), (.template, 57), (.thisWord, 51), (.trueWord, 52),
    (.falseWord, 53), (.nullWord, 54), (.typeofWord, 91), (.voidWord, 92), (.deleteWord, 93),
    (.newWord, 64), (.functionWord, 65), (.classWord, 66), (.ellipsis, 177), (.braceOpen, 99),
    (.parenOpen, 29), (.bracketOpen, 63), (.bracketClose, 175), (.less, 67), (.plus, 89), (.minus,
    88), (.bang, 87), (.tilde, 90), (.increment, 94), (.decrement, 95)], [(.arrowFunction, 78),
    (.arrowParams, 27), wide .assign 176, wide .conditional 76, wide .logicalOr 79,
    wide .logicalAnd 80, wide .equality 81, wide .relational 82, wide .additive 83,
    wide .multiplicative 84, wide .unary 85, wide .postfixed 86, wide .callMember 77,
    wide .primary 96, guarded .primary 97, (.array, 58), (.arrayItem, 174), (.object, 98),
    (.newExpression, 61), (.functionExpression, 59), (.classExpression, 60), (.element, 62)], []⟩]

def rowsFrom64 : List Row :=
  [⟨[(.name, 179), (.thisWord, 180)], [(.newCallee, 178)], []⟩,
   ⟨[(.name, 181), (.parenOpen, 182)], [], []⟩,
   ⟨[(.name, 183), (.extendsWord, 184), (.braceOpen, 186)], [(.classBody, 185)], []⟩,
   ⟨[(.jsxName, 188)], [(.tagName, 187), (.memberName, 189), (.memberNameObject, 190)], []⟩,
   ⟨[], [], [reduce 23 .statements 1]⟩,
   ⟨[], [], [reduce 1 .statement 3]⟩,
   ⟨[(.name, 28), (.number, 56), (.string, 55), (.template, 57), (.thisWord, 51), (.trueWord, 52),
    (.falseWord, 53), (.nullWord, 54), (.returnWord, 16), (.throwWord, 17), (.ifWord, 14),
    (.constWord, 19), (.letWord, 20), (.varWord, 21), (.importWord, 22), (.exportWord, 23),
    (.typeofWord, 45), (.voidWord, 46), (.deleteWord, 47), (.newWord, 64), (.functionWord, 65),
    (.classWord, 66), (.atSign, 26), (.braceOpen, 13), (.braceClose, 191), (.parenOpen, 29),
    (.bracketOpen, 63), (.less, 67), (.plus, 43), (.minus, 42), (.bang, 41), (.tilde, 44),
    (.increment, 48), (.decrement, 49)], [(.statement, 68), (.block, 11), (.ifStatement, 10),
    (.expressionStatement, 12), (.returnStatement, 8), (.throwStatement, 9), (.variableList, 7),
    (.variableKind, 18), (.importDeclaration, 4), (.exportDeclaration, 5), (.decoratedDeclaration,
    6), (.decorators, 24), (.decorator, 25), (.arrowFunction, 32), (.arrowParams, 27),
    guarded .assign 15, guarded .conditional 30, guarded .logicalOr 33, guarded .logicalAnd 34,
    guarded .equality 35, guarded .relational 36, guarded .additive 37, guarded .multiplicative 38,
    guarded .unary 39, guarded .postfixed 40, guarded .callMember 31, guarded .primary 50, (.array,
    58), (.newExpression, 61), (.functionExpression, 59), (.classExpression, 60), (.element, 62)],
    []⟩,
   ⟨[], [], [reduce 0 .block 1]⟩,
   ⟨common 1, [(.arrowFunction, 78), (.arrowParams, 27), wide .assign 192, wide .conditional 76,
    wide .logicalOr 79, wide .logicalAnd 80, wide .equality 81, wide .relational 82,
    wide .additive 83, wide .multiplicative 84, wide .unary 85, wide .postfixed 86,
    wide .callMember 77, wide .primary 96, guarded .primary 97, (.array, 58), (.object, 98),
    (.newExpression, 61), (.functionExpression, 59), (.classExpression, 60), (.element, 62)], []⟩,
   ⟨[], [], [reduce 1 .expressionStatement 0]⟩,
   ⟨[(.semicolon, 193)], [], [reduce 1 .returnStatement 1]⟩,
   ⟨[], [], [reduce 1 .returnStatement 2]⟩,
   ⟨[], [], [reduce 6 (.chain .true .assign) 0]⟩,
   ⟨[(.dot, 197), (.parenOpen, 142), (.bracketOpen, 198), (.assign, 127), (.plusAssign, 128),
    (.minusAssign, 129), (.starAssign, 130), (.slashAssign, 131), (.percentAssign, 132), (.orAssign,
    133), (.andAssign, 134), (.nullishAssign, 135), (.increment, 195), (.decrement, 196)],
    [(.assignOperator, 194), (.arguments, 199)], [reduce 25 (.chain .true .postfixed) 0]⟩,
   ⟨[], [], [reduce 6 (.chain .true .assign) 2]⟩,
   ⟨[(.question, 200), (.orMark, 201), (.nullish, 202)], [],
    [reduce 6 (.chain .true .conditional) 0]⟩,
   ⟨[(.andMark, 203)], [], [reduce 16 (.chain .true .logicalOr) 0]⟩,
   ⟨common 7, [], [reduce 20 (.chain .true .logicalAnd) 0]⟩,
   ⟨common 2, [], [reduce 11 (.chain .true .equality) 0]⟩,
   ⟨[(.plus, 214), (.minus, 215)], [], [reduce 5 (.chain .true .relational) 0]⟩,
   ⟨common 4, [], [reduce 17 (.chain .true .additive) 0]⟩,
   ⟨[], [], [reduce 2 (.chain .true .multiplicative) 0]⟩,
   ⟨[], [], [reduce 2 (.chain .true .unary) 0]⟩,
   ⟨common 0, [wide .unary 219, wide .postfixed 86, wide .callMember 163, wide .primary 96,
    guarded .primary 97, (.array, 58), (.object, 98), (.newExpression, 61), (.functionExpression,
    59), (.classExpression, 60), (.element, 62)], []⟩,
   ⟨common 0, [wide .unary 220, wide .postfixed 86, wide .callMember 163, wide .primary 96,
    guarded .primary 97, (.array, 58), (.object, 98), (.newExpression, 61), (.functionExpression,
    59), (.classExpression, 60), (.element, 62)], []⟩,
   ⟨common 0, [wide .unary 221, wide .postfixed 86, wide .callMember 163, wide .primary 96,
    guarded .primary 97, (.array, 58), (.object, 98), (.newExpression, 61), (.functionExpression,
    59), (.classExpression, 60), (.element, 62)], []⟩,
   ⟨common 0, [wide .unary 222, wide .postfixed 86, wide .callMember 163, wide .primary 96,
    guarded .primary 97, (.array, 58), (.object, 98), (.newExpression, 61), (.functionExpression,
    59), (.classExpression, 60), (.element, 62)], []⟩,
   ⟨common 0, [wide .unary 223, wide .postfixed 86, wide .callMember 163, wide .primary 96,
    guarded .primary 97, (.array, 58), (.object, 98), (.newExpression, 61), (.functionExpression,
    59), (.classExpression, 60), (.element, 62)], []⟩,
   ⟨common 0, [wide .unary 224, wide .postfixed 86, wide .callMember 163, wide .primary 96,
    guarded .primary 97, (.array, 58), (.object, 98), (.newExpression, 61), (.functionExpression,
    59), (.classExpression, 60), (.element, 62)], []⟩,
   ⟨common 0, [wide .unary 225, wide .postfixed 86, wide .callMember 163, wide .primary 96,
    guarded .primary 97, (.array, 58), (.object, 98), (.newExpression, 61), (.functionExpression,
    59), (.classExpression, 60), (.element, 62)], []⟩,
   ⟨common 0, [wide .unary 226, wide .postfixed 86, wide .callMember 163, wide .primary 96,
    guarded .primary 97, (.array, 58), (.object, 98), (.newExpression, 61), (.functionExpression,
    59), (.classExpression, 60), (.element, 62)], []⟩,
   ⟨common 0, [wide .unary 227, wide .postfixed 86, wide .callMember 163, wide .primary 96,
    guarded .primary 97, (.array, 58), (.object, 98), (.newExpression, 61), (.functionExpression,
    59), (.classExpression, 60), (.element, 62)], []⟩]

def rowsFrom96 : List Row :=
  [⟨[], [], [reduce 0 (.chain .true .callMember) 0]⟩,
   ⟨[], [], [reduce 0 (.chain .true .primary) 0]⟩,
   ⟨[], [], [reduce 0 (.chain .true .primary) 1]⟩,
   ⟨[(.name, 231), (.number, 234), (.string, 233), (.ellipsis, 232), (.braceClose, 229),
    (.bracketOpen, 235)], [(.objectMember, 228), (.key, 230)], []⟩,
   ⟨[(.semicolon, 236)], [], [reduce 1 .throwStatement 1]⟩,
   ⟨[(.comma, 238)], [(.moreDeclarators, 237)], [reduce 28 .variableList 1]⟩,
   ⟨[(.assign, 239)], [], [reduce 21 .declarator 1]⟩,
   ⟨[], [], [reduce 7 .pattern 0]⟩,
   ⟨[(.name, 242), (.number, 234), (.string, 233), (.ellipsis, 244), (.braceClose, 241),
    (.bracketOpen, 235)], [(.patternProperty, 240), (.key, 243)], []⟩,
   ⟨[(.name, 103), (.ellipsis, 248), (.braceOpen, 104), (.bracketOpen, 105), (.bracketClose, 246)],
    [(.pattern, 247), (.patternElement, 245)], []⟩,
   ⟨[(.fromWord, 249)], [], []⟩,
   ⟨[(.semicolon, 250)], [], [reduce 1 .importDeclaration 3]⟩,
   ⟨[(.comma, 251)], [], [reduce 8 .importClause 0]⟩,
   ⟨[], [], [reduce 8 .importClause 3]⟩,
   ⟨[], [], [reduce 8 .importClause 4]⟩,
   ⟨[], [], [reduce 35 .importDefault 0]⟩,
   ⟨[(.asWord, 252)], [], []⟩,
   ⟨[(.name, 255), (.braceClose, 254)], [(.importSpecifier, 253)], []⟩,
   ⟨common 1, [(.arrowFunction, 78), (.arrowParams, 27), wide .assign 256, wide .conditional 76,
    wide .logicalOr 79, wide .logicalAnd 80, wide .equality 81, wide .relational 82,
    wide .additive 83, wide .multiplicative 84, wide .unary 85, wide .postfixed 86,
    wide .callMember 77, wide .primary 96, guarded .primary 97, (.array, 58), (.object, 98),
    (.newExpression, 61), (.functionExpression, 59), (.classExpression, 60), (.element, 62)], []⟩,
   ⟨[(.semicolon, 257)], [], [reduce 1 .exportDeclaration 3]⟩,
   ⟨[], [], [reduce 1 .exportDeclaration 4]⟩,
   ⟨[], [], [reduce 1 .exportDeclaration 5]⟩,
   ⟨[(.name, 260), (.braceClose, 259)], [(.exportSpecifier, 258)], []⟩,
   ⟨[], [], [reduce 1 .decoratedDeclaration 0]⟩,
   ⟨[(.defaultWord, 261), (.classWord, 66)], [(.classExpression, 262)], []⟩,
   ⟨[], [], [reduce 18 .decorators 1]⟩,
   ⟨[(.dot, 264), (.parenOpen, 142)], [(.arguments, 263)], [reduce 18 .decorator 1]⟩,
   ⟨[], [], [reduce 29 .decoratorTarget 0]⟩,
   ⟨[(.name, 28), (.number, 56), (.string, 55), (.template, 57), (.thisWord, 51), (.trueWord, 52),
    (.falseWord, 53), (.nullWord, 54), (.typeofWord, 45), (.voidWord, 46), (.deleteWord, 47),
    (.newWord, 64), (.functionWord, 65), (.classWord, 66), (.braceOpen, 13), (.parenOpen, 29),
    (.bracketOpen, 63), (.less, 67), (.plus, 43), (.minus, 42), (.bang, 41), (.tilde, 44),
    (.increment, 48), (.decrement, 49)], [(.block, 266), (.arrowFunction, 32), (.arrowParams, 27),
    (.arrowBody, 265), guarded .assign 267, guarded .conditional 30, guarded .logicalOr 33,
    guarded .logicalAnd 34, guarded .equality 35, guarded .relational 36, guarded .additive 37,
    guarded .multiplicative 38, guarded .unary 39, guarded .postfixed 40, guarded .callMember 31,
    guarded .primary 50, (.array, 58), (.newExpression, 61), (.functionExpression, 59),
    (.classExpression, 60), (.element, 62)], []⟩,
   ⟨[], [], [reduce 19 .arrowParams 1]⟩,
   ⟨[(.comma, 270), (.parenClose, 269)], [(.moreExpressions, 268)], []⟩,
   ⟨[], [], [reduce 13 .assignOperator 0]⟩]

def rowsFrom128 : List Row :=
  [⟨[], [], [reduce 13 .assignOperator 1]⟩,
   ⟨[], [], [reduce 13 .assignOperator 2]⟩,
   ⟨[], [], [reduce 13 .assignOperator 3]⟩,
   ⟨[], [], [reduce 13 .assignOperator 4]⟩,
   ⟨[], [], [reduce 13 .assignOperator 5]⟩,
   ⟨[], [], [reduce 13 .assignOperator 6]⟩,
   ⟨[], [], [reduce 13 .assignOperator 7]⟩,
   ⟨[], [], [reduce 13 .assignOperator 8]⟩,
   ⟨common 1, [(.arrowFunction, 78), (.arrowParams, 27), wide .assign 271, wide .conditional 76,
    wide .logicalOr 79, wide .logicalAnd 80, wide .equality 81, wide .relational 82,
    wide .additive 83, wide .multiplicative 84, wide .unary 85, wide .postfixed 86,
    wide .callMember 77, wide .primary 96, guarded .primary 97, (.array, 58), (.object, 98),
    (.newExpression, 61), (.functionExpression, 59), (.classExpression, 60), (.element, 62)], []⟩,
   ⟨[], [], [reduce 2 (.chain .false .postfixed) 1]⟩,
   ⟨[], [], [reduce 2 (.chain .false .postfixed) 2]⟩,
   ⟨[(.name, 273)], [(.propertyName, 272)], []⟩,
   ⟨common 1, [(.arrowFunction, 78), (.arrowParams, 27), wide .assign 274, wide .conditional 76,
    wide .logicalOr 79, wide .logicalAnd 80, wide .equality 81, wide .relational 82,
    wide .additive 83, wide .multiplicative 84, wide .unary 85, wide .postfixed 86,
    wide .callMember 77, wide .primary 96, guarded .primary 97, (.array, 58), (.object, 98),
    (.newExpression, 61), (.functionExpression, 59), (.classExpression, 60), (.element, 62)], []⟩,
   ⟨[], [], [reduce 0 (.chain .false .callMember) 3]⟩,
   ⟨[(.name, 28), (.number, 56), (.string, 55), (.template, 57), (.thisWord, 51), (.trueWord, 52),
    (.falseWord, 53), (.nullWord, 54), (.typeofWord, 91), (.voidWord, 92), (.deleteWord, 93),
    (.newWord, 64), (.functionWord, 65), (.classWord, 66), (.ellipsis, 278), (.braceOpen, 99),
    (.parenOpen, 29), (.parenClose, 276), (.bracketOpen, 63), (.less, 67), (.plus, 89), (.minus,
    88), (.bang, 87), (.tilde, 90), (.increment, 94), (.decrement, 95)], [(.arrowFunction, 78),
    (.arrowParams, 27), wide .assign 277, wide .conditional 76, wide .logicalOr 79,
    wide .logicalAnd 80, wide .equality 81, wide .relational 82, wide .additive 83,
    wide .multiplicative 84, wide .unary 85, wide .postfixed 86, wide .callMember 77,
    wide .primary 96, guarded .primary 97, (.argument, 275), (.array, 58), (.object, 98),
    (.newExpression, 61), (.functionExpression, 59), (.classExpression, 60), (.element, 62)], []⟩,
   ⟨common 1, [(.arrowFunction, 78), (.arrowParams, 27), wide .assign 279, wide .conditional 76,
    wide .logicalOr 79, wide .logicalAnd 80, wide .equality 81, wide .relational 82,
    wide .additive 83, wide .multiplicative 84, wide .unary 85, wide .postfixed 86,
    wide .callMember 77, wide .primary 96, guarded .primary 97, (.array, 58), (.object, 98),
    (.newExpression, 61), (.functionExpression, 59), (.classExpression, 60), (.element, 62)], []⟩,
   ⟨common 0, [wide .logicalAnd 280, wide .equality 81, wide .relational 82, wide .additive 83,
    wide .multiplicative 84, wide .unary 85, wide .postfixed 86, wide .callMember 163,
    wide .primary 96, guarded .primary 97, (.array, 58), (.object, 98), (.newExpression, 61),
    (.functionExpression, 59), (.classExpression, 60), (.element, 62)], []⟩,
   ⟨common 0, [wide .logicalAnd 281, wide .equality 81, wide .relational 82, wide .additive 83,
    wide .multiplicative 84, wide .unary 85, wide .postfixed 86, wide .callMember 163,
    wide .primary 96, guarded .primary 97, (.array, 58), (.object, 98), (.newExpression, 61),
    (.functionExpression, 59), (.classExpression, 60), (.element, 62)], []⟩,
   ⟨common 0, [wide .equality 282, wide .relational 82, wide .additive 83, wide .multiplicative 84,
    wide .unary 85, wide .postfixed 86, wide .callMember 163, wide .primary 96, guarded .primary 97,
    (.array, 58), (.object, 98), (.newExpression, 61), (.functionExpression, 59), (.classExpression,
    60), (.element, 62)], []⟩,
   ⟨common 0, [wide .relational 283, wide .additive 83, wide .multiplicative 84, wide .unary 85,
    wide .postfixed 86, wide .callMember 163, wide .primary 96, guarded .primary 97, (.array, 58),
    (.object, 98), (.newExpression, 61), (.functionExpression, 59), (.classExpression, 60),
    (.element, 62)], []⟩,
   ⟨common 0, [wide .relational 284, wide .additive 83, wide .multiplicative 84, wide .unary 85,
    wide .postfixed 86, wide .callMember 163, wide .primary 96, guarded .primary 97, (.array, 58),
    (.object, 98), (.newExpression, 61), (.functionExpression, 59), (.classExpression, 60),
    (.element, 62)], []⟩,
   ⟨common 0, [wide .relational 285, wide .additive 83, wide .multiplicative 84, wide .unary 85,
    wide .postfixed 86, wide .callMember 163, wide .primary 96, guarded .primary 97, (.array, 58),
    (.object, 98), (.newExpression, 61), (.functionExpression, 59), (.classExpression, 60),
    (.element, 62)], []⟩,
   ⟨common 0, [wide .relational 286, wide .additive 83, wide .multiplicative 84, wide .unary 85,
    wide .postfixed 86, wide .callMember 163, wide .primary 96, guarded .primary 97, (.array, 58),
    (.object, 98), (.newExpression, 61), (.functionExpression, 59), (.classExpression, 60),
    (.element, 62)], []⟩,
   ⟨common 0, [wide .additive 287, wide .multiplicative 84, wide .unary 85, wide .postfixed 86,
    wide .callMember 163, wide .primary 96, guarded .primary 97, (.array, 58), (.object, 98),
    (.newExpression, 61), (.functionExpression, 59), (.classExpression, 60), (.element, 62)], []⟩,
   ⟨common 0, [wide .additive 288, wide .multiplicative 84, wide .unary 85, wide .postfixed 86,
    wide .callMember 163, wide .primary 96, guarded .primary 97, (.array, 58), (.object, 98),
    (.newExpression, 61), (.functionExpression, 59), (.classExpression, 60), (.element, 62)], []⟩,
   ⟨common 0, [wide .additive 289, wide .multiplicative 84, wide .unary 85, wide .postfixed 86,
    wide .callMember 163, wide .primary 96, guarded .primary 97, (.array, 58), (.object, 98),
    (.newExpression, 61), (.functionExpression, 59), (.classExpression, 60), (.element, 62)], []⟩,
   ⟨common 0, [wide .additive 290, wide .multiplicative 84, wide .unary 85, wide .postfixed 86,
    wide .callMember 163, wide .primary 96, guarded .primary 97, (.array, 58), (.object, 98),
    (.newExpression, 61), (.functionExpression, 59), (.classExpression, 60), (.element, 62)], []⟩,
   ⟨common 0, [wide .additive 291, wide .multiplicative 84, wide .unary 85, wide .postfixed 86,
    wide .callMember 163, wide .primary 96, guarded .primary 97, (.array, 58), (.object, 98),
    (.newExpression, 61), (.functionExpression, 59), (.classExpression, 60), (.element, 62)], []⟩,
   ⟨common 0, [wide .additive 292, wide .multiplicative 84, wide .unary 85, wide .postfixed 86,
    wide .callMember 163, wide .primary 96, guarded .primary 97, (.array, 58), (.object, 98),
    (.newExpression, 61), (.functionExpression, 59), (.classExpression, 60), (.element, 62)], []⟩,
   ⟨common 0, [wide .multiplicative 293, wide .unary 85, wide .postfixed 86, wide .callMember 163,
    wide .primary 96, guarded .primary 97, (.array, 58), (.object, 98), (.newExpression, 61),
    (.functionExpression, 59), (.classExpression, 60), (.element, 62)], []⟩,
   ⟨common 0, [wide .multiplicative 294, wide .unary 85, wide .postfixed 86, wide .callMember 163,
    wide .primary 96, guarded .primary 97, (.array, 58), (.object, 98), (.newExpression, 61),
    (.functionExpression, 59), (.classExpression, 60), (.element, 62)], []⟩,
   ⟨common 0, [wide .unary 295, wide .postfixed 86, wide .callMember 163, wide .primary 96,
    guarded .primary 97, (.array, 58), (.object, 98), (.newExpression, 61), (.functionExpression,
    59), (.classExpression, 60), (.element, 62)], []⟩]

def rowsFrom160 : List Row :=
  [⟨common 0, [wide .unary 296, wide .postfixed 86, wide .callMember 163, wide .primary 96,
    guarded .primary 97, (.array, 58), (.object, 98), (.newExpression, 61), (.functionExpression,
    59), (.classExpression, 60), (.element, 62)], []⟩,
   ⟨common 0, [wide .unary 297, wide .postfixed 86, wide .callMember 163, wide .primary 96,
    guarded .primary 97, (.array, 58), (.object, 98), (.newExpression, 61), (.functionExpression,
    59), (.classExpression, 60), (.element, 62)], []⟩,
   ⟨[], [], [reduce 2 (.chain .false .unary) 1]⟩,
   ⟨[(.dot, 197), (.parenOpen, 142), (.bracketOpen, 198), (.increment, 195), (.decrement, 196)],
    [(.arguments, 199)], [reduce 25 (.chain .true .postfixed) 0]⟩,
   ⟨[], [], [reduce 30 (.chain .false .primary) 0]⟩,
   ⟨common 1, [(.arrowFunction, 78), (.arrowParams, 27), wide .assign 298, wide .conditional 76,
    wide .logicalOr 79, wide .logicalAnd 80, wide .equality 81, wide .relational 82,
    wide .additive 83, wide .multiplicative 84, wide .unary 85, wide .postfixed 86,
    wide .callMember 77, wide .primary 96, guarded .primary 97, (.array, 58), (.object, 98),
    (.newExpression, 61), (.functionExpression, 59), (.classExpression, 60), (.element, 62)], []⟩,
   ⟨[], [], [reduce 2 (.chain .false .unary) 2]⟩,
   ⟨[], [], [reduce 2 (.chain .false .unary) 3]⟩,
   ⟨[], [], [reduce 2 (.chain .false .unary) 4]⟩,
   ⟨[], [], [reduce 2 (.chain .false .unary) 5]⟩,
   ⟨[], [], [reduce 2 (.chain .false .unary) 6]⟩,
   ⟨[], [], [reduce 2 (.chain .false .unary) 7]⟩,
   ⟨[], [], [reduce 2 (.chain .false .unary) 8]⟩,
   ⟨[], [], [reduce 2 (.chain .false .unary) 9]⟩,
   ⟨[(.comma, 300), (.bracketClose, 301)], [(.moreItems, 299)], []⟩,
   ⟨[], [], [reduce 0 .array 4]⟩,
   ⟨[], [], [reduce 14 .arrayItem 0]⟩,
   ⟨common 1, [(.arrowFunction, 78), (.arrowParams, 27), wide .assign 302, wide .conditional 76,
    wide .logicalOr 79, wide .logicalAnd 80, wide .equality 81, wide .relational 82,
    wide .additive 83, wide .multiplicative 84, wide .unary 85, wide .postfixed 86,
    wide .callMember 77, wide .primary 96, guarded .primary 97, (.array, 58), (.object, 98),
    (.newExpression, 61), (.functionExpression, 59), (.classExpression, 60), (.element, 62)], []⟩,
   ⟨[(.dot, 304), (.parenOpen, 142)], [(.arguments, 303)], [reduce 36 .newExpression 1]⟩,
   ⟨[], [], [reduce 0 .newCallee 0]⟩,
   ⟨[], [], [reduce 0 .newCallee 1]⟩,
   ⟨[(.parenOpen, 305)], [], []⟩,
   ⟨[(.name, 103), (.ellipsis, 308), (.braceOpen, 104), (.parenClose, 310), (.bracketOpen, 105)],
    [(.pattern, 307), (.params, 309), (.param, 306)], []⟩,
   ⟨[(.extendsWord, 311), (.braceOpen, 186)], [(.classBody, 312)], []⟩,
   ⟨common 8, [wide .callMember 313, wide .primary 96, guarded .primary 97, (.array, 58), (.object,
    98), (.newExpression, 61), (.functionExpression, 59), (.classExpression, 60), (.element, 62)],
    []⟩,
   ⟨[], [], [reduce 0 .classExpression 3]⟩,
   ⟨[(.name, 315), (.number, 234), (.string, 233), (.staticWord, 319), (.getWord, 323), (.setWord,
    324), (.semicolon, 322), (.atSign, 26), (.braceClose, 317), (.bracketOpen, 235)], [(.decorators,
    314), (.decorator, 25), (.key, 321), (.classMembers, 316), (.classMember, 318), (.accessor,
    320)], []⟩,
   ⟨[(.jsxName, 331), (.braceOpen, 330), (.greater, 326), (.selfClosing, 327)], [(.attributes, 325),
    (.oneAttribute, 328), (.attributeName, 329)], []⟩,
   ⟨[(.colon, 332)], [], [reduce 12 .tagName 0, reduce 31 .memberNameObject 0]⟩,
   ⟨[], [], [reduce 12 .tagName 1, reduce 31 .memberNameObject 1]⟩,
   ⟨[(.dot, 333)], [], []⟩,
   ⟨[], [], [reduce 0 .block 0]⟩]

def rowsFrom192 : List Row :=
  [⟨[(.parenClose, 334)], [], []⟩,
   ⟨[], [], [reduce 1 .returnStatement 0]⟩,
   ⟨common 1, [(.arrowFunction, 78), (.arrowParams, 27), wide .assign 335, wide .conditional 76,
    wide .logicalOr 79, wide .logicalAnd 80, wide .equality 81, wide .relational 82,
    wide .additive 83, wide .multiplicative 84, wide .unary 85, wide .postfixed 86,
    wide .callMember 77, wide .primary 96, guarded .primary 97, (.array, 58), (.object, 98),
    (.newExpression, 61), (.functionExpression, 59), (.classExpression, 60), (.element, 62)], []⟩,
   ⟨[], [], [reduce 2 (.chain .true .postfixed) 1]⟩,
   ⟨[], [], [reduce 2 (.chain .true .postfixed) 2]⟩,
   ⟨[(.name, 273)], [(.propertyName, 336)], []⟩,
   ⟨common 1, [(.arrowFunction, 78), (.arrowParams, 27), wide .assign 337, wide .conditional 76,
    wide .logicalOr 79, wide .logicalAnd 80, wide .equality 81, wide .relational 82,
    wide .additive 83, wide .multiplicative 84, wide .unary 85, wide .postfixed 86,
    wide .callMember 77, wide .primary 96, guarded .primary 97, (.array, 58), (.object, 98),
    (.newExpression, 61), (.functionExpression, 59), (.classExpression, 60), (.element, 62)], []⟩,
   ⟨[], [], [reduce 0 (.chain .true .callMember) 3]⟩,
   ⟨common 1, [(.arrowFunction, 78), (.arrowParams, 27), wide .assign 338, wide .conditional 76,
    wide .logicalOr 79, wide .logicalAnd 80, wide .equality 81, wide .relational 82,
    wide .additive 83, wide .multiplicative 84, wide .unary 85, wide .postfixed 86,
    wide .callMember 77, wide .primary 96, guarded .primary 97, (.array, 58), (.object, 98),
    (.newExpression, 61), (.functionExpression, 59), (.classExpression, 60), (.element, 62)], []⟩,
   ⟨common 0, [wide .logicalAnd 339, wide .equality 81, wide .relational 82, wide .additive 83,
    wide .multiplicative 84, wide .unary 85, wide .postfixed 86, wide .callMember 163,
    wide .primary 96, guarded .primary 97, (.array, 58), (.object, 98), (.newExpression, 61),
    (.functionExpression, 59), (.classExpression, 60), (.element, 62)], []⟩,
   ⟨common 0, [wide .logicalAnd 340, wide .equality 81, wide .relational 82, wide .additive 83,
    wide .multiplicative 84, wide .unary 85, wide .postfixed 86, wide .callMember 163,
    wide .primary 96, guarded .primary 97, (.array, 58), (.object, 98), (.newExpression, 61),
    (.functionExpression, 59), (.classExpression, 60), (.element, 62)], []⟩,
   ⟨common 0, [wide .equality 341, wide .relational 82, wide .additive 83, wide .multiplicative 84,
    wide .unary 85, wide .postfixed 86, wide .callMember 163, wide .primary 96, guarded .primary 97,
    (.array, 58), (.object, 98), (.newExpression, 61), (.functionExpression, 59), (.classExpression,
    60), (.element, 62)], []⟩,
   ⟨common 0, [wide .relational 342, wide .additive 83, wide .multiplicative 84, wide .unary 85,
    wide .postfixed 86, wide .callMember 163, wide .primary 96, guarded .primary 97, (.array, 58),
    (.object, 98), (.newExpression, 61), (.functionExpression, 59), (.classExpression, 60),
    (.element, 62)], []⟩,
   ⟨common 0, [wide .relational 343, wide .additive 83, wide .multiplicative 84, wide .unary 85,
    wide .postfixed 86, wide .callMember 163, wide .primary 96, guarded .primary 97, (.array, 58),
    (.object, 98), (.newExpression, 61), (.functionExpression, 59), (.classExpression, 60),
    (.element, 62)], []⟩,
   ⟨common 0, [wide .relational 344, wide .additive 83, wide .multiplicative 84, wide .unary 85,
    wide .postfixed 86, wide .callMember 163, wide .primary 96, guarded .primary 97, (.array, 58),
    (.object, 98), (.newExpression, 61), (.functionExpression, 59), (.classExpression, 60),
    (.element, 62)], []⟩,
   ⟨common 0, [wide .relational 345, wide .additive 83, wide .multiplicative 84, wide .unary 85,
    wide .postfixed 86, wide .callMember 163, wide .primary 96, guarded .primary 97, (.array, 58),
    (.object, 98), (.newExpression, 61), (.functionExpression, 59), (.classExpression, 60),
    (.element, 62)], []⟩,
   ⟨common 0, [wide .additive 346, wide .multiplicative 84, wide .unary 85, wide .postfixed 86,
    wide .callMember 163, wide .primary 96, guarded .primary 97, (.array, 58), (.object, 98),
    (.newExpression, 61), (.functionExpression, 59), (.classExpression, 60), (.element, 62)], []⟩,
   ⟨common 0, [wide .additive 347, wide .multiplicative 84, wide .unary 85, wide .postfixed 86,
    wide .callMember 163, wide .primary 96, guarded .primary 97, (.array, 58), (.object, 98),
    (.newExpression, 61), (.functionExpression, 59), (.classExpression, 60), (.element, 62)], []⟩,
   ⟨common 0, [wide .additive 348, wide .multiplicative 84, wide .unary 85, wide .postfixed 86,
    wide .callMember 163, wide .primary 96, guarded .primary 97, (.array, 58), (.object, 98),
    (.newExpression, 61), (.functionExpression, 59), (.classExpression, 60), (.element, 62)], []⟩,
   ⟨common 0, [wide .additive 349, wide .multiplicative 84, wide .unary 85, wide .postfixed 86,
    wide .callMember 163, wide .primary 96, guarded .primary 97, (.array, 58), (.object, 98),
    (.newExpression, 61), (.functionExpression, 59), (.classExpression, 60), (.element, 62)], []⟩,
   ⟨common 0, [wide .additive 350, wide .multiplicative 84, wide .unary 85, wide .postfixed 86,
    wide .callMember 163, wide .primary 96, guarded .primary 97, (.array, 58), (.object, 98),
    (.newExpression, 61), (.functionExpression, 59), (.classExpression, 60), (.element, 62)], []⟩,
   ⟨common 0, [wide .additive 351, wide .multiplicative 84, wide .unary 85, wide .postfixed 86,
    wide .callMember 163, wide .primary 96, guarded .primary 97, (.array, 58), (.object, 98),
    (.newExpression, 61), (.functionExpression, 59), (.classExpression, 60), (.element, 62)], []⟩,
   ⟨common 0, [wide .multiplicative 352, wide .unary 85, wide .postfixed 86, wide .callMember 163,
    wide .primary 96, guarded .primary 97, (.array, 58), (.object, 98), (.newExpression, 61),
    (.functionExpression, 59), (.classExpression, 60), (.element, 62)], []⟩,
   ⟨common 0, [wide .multiplicative 353, wide .unary 85, wide .postfixed 86, wide .callMember 163,
    wide .primary 96, guarded .primary 97, (.array, 58), (.object, 98), (.newExpression, 61),
    (.functionExpression, 59), (.classExpression, 60), (.element, 62)], []⟩,
   ⟨common 0, [wide .unary 354, wide .postfixed 86, wide .callMember 163, wide .primary 96,
    guarded .primary 97, (.array, 58), (.object, 98), (.newExpression, 61), (.functionExpression,
    59), (.classExpression, 60), (.element, 62)], []⟩,
   ⟨common 0, [wide .unary 355, wide .postfixed 86, wide .callMember 163, wide .primary 96,
    guarded .primary 97, (.array, 58), (.object, 98), (.newExpression, 61), (.functionExpression,
    59), (.classExpression, 60), (.element, 62)], []⟩,
   ⟨common 0, [wide .unary 356, wide .postfixed 86, wide .callMember 163, wide .primary 96,
    guarded .primary 97, (.array, 58), (.object, 98), (.newExpression, 61), (.functionExpression,
    59), (.classExpression, 60), (.element, 62)], []⟩,
   ⟨[], [], [reduce 2 (.chain .true .unary) 1]⟩,
   ⟨[], [], [reduce 2 (.chain .true .unary) 2]⟩,
   ⟨[], [], [reduce 2 (.chain .true .unary) 3]⟩,
   ⟨[], [], [reduce 2 (.chain .true .unary) 4]⟩,
   ⟨[], [], [reduce 2 (.chain .true .unary) 5]⟩]

def rowsFrom224 : List Row :=
  [⟨[], [], [reduce 2 (.chain .true .unary) 6]⟩,
   ⟨[], [], [reduce 2 (.chain .true .unary) 7]⟩,
   ⟨[], [], [reduce 2 (.chain .true .unary) 8]⟩,
   ⟨[], [], [reduce 2 (.chain .true .unary) 9]⟩,
   ⟨[(.comma, 358), (.braceClose, 359)], [(.moreMembers, 357)], []⟩,
   ⟨[], [], [reduce 0 .object 4]⟩,
   ⟨[(.colon, 360), (.parenOpen, 361)], [], []⟩,
   ⟨[], [], [reduce 4 .objectMember 1, reduce 37 .key 0]⟩,
   ⟨common 1, [(.arrowFunction, 78), (.arrowParams, 27), wide .assign 362, wide .conditional 76,
    wide .logicalOr 79, wide .logicalAnd 80, wide .equality 81, wide .relational 82,
    wide .additive 83, wide .multiplicative 84, wide .unary 85, wide .postfixed 86,
    wide .callMember 77, wide .primary 96, guarded .primary 97, (.array, 58), (.object, 98),
    (.newExpression, 61), (.functionExpression, 59), (.classExpression, 60), (.element, 62)], []⟩,
   ⟨[], [], [reduce 26 .key 1]⟩,
   ⟨[], [], [reduce 26 .key 2]⟩,
   ⟨common 1, [(.arrowFunction, 78), (.arrowParams, 27), wide .assign 363, wide .conditional 76,
    wide .logicalOr 79, wide .logicalAnd 80, wide .equality 81, wide .relational 82,
    wide .additive 83, wide .multiplicative 84, wide .unary 85, wide .postfixed 86,
    wide .callMember 77, wide .primary 96, guarded .primary 97, (.array, 58), (.object, 98),
    (.newExpression, 61), (.functionExpression, 59), (.classExpression, 60), (.element, 62)], []⟩,
   ⟨[], [], [reduce 1 .throwStatement 0]⟩,
   ⟨[(.comma, 364)], [], [reduce 28 .variableList 0]⟩,
   ⟨common 3, [(.declarator, 365), (.pattern, 102)], []⟩,
   ⟨common 1, [(.arrowFunction, 78), (.arrowParams, 27), wide .assign 366, wide .conditional 76,
    wide .logicalOr 79, wide .logicalAnd 80, wide .equality 81, wide .relational 82,
    wide .additive 83, wide .multiplicative 84, wide .unary 85, wide .postfixed 86,
    wide .callMember 77, wide .primary 96, guarded .primary 97, (.array, 58), (.object, 98),
    (.newExpression, 61), (.functionExpression, 59), (.classExpression, 60), (.element, 62)], []⟩,
   ⟨[(.comma, 368), (.braceClose, 369)], [(.moreProperties, 367)], []⟩,
   ⟨[], [], [reduce 7 .pattern 5]⟩,
   ⟨[(.assign, 370)], [], [reduce 4 .patternProperty 0, reduce 38 .key 0]⟩,
   ⟨[(.colon, 371)], [], []⟩,
   ⟨[(.name, 372)], [], []⟩,
   ⟨[(.comma, 374), (.bracketClose, 375)], [(.moreElements, 373)], []⟩,
   ⟨[], [], [reduce 7 .pattern 10]⟩,
   ⟨[(.assign, 376)], [], [reduce 14 .patternElement 0]⟩,
   ⟨common 3, [(.pattern, 377)], []⟩,
   ⟨[(.string, 378)], [], []⟩,
   ⟨[], [], [reduce 1 .importDeclaration 2]⟩,
   ⟨[(.braceOpen, 113), (.star, 112)], [(.importNamespace, 380), (.importNamed, 379)], []⟩,
   ⟨[(.name, 381)], [], []⟩,
   ⟨[(.comma, 383), (.braceClose, 384)], [(.moreImports, 382)], []⟩,
   ⟨[], [], [reduce 8 .importNamed 4]⟩,
   ⟨[(.asWord, 385)], [], [reduce 4 .importSpecifier 1]⟩]

def rowsFrom256 : List Row :=
  [⟨[(.semicolon, 386)], [], [reduce 1 .exportDeclaration 1]⟩,
   ⟨[], [], [reduce 1 .exportDeclaration 2]⟩,
   ⟨[(.comma, 388), (.braceClose, 389)], [(.moreExports, 387)], []⟩,
   ⟨[(.semicolon, 390)], [], [reduce 1 .exportDeclaration 15]⟩,
   ⟨[(.asWord, 391)], [], [reduce 4 .exportSpecifier 1]⟩,
   ⟨[(.classWord, 66)], [(.classExpression, 392)], []⟩,
   ⟨[], [], [reduce 1 .decoratedDeclaration 2]⟩,
   ⟨[], [], [reduce 18 .decorator 0]⟩,
   ⟨[(.name, 393)], [], []⟩,
   ⟨[], [], [reduce 6 .arrowFunction 0]⟩,
   ⟨[], [], [reduce 6 .arrowBody 0]⟩,
   ⟨[], [], [reduce 6 .arrowBody 1]⟩,
   ⟨[(.comma, 395), (.parenClose, 394)], [], []⟩,
   ⟨[], [], [reduce 19 .arrowParams 3, reduce 0 (.chain .false .primary) 9]⟩,
   ⟨common 1, [(.arrowFunction, 78), (.arrowParams, 27), wide .assign 396, wide .conditional 76,
    wide .logicalOr 79, wide .logicalAnd 80, wide .equality 81, wide .relational 82,
    wide .additive 83, wide .multiplicative 84, wide .unary 85, wide .postfixed 86,
    wide .callMember 77, wide .primary 96, guarded .primary 97, (.array, 58), (.object, 98),
    (.newExpression, 61), (.functionExpression, 59), (.classExpression, 60), (.element, 62)], []⟩,
   ⟨[], [], [reduce 6 (.chain .false .assign) 1]⟩,
   ⟨[], [], [reduce 0 (.chain .false .callMember) 1]⟩,
   ⟨[], [], [reduce 0 .propertyName 0]⟩,
   ⟨[(.bracketClose, 397)], [], []⟩,
   ⟨[(.comma, 399), (.parenClose, 400)], [(.moreArguments, 398)], []⟩,
   ⟨[], [], [reduce 0 .arguments 4]⟩,
   ⟨[], [], [reduce 9 .argument 0]⟩,
   ⟨common 1, [(.arrowFunction, 78), (.arrowParams, 27), wide .assign 401, wide .conditional 76,
    wide .logicalOr 79, wide .logicalAnd 80, wide .equality 81, wide .relational 82,
    wide .additive 83, wide .multiplicative 84, wide .unary 85, wide .postfixed 86,
    wide .callMember 77, wide .primary 96, guarded .primary 97, (.array, 58), (.object, 98),
    (.newExpression, 61), (.functionExpression, 59), (.classExpression, 60), (.element, 62)], []⟩,
   ⟨[(.colon, 402)], [], []⟩,
   ⟨[(.andMark, 203)], [], [reduce 16 (.chain .false .logicalOr) 1]⟩,
   ⟨[(.andMark, 203)], [], [reduce 16 (.chain .false .logicalOr) 2]⟩,
   ⟨common 7, [], [reduce 20 (.chain .false .logicalAnd) 1]⟩,
   ⟨common 2, [], [reduce 11 (.chain .false .equality) 1]⟩,
   ⟨common 2, [], [reduce 11 (.chain .false .equality) 2]⟩,
   ⟨common 2, [], [reduce 11 (.chain .false .equality) 3]⟩,
   ⟨common 2, [], [reduce 11 (.chain .false .equality) 4]⟩,
   ⟨[(.plus, 214), (.minus, 215)], [], [reduce 5 (.chain .false .relational) 1]⟩]

def rowsFrom288 : List Row :=
  [⟨[(.plus, 214), (.minus, 215)], [], [reduce 5 (.chain .false .relational) 2]⟩,
   ⟨[(.plus, 214), (.minus, 215)], [], [reduce 5 (.chain .false .relational) 3]⟩,
   ⟨[(.plus, 214), (.minus, 215)], [], [reduce 5 (.chain .false .relational) 4]⟩,
   ⟨[(.plus, 214), (.minus, 215)], [], [reduce 5 (.chain .false .relational) 5]⟩,
   ⟨[(.plus, 214), (.minus, 215)], [], [reduce 5 (.chain .false .relational) 6]⟩,
   ⟨common 4, [], [reduce 17 (.chain .false .additive) 1]⟩,
   ⟨common 4, [], [reduce 17 (.chain .false .additive) 2]⟩,
   ⟨[], [], [reduce 2 (.chain .false .multiplicative) 1]⟩,
   ⟨[], [], [reduce 2 (.chain .false .multiplicative) 2]⟩,
   ⟨[], [], [reduce 2 (.chain .false .multiplicative) 3]⟩,
   ⟨[(.parenClose, 403)], [], []⟩,
   ⟨[(.comma, 404), (.bracketClose, 405)], [], []⟩,
   ⟨[(.name, 28), (.number, 56), (.string, 55), (.template, 57), (.thisWord, 51), (.trueWord, 52),
    (.falseWord, 53), (.nullWord, 54), (.typeofWord, 91), (.voidWord, 92), (.deleteWord, 93),
    (.newWord, 64), (.functionWord, 65), (.classWord, 66), (.ellipsis, 177), (.braceOpen, 99),
    (.parenOpen, 29), (.bracketOpen, 63), (.bracketClose, 406), (.less, 67), (.plus, 89), (.minus,
    88), (.bang, 87), (.tilde, 90), (.increment, 94), (.decrement, 95)], [(.arrowFunction, 78),
    (.arrowParams, 27), wide .assign 176, wide .conditional 76, wide .logicalOr 79,
    wide .logicalAnd 80, wide .equality 81, wide .relational 82, wide .additive 83,
    wide .multiplicative 84, wide .unary 85, wide .postfixed 86, wide .callMember 77,
    wide .primary 96, guarded .primary 97, (.array, 58), (.arrayItem, 407), (.object, 98),
    (.newExpression, 61), (.functionExpression, 59), (.classExpression, 60), (.element, 62)], []⟩,
   ⟨[], [], [reduce 0 .array 3]⟩,
   ⟨[], [], [reduce 14 .arrayItem 1]⟩,
   ⟨[], [], [reduce 0 .newExpression 0]⟩,
   ⟨[(.name, 273)], [(.propertyName, 408)], []⟩,
   ⟨[(.name, 103), (.ellipsis, 308), (.braceOpen, 104), (.parenClose, 410), (.bracketOpen, 105)],
    [(.pattern, 307), (.params, 409), (.param, 306)], []⟩,
   ⟨[(.comma, 412)], [(.moreParams, 411)], [reduce 22 .params 3]⟩,
   ⟨[(.assign, 413)], [], [reduce 9 .param 0]⟩,
   ⟨common 3, [(.pattern, 414)], []⟩,
   ⟨[(.parenClose, 415)], [], []⟩,
   ⟨[(.braceOpen, 13)], [(.block, 416)], []⟩,
   ⟨common 8, [wide .callMember 417, wide .primary 96, guarded .primary 97, (.array, 58), (.object,
    98), (.newExpression, 61), (.functionExpression, 59), (.classExpression, 60), (.element, 62)],
    []⟩,
   ⟨[], [], [reduce 0 .classExpression 1]⟩,
   ⟨common 9, [(.arguments, 199), (.classBody, 418)], []⟩,
   ⟨[(.name, 315), (.number, 234), (.string, 233), (.staticWord, 419), (.getWord, 323), (.setWord,
    324), (.atSign, 26), (.bracketOpen, 235)], [(.decorator, 121), (.key, 421), (.accessor, 420)],
    []⟩,
   ⟨[], [], [reduce 39 .key 0]⟩,
   ⟨[(.name, 315), (.number, 234), (.string, 233), (.staticWord, 319), (.getWord, 323), (.setWord,
    324), (.semicolon, 322), (.atSign, 26), (.braceClose, 422), (.bracketOpen, 235)], [(.decorators,
    314), (.decorator, 25), (.key, 321), (.classMember, 423), (.accessor, 320)], []⟩,
   ⟨[], [], [reduce 0 .classBody 1]⟩,
   ⟨[], [], [reduce 3 .classMembers 0]⟩,
   ⟨common 10, [(.key, 425), (.accessor, 424)], []⟩]

def rowsFrom320 : List Row :=
  [⟨common 6, [(.key, 426)], []⟩,
   ⟨[(.semicolon, 429), (.parenOpen, 427), (.assign, 428)], [], [reduce 15 .classMember 31]⟩,
   ⟨[], [], [reduce 3 .classMember 32]⟩,
   ⟨[], [], [reduce 32 .accessor 0]⟩,
   ⟨[], [], [reduce 32 .accessor 1]⟩,
   ⟨[(.jsxName, 331), (.braceOpen, 330), (.greater, 430), (.selfClosing, 431)], [(.oneAttribute,
    432), (.attributeName, 329)], []⟩,
   ⟨[(.jsxText, 436), (.braceOpen, 437), (.less, 438), (.closing, 434)], [(.children, 433), (.child,
    435)], []⟩,
   ⟨[], [], [reduce 0 .element 5]⟩,
   ⟨[], [], [reduce 12 .attributes 0]⟩,
   ⟨[(.assign, 439)], [], [reduce 12 .oneAttribute 1]⟩,
   ⟨[(.ellipsis, 440)], [], []⟩,
   ⟨[(.colon, 441)], [], [reduce 33 .attributeName 0]⟩,
   ⟨[(.jsxName, 442)], [], []⟩,
   ⟨[(.jsxName, 443)], [], []⟩,
   ⟨common 5, [(.statement, 444), (.block, 11), (.ifStatement, 10), (.expressionStatement, 12),
    (.returnStatement, 8), (.throwStatement, 9), (.variableList, 7), (.variableKind, 18),
    (.importDeclaration, 4), (.exportDeclaration, 5), (.decoratedDeclaration, 6), (.decorators, 24),
    (.decorator, 25), (.arrowFunction, 32), (.arrowParams, 27), guarded .assign 15,
    guarded .conditional 30, guarded .logicalOr 33, guarded .logicalAnd 34, guarded .equality 35,
    guarded .relational 36, guarded .additive 37, guarded .multiplicative 38, guarded .unary 39,
    guarded .postfixed 40, guarded .callMember 31, guarded .primary 50, (.array, 58),
    (.newExpression, 61), (.functionExpression, 59), (.classExpression, 60), (.element, 62)], []⟩,
   ⟨[], [], [reduce 6 (.chain .true .assign) 1]⟩,
   ⟨[], [], [reduce 0 (.chain .true .callMember) 1]⟩,
   ⟨[(.bracketClose, 445)], [], []⟩,
   ⟨[(.colon, 446)], [], []⟩,
   ⟨[(.andMark, 203)], [], [reduce 16 (.chain .true .logicalOr) 1]⟩,
   ⟨[(.andMark, 203)], [], [reduce 16 (.chain .true .logicalOr) 2]⟩,
   ⟨common 7, [], [reduce 20 (.chain .true .logicalAnd) 1]⟩,
   ⟨common 2, [], [reduce 11 (.chain .true .equality) 1]⟩,
   ⟨common 2, [], [reduce 11 (.chain .true .equality) 2]⟩,
   ⟨common 2, [], [reduce 11 (.chain .true .equality) 3]⟩,
   ⟨common 2, [], [reduce 11 (.chain .true .equality) 4]⟩,
   ⟨[(.plus, 214), (.minus, 215)], [], [reduce 5 (.chain .true .relational) 1]⟩,
   ⟨[(.plus, 214), (.minus, 215)], [], [reduce 5 (.chain .true .relational) 2]⟩,
   ⟨[(.plus, 214), (.minus, 215)], [], [reduce 5 (.chain .true .relational) 3]⟩,
   ⟨[(.plus, 214), (.minus, 215)], [], [reduce 5 (.chain .true .relational) 4]⟩,
   ⟨[(.plus, 214), (.minus, 215)], [], [reduce 5 (.chain .true .relational) 5]⟩,
   ⟨[(.plus, 214), (.minus, 215)], [], [reduce 5 (.chain .true .relational) 6]⟩]

def rowsFrom352 : List Row :=
  [⟨common 4, [], [reduce 17 (.chain .true .additive) 1]⟩,
   ⟨common 4, [], [reduce 17 (.chain .true .additive) 2]⟩,
   ⟨[], [], [reduce 2 (.chain .true .multiplicative) 1]⟩,
   ⟨[], [], [reduce 2 (.chain .true .multiplicative) 2]⟩,
   ⟨[], [], [reduce 2 (.chain .true .multiplicative) 3]⟩,
   ⟨[(.comma, 447), (.braceClose, 448)], [], []⟩,
   ⟨[(.name, 231), (.number, 234), (.string, 233), (.ellipsis, 232), (.braceClose, 449),
    (.bracketOpen, 235)], [(.objectMember, 450), (.key, 230)], []⟩,
   ⟨[], [], [reduce 0 .object 3]⟩,
   ⟨common 1, [(.arrowFunction, 78), (.arrowParams, 27), wide .assign 451, wide .conditional 76,
    wide .logicalOr 79, wide .logicalAnd 80, wide .equality 81, wide .relational 82,
    wide .additive 83, wide .multiplicative 84, wide .unary 85, wide .postfixed 86,
    wide .callMember 77, wide .primary 96, guarded .primary 97, (.array, 58), (.object, 98),
    (.newExpression, 61), (.functionExpression, 59), (.classExpression, 60), (.element, 62)], []⟩,
   ⟨[(.name, 103), (.ellipsis, 308), (.braceOpen, 104), (.parenClose, 453), (.bracketOpen, 105)],
    [(.pattern, 307), (.params, 452), (.param, 306)], []⟩,
   ⟨[], [], [reduce 4 .objectMember 4]⟩,
   ⟨[(.bracketClose, 454)], [], []⟩,
   ⟨common 3, [(.declarator, 455), (.pattern, 102)], []⟩,
   ⟨[], [], [reduce 21 .moreDeclarators 0]⟩,
   ⟨[], [], [reduce 21 .declarator 0]⟩,
   ⟨[(.comma, 456), (.braceClose, 457)], [], []⟩,
   ⟨[(.name, 242), (.number, 234), (.string, 233), (.ellipsis, 244), (.braceClose, 458),
    (.bracketOpen, 235)], [(.patternProperty, 459), (.key, 243)], []⟩,
   ⟨[], [], [reduce 7 .pattern 4]⟩,
   ⟨common 1, [(.arrowFunction, 78), (.arrowParams, 27), wide .assign 460, wide .conditional 76,
    wide .logicalOr 79, wide .logicalAnd 80, wide .equality 81, wide .relational 82,
    wide .additive 83, wide .multiplicative 84, wide .unary 85, wide .postfixed 86,
    wide .callMember 77, wide .primary 96, guarded .primary 97, (.array, 58), (.object, 98),
    (.newExpression, 61), (.functionExpression, 59), (.classExpression, 60), (.element, 62)], []⟩,
   ⟨common 3, [(.pattern, 461)], []⟩,
   ⟨[], [], [reduce 4 .patternProperty 4]⟩,
   ⟨[(.comma, 462), (.bracketClose, 463)], [], []⟩,
   ⟨[(.name, 103), (.ellipsis, 248), (.braceOpen, 104), (.bracketOpen, 105), (.bracketClose, 464)],
    [(.pattern, 247), (.patternElement, 465)], []⟩,
   ⟨[], [], [reduce 7 .pattern 9]⟩,
   ⟨common 1, [(.arrowFunction, 78), (.arrowParams, 27), wide .assign 466, wide .conditional 76,
    wide .logicalOr 79, wide .logicalAnd 80, wide .equality 81, wide .relational 82,
    wide .additive 83, wide .multiplicative 84, wide .unary 85, wide .postfixed 86,
    wide .callMember 77, wide .primary 96, guarded .primary 97, (.array, 58), (.object, 98),
    (.newExpression, 61), (.functionExpression, 59), (.classExpression, 60), (.element, 62)], []⟩,
   ⟨[], [], [reduce 14 .patternElement 2]⟩,
   ⟨[(.semicolon, 467)], [], [reduce 1 .importDeclaration 1]⟩,
   ⟨[], [], [reduce 8 .importClause 1]⟩,
   ⟨[], [], [reduce 8 .importClause 2]⟩,
   ⟨[], [], [reduce 8 .importNamespace 0]⟩,
   ⟨[(.comma, 468), (.braceClose, 469)], [], []⟩,
   ⟨[(.name, 255), (.braceClose, 470)], [(.importSpecifier, 471)], []⟩]

def rowsFrom384 : List Row :=
  [⟨[], [], [reduce 8 .importNamed 3]⟩,
   ⟨[(.name, 472)], [], []⟩,
   ⟨[], [], [reduce 1 .exportDeclaration 0]⟩,
   ⟨[(.comma, 473), (.braceClose, 474)], [], []⟩,
   ⟨[(.name, 260), (.braceClose, 475)], [(.exportSpecifier, 476)], []⟩,
   ⟨[(.semicolon, 477)], [], [reduce 1 .exportDeclaration 13]⟩,
   ⟨[], [], [reduce 1 .exportDeclaration 14]⟩,
   ⟨[(.name, 478)], [], []⟩,
   ⟨[], [], [reduce 1 .decoratedDeclaration 1]⟩,
   ⟨[], [], [reduce 29 .decoratorTarget 1]⟩,
   ⟨[], [], [reduce 19 .arrowParams 2]⟩,
   ⟨common 1, [(.arrowFunction, 78), (.arrowParams, 27), wide .assign 479, wide .conditional 76,
    wide .logicalOr 79, wide .logicalAnd 80, wide .equality 81, wide .relational 82,
    wide .additive 83, wide .multiplicative 84, wide .unary 85, wide .postfixed 86,
    wide .callMember 77, wide .primary 96, guarded .primary 97, (.array, 58), (.object, 98),
    (.newExpression, 61), (.functionExpression, 59), (.classExpression, 60), (.element, 62)], []⟩,
   ⟨[], [], [reduce 9 .moreExpressions 0]⟩,
   ⟨[], [], [reduce 0 (.chain .false .callMember) 2]⟩,
   ⟨[(.comma, 480), (.parenClose, 481)], [], []⟩,
   ⟨[(.name, 28), (.number, 56), (.string, 55), (.template, 57), (.thisWord, 51), (.trueWord, 52),
    (.falseWord, 53), (.nullWord, 54), (.typeofWord, 91), (.voidWord, 92), (.deleteWord, 93),
    (.newWord, 64), (.functionWord, 65), (.classWord, 66), (.ellipsis, 278), (.braceOpen, 99),
    (.parenOpen, 29), (.parenClose, 482), (.bracketOpen, 63), (.less, 67), (.plus, 89), (.minus,
    88), (.bang, 87), (.tilde, 90), (.increment, 94), (.decrement, 95)], [(.arrowFunction, 78),
    (.arrowParams, 27), wide .assign 277, wide .conditional 76, wide .logicalOr 79,
    wide .logicalAnd 80, wide .equality 81, wide .relational 82, wide .additive 83,
    wide .multiplicative 84, wide .unary 85, wide .postfixed 86, wide .callMember 77,
    wide .primary 96, guarded .primary 97, (.argument, 483), (.array, 58), (.object, 98),
    (.newExpression, 61), (.functionExpression, 59), (.classExpression, 60), (.element, 62)], []⟩,
   ⟨[], [], [reduce 0 .arguments 3]⟩,
   ⟨[], [], [reduce 9 .argument 1]⟩,
   ⟨common 1, [(.arrowFunction, 78), (.arrowParams, 27), wide .assign 484, wide .conditional 76,
    wide .logicalOr 79, wide .logicalAnd 80, wide .equality 81, wide .relational 82,
    wide .additive 83, wide .multiplicative 84, wide .unary 85, wide .postfixed 86,
    wide .callMember 77, wide .primary 96, guarded .primary 97, (.array, 58), (.object, 98),
    (.newExpression, 61), (.functionExpression, 59), (.classExpression, 60), (.element, 62)], []⟩,
   ⟨[], [], [reduce 30 (.chain .false .primary) 9]⟩,
   ⟨[(.name, 28), (.number, 56), (.string, 55), (.template, 57), (.thisWord, 51), (.trueWord, 52),
    (.falseWord, 53), (.nullWord, 54), (.typeofWord, 91), (.voidWord, 92), (.deleteWord, 93),
    (.newWord, 64), (.functionWord, 65), (.classWord, 66), (.ellipsis, 177), (.braceOpen, 99),
    (.parenOpen, 29), (.bracketOpen, 63), (.bracketClose, 485), (.less, 67), (.plus, 89), (.minus,
    88), (.bang, 87), (.tilde, 90), (.increment, 94), (.decrement, 95)], [(.arrowFunction, 78),
    (.arrowParams, 27), wide .assign 176, wide .conditional 76, wide .logicalOr 79,
    wide .logicalAnd 80, wide .equality 81, wide .relational 82, wide .additive 83,
    wide .multiplicative 84, wide .unary 85, wide .postfixed 86, wide .callMember 77,
    wide .primary 96, guarded .primary 97, (.array, 58), (.arrayItem, 486), (.object, 98),
    (.newExpression, 61), (.functionExpression, 59), (.classExpression, 60), (.element, 62)], []⟩,
   ⟨[], [], [reduce 0 .array 1]⟩,
   ⟨[], [], [reduce 0 .array 2]⟩,
   ⟨[], [], [reduce 14 .moreItems 0]⟩,
   ⟨[], [], [reduce 0 .newCallee 2]⟩,
   ⟨[(.parenClose, 487)], [], []⟩,
   ⟨[(.braceOpen, 13)], [(.block, 488)], []⟩,
   ⟨[(.comma, 489)], [], [reduce 22 .params 1]⟩,
   ⟨common 11, [(.pattern, 307), (.param, 490)], [reduce 22 .params 2]⟩,
   ⟨common 1, [(.arrowFunction, 78), (.arrowParams, 27), wide .assign 491, wide .conditional 76,
    wide .logicalOr 79, wide .logicalAnd 80, wide .equality 81, wide .relational 82,
    wide .additive 83, wide .multiplicative 84, wide .unary 85, wide .postfixed 86,
    wide .callMember 77, wide .primary 96, guarded .primary 97, (.array, 58), (.object, 98),
    (.newExpression, 61), (.functionExpression, 59), (.classExpression, 60), (.element, 62)], []⟩,
   ⟨[], [], [reduce 9 .param 2]⟩,
   ⟨[(.braceOpen, 13)], [(.block, 492)], []⟩]

def rowsFrom416 : List Row :=
  [⟨[], [], [reduce 0 .functionExpression 3]⟩,
   ⟨common 9, [(.arguments, 199), (.classBody, 493)], []⟩,
   ⟨[], [], [reduce 0 .classExpression 2]⟩,
   ⟨common 10, [(.key, 495), (.accessor, 494)], []⟩,
   ⟨common 6, [(.key, 496)], []⟩,
   ⟨[(.semicolon, 499), (.parenOpen, 497), (.assign, 498)], [], [reduce 15 .classMember 23]⟩,
   ⟨[], [], [reduce 0 .classBody 0]⟩,
   ⟨[], [], [reduce 3 .classMembers 1]⟩,
   ⟨common 6, [(.key, 500)], []⟩,
   ⟨[(.semicolon, 503), (.parenOpen, 501), (.assign, 502)], [], [reduce 15 .classMember 27]⟩,
   ⟨[(.parenOpen, 504)], [], []⟩,
   ⟨[(.name, 103), (.ellipsis, 308), (.braceOpen, 104), (.parenClose, 506), (.bracketOpen, 105)],
    [(.pattern, 307), (.params, 505), (.param, 306)], []⟩,
   ⟨common 1, [(.arrowFunction, 78), (.arrowParams, 27), wide .assign 507, wide .conditional 76,
    wide .logicalOr 79, wide .logicalAnd 80, wide .equality 81, wide .relational 82,
    wide .additive 83, wide .multiplicative 84, wide .unary 85, wide .postfixed 86,
    wide .callMember 77, wide .primary 96, guarded .primary 97, (.array, 58), (.object, 98),
    (.newExpression, 61), (.functionExpression, 59), (.classExpression, 60), (.element, 62)], []⟩,
   ⟨[], [], [reduce 3 .classMember 30]⟩,
   ⟨[(.jsxText, 436), (.braceOpen, 437), (.less, 438), (.closing, 509)], [(.children, 508), (.child,
    435)], []⟩,
   ⟨[], [], [reduce 0 .element 4]⟩,
   ⟨[], [], [reduce 12 .attributes 1]⟩,
   ⟨[(.jsxText, 436), (.braceOpen, 437), (.less, 438), (.closing, 510)], [(.child, 511)], []⟩,
   ⟨[(.jsxName, 188)], [(.tagName, 512), (.memberName, 189), (.memberNameObject, 190)], []⟩,
   ⟨[], [], [reduce 10 .children 0]⟩,
   ⟨[], [], [reduce 10 .child 0]⟩,
   ⟨[(.name, 28), (.number, 56), (.string, 55), (.template, 57), (.thisWord, 51), (.trueWord, 52),
    (.falseWord, 53), (.nullWord, 54), (.typeofWord, 91), (.voidWord, 92), (.deleteWord, 93),
    (.newWord, 64), (.functionWord, 65), (.classWord, 66), (.braceOpen, 99), (.braceClose, 514),
    (.parenOpen, 29), (.bracketOpen, 63), (.less, 67), (.plus, 89), (.minus, 88), (.bang, 87),
    (.tilde, 90), (.increment, 94), (.decrement, 95)], [(.arrowFunction, 78), (.arrowParams, 27),
    wide .assign 513, wide .conditional 76, wide .logicalOr 79, wide .logicalAnd 80,
    wide .equality 81, wide .relational 82, wide .additive 83, wide .multiplicative 84,
    wide .unary 85, wide .postfixed 86, wide .callMember 77, wide .primary 96, guarded .primary 97,
    (.array, 58), (.object, 98), (.newExpression, 61), (.functionExpression, 59), (.classExpression,
    60), (.element, 62)], []⟩,
   ⟨[(.jsxName, 188)], [(.tagName, 515), (.memberName, 189), (.memberNameObject, 190)], []⟩,
   ⟨[(.jsxString, 517), (.braceOpen, 518)], [(.attributeValue, 516)], []⟩,
   ⟨common 1, [(.arrowFunction, 78), (.arrowParams, 27), wide .assign 519, wide .conditional 76,
    wide .logicalOr 79, wide .logicalAnd 80, wide .equality 81, wide .relational 82,
    wide .additive 83, wide .multiplicative 84, wide .unary 85, wide .postfixed 86,
    wide .callMember 77, wide .primary 96, guarded .primary 97, (.array, 58), (.object, 98),
    (.newExpression, 61), (.functionExpression, 59), (.classExpression, 60), (.element, 62)], []⟩,
   ⟨[(.jsxName, 520)], [], []⟩,
   ⟨[], [], [reduce 12 .tagName 2]⟩,
   ⟨[], [], [reduce 40 .memberName 0]⟩,
   ⟨[(.elseWord, 521)], [], [reduce 23 .ifStatement 1]⟩,
   ⟨[], [], [reduce 0 (.chain .true .callMember) 2]⟩,
   ⟨common 1, [(.arrowFunction, 78), (.arrowParams, 27), wide .assign 522, wide .conditional 76,
    wide .logicalOr 79, wide .logicalAnd 80, wide .equality 81, wide .relational 82,
    wide .additive 83, wide .multiplicative 84, wide .unary 85, wide .postfixed 86,
    wide .callMember 77, wide .primary 96, guarded .primary 97, (.array, 58), (.object, 98),
    (.newExpression, 61), (.functionExpression, 59), (.classExpression, 60), (.element, 62)], []⟩,
   ⟨[(.name, 231), (.number, 234), (.string, 233), (.ellipsis, 232), (.braceClose, 523),
    (.bracketOpen, 235)], [(.objectMember, 524), (.key, 230)], []⟩]

def rowsFrom448 : List Row :=
  [⟨[], [], [reduce 0 .object 1]⟩,
   ⟨[], [], [reduce 0 .object 2]⟩,
   ⟨[], [], [reduce 4 .moreMembers 0]⟩,
   ⟨[], [], [reduce 4 .objectMember 0]⟩,
   ⟨[(.parenClose, 525)], [], []⟩,
   ⟨[(.braceOpen, 13)], [(.block, 526)], []⟩,
   ⟨[], [], [reduce 26 .key 3]⟩,
   ⟨[], [], [reduce 21 .moreDeclarators 1]⟩,
   ⟨[(.name, 242), (.number, 234), (.string, 233), (.ellipsis, 244), (.braceClose, 527),
    (.bracketOpen, 235)], [(.patternProperty, 528), (.key, 243)], []⟩,
   ⟨[], [], [reduce 7 .pattern 2]⟩,
   ⟨[], [], [reduce 7 .pattern 3]⟩,
   ⟨[], [], [reduce 4 .moreProperties 0]⟩,
   ⟨[], [], [reduce 4 .patternProperty 1]⟩,
   ⟨[(.assign, 529)], [], [reduce 4 .patternProperty 2]⟩,
   ⟨[(.name, 103), (.ellipsis, 248), (.braceOpen, 104), (.bracketOpen, 105), (.bracketClose, 530)],
    [(.pattern, 247), (.patternElement, 531)], []⟩,
   ⟨[], [], [reduce 7 .pattern 7]⟩,
   ⟨[], [], [reduce 7 .pattern 8]⟩,
   ⟨[], [], [reduce 14 .moreElements 0]⟩,
   ⟨[], [], [reduce 14 .patternElement 1]⟩,
   ⟨[], [], [reduce 1 .importDeclaration 0]⟩,
   ⟨[(.name, 255), (.braceClose, 532)], [(.importSpecifier, 533)], []⟩,
   ⟨[], [], [reduce 8 .importNamed 1]⟩,
   ⟨[], [], [reduce 8 .importNamed 2]⟩,
   ⟨[], [], [reduce 4 .moreImports 0]⟩,
   ⟨[], [], [reduce 4 .importSpecifier 0]⟩,
   ⟨[(.name, 260), (.braceClose, 534)], [(.exportSpecifier, 535)], []⟩,
   ⟨[(.semicolon, 536)], [], [reduce 1 .exportDeclaration 9]⟩,
   ⟨[(.semicolon, 537)], [], [reduce 1 .exportDeclaration 11]⟩,
   ⟨[], [], [reduce 4 .moreExports 0]⟩,
   ⟨[], [], [reduce 1 .exportDeclaration 12]⟩,
   ⟨[], [], [reduce 4 .exportSpecifier 0]⟩,
   ⟨[], [], [reduce 9 .moreExpressions 1]⟩]

def rowsFrom480 : List Row :=
  [⟨[(.name, 28), (.number, 56), (.string, 55), (.template, 57), (.thisWord, 51), (.trueWord, 52),
    (.falseWord, 53), (.nullWord, 54), (.typeofWord, 91), (.voidWord, 92), (.deleteWord, 93),
    (.newWord, 64), (.functionWord, 65), (.classWord, 66), (.ellipsis, 278), (.braceOpen, 99),
    (.parenOpen, 29), (.parenClose, 538), (.bracketOpen, 63), (.less, 67), (.plus, 89), (.minus,
    88), (.bang, 87), (.tilde, 90), (.increment, 94), (.decrement, 95)], [(.arrowFunction, 78),
    (.arrowParams, 27), wide .assign 277, wide .conditional 76, wide .logicalOr 79,
    wide .logicalAnd 80, wide .equality 81, wide .relational 82, wide .additive 83,
    wide .multiplicative 84, wide .unary 85, wide .postfixed 86, wide .callMember 77,
    wide .primary 96, guarded .primary 97, (.argument, 539), (.array, 58), (.object, 98),
    (.newExpression, 61), (.functionExpression, 59), (.classExpression, 60), (.element, 62)], []⟩,
   ⟨[], [], [reduce 0 .arguments 1]⟩,
   ⟨[], [], [reduce 0 .arguments 2]⟩,
   ⟨[], [], [reduce 9 .moreArguments 0]⟩,
   ⟨[], [], [reduce 6 (.chain .false .conditional) 1]⟩,
   ⟨[], [], [reduce 0 .array 0]⟩,
   ⟨[], [], [reduce 14 .moreItems 1]⟩,
   ⟨[(.braceOpen, 13)], [(.block, 540)], []⟩,
   ⟨[], [], [reduce 0 .functionExpression 1]⟩,
   ⟨common 11, [(.pattern, 307), (.param, 541)], [reduce 22 .params 0]⟩,
   ⟨[], [], [reduce 9 .moreParams 0]⟩,
   ⟨[], [], [reduce 9 .param 1]⟩,
   ⟨[], [], [reduce 0 .functionExpression 2]⟩,
   ⟨[], [], [reduce 0 .classExpression 0]⟩,
   ⟨common 6, [(.key, 542)], []⟩,
   ⟨[(.semicolon, 545), (.parenOpen, 543), (.assign, 544)], [], [reduce 15 .classMember 19]⟩,
   ⟨[(.parenOpen, 546)], [], []⟩,
   ⟨[(.name, 103), (.ellipsis, 308), (.braceOpen, 104), (.parenClose, 548), (.bracketOpen, 105)],
    [(.pattern, 307), (.params, 547), (.param, 306)], []⟩,
   ⟨common 1, [(.arrowFunction, 78), (.arrowParams, 27), wide .assign 549, wide .conditional 76,
    wide .logicalOr 79, wide .logicalAnd 80, wide .equality 81, wide .relational 82,
    wide .additive 83, wide .multiplicative 84, wide .unary 85, wide .postfixed 86,
    wide .callMember 77, wide .primary 96, guarded .primary 97, (.array, 58), (.object, 98),
    (.newExpression, 61), (.functionExpression, 59), (.classExpression, 60), (.element, 62)], []⟩,
   ⟨[], [], [reduce 3 .classMember 22]⟩,
   ⟨[(.parenOpen, 550)], [], []⟩,
   ⟨[(.name, 103), (.ellipsis, 308), (.braceOpen, 104), (.parenClose, 552), (.bracketOpen, 105)],
    [(.pattern, 307), (.params, 551), (.param, 306)], []⟩,
   ⟨common 1, [(.arrowFunction, 78), (.arrowParams, 27), wide .assign 553, wide .conditional 76,
    wide .logicalOr 79, wide .logicalAnd 80, wide .equality 81, wide .relational 82,
    wide .additive 83, wide .multiplicative 84, wide .unary 85, wide .postfixed 86,
    wide .callMember 77, wide .primary 96, guarded .primary 97, (.array, 58), (.object, 98),
    (.newExpression, 61), (.functionExpression, 59), (.classExpression, 60), (.element, 62)], []⟩,
   ⟨[], [], [reduce 3 .classMember 26]⟩,
   ⟨[(.name, 103), (.ellipsis, 308), (.braceOpen, 104), (.parenClose, 555), (.bracketOpen, 105)],
    [(.pattern, 307), (.params, 554), (.param, 306)], []⟩,
   ⟨[(.parenClose, 556)], [], []⟩,
   ⟨[(.braceOpen, 13)], [(.block, 557)], []⟩,
   ⟨[(.semicolon, 558)], [], [reduce 15 .classMember 29]⟩,
   ⟨[(.jsxText, 436), (.braceOpen, 437), (.less, 438), (.closing, 559)], [(.child, 511)], []⟩,
   ⟨[(.jsxName, 188)], [(.tagName, 560), (.memberName, 189), (.memberNameObject, 190)], []⟩,
   ⟨[(.jsxName, 188)], [(.tagName, 561), (.memberName, 189), (.memberNameObject, 190)], []⟩,
   ⟨[], [], [reduce 10 .children 1]⟩]

def rowsFrom512 : List Row :=
  [⟨[(.greater, 562)], [], []⟩,
   ⟨[(.braceClose, 563)], [], []⟩,
   ⟨[], [], [reduce 10 .child 2]⟩,
   ⟨[(.jsxName, 331), (.braceOpen, 330), (.greater, 565), (.selfClosing, 566)], [(.attributes, 564),
    (.oneAttribute, 328), (.attributeName, 329)], []⟩,
   ⟨[], [], [reduce 12 .oneAttribute 0]⟩,
   ⟨[], [], [reduce 12 .attributeValue 0]⟩,
   ⟨common 1, [(.arrowFunction, 78), (.arrowParams, 27), wide .assign 567, wide .conditional 76,
    wide .logicalOr 79, wide .logicalAnd 80, wide .equality 81, wide .relational 82,
    wide .additive 83, wide .multiplicative 84, wide .unary 85, wide .postfixed 86,
    wide .callMember 77, wide .primary 96, guarded .primary 97, (.array, 58), (.object, 98),
    (.newExpression, 61), (.functionExpression, 59), (.classExpression, 60), (.element, 62)], []⟩,
   ⟨[(.braceClose, 568)], [], []⟩,
   ⟨[], [], [reduce 33 .attributeName 1]⟩,
   ⟨common 5, [(.statement, 569), (.block, 11), (.ifStatement, 10), (.expressionStatement, 12),
    (.returnStatement, 8), (.throwStatement, 9), (.variableList, 7), (.variableKind, 18),
    (.importDeclaration, 4), (.exportDeclaration, 5), (.decoratedDeclaration, 6), (.decorators, 24),
    (.decorator, 25), (.arrowFunction, 32), (.arrowParams, 27), guarded .assign 15,
    guarded .conditional 30, guarded .logicalOr 33, guarded .logicalAnd 34, guarded .equality 35,
    guarded .relational 36, guarded .additive 37, guarded .multiplicative 38, guarded .unary 39,
    guarded .postfixed 40, guarded .callMember 31, guarded .primary 50, (.array, 58),
    (.newExpression, 61), (.functionExpression, 59), (.classExpression, 60), (.element, 62)], []⟩,
   ⟨[], [], [reduce 6 (.chain .true .conditional) 1]⟩,
   ⟨[], [], [reduce 0 .object 0]⟩,
   ⟨[], [], [reduce 4 .moreMembers 1]⟩,
   ⟨[(.braceOpen, 13)], [(.block, 570)], []⟩,
   ⟨[], [], [reduce 4 .objectMember 3]⟩,
   ⟨[], [], [reduce 7 .pattern 1]⟩,
   ⟨[], [], [reduce 4 .moreProperties 1]⟩,
   ⟨common 1, [(.arrowFunction, 78), (.arrowParams, 27), wide .assign 571, wide .conditional 76,
    wide .logicalOr 79, wide .logicalAnd 80, wide .equality 81, wide .relational 82,
    wide .additive 83, wide .multiplicative 84, wide .unary 85, wide .postfixed 86,
    wide .callMember 77, wide .primary 96, guarded .primary 97, (.array, 58), (.object, 98),
    (.newExpression, 61), (.functionExpression, 59), (.classExpression, 60), (.element, 62)], []⟩,
   ⟨[], [], [reduce 7 .pattern 6]⟩,
   ⟨[], [], [reduce 14 .moreElements 1]⟩,
   ⟨[], [], [reduce 8 .importNamed 0]⟩,
   ⟨[], [], [reduce 4 .moreImports 1]⟩,
   ⟨[(.semicolon, 572)], [], [reduce 1 .exportDeclaration 7]⟩,
   ⟨[], [], [reduce 4 .moreExports 1]⟩,
   ⟨[], [], [reduce 1 .exportDeclaration 8]⟩,
   ⟨[], [], [reduce 1 .exportDeclaration 10]⟩,
   ⟨[], [], [reduce 0 .arguments 0]⟩,
   ⟨[], [], [reduce 9 .moreArguments 1]⟩,
   ⟨[], [], [reduce 0 .functionExpression 0]⟩,
   ⟨[], [], [reduce 9 .moreParams 1]⟩,
   ⟨[(.parenOpen, 573)], [], []⟩,
   ⟨[(.name, 103), (.ellipsis, 308), (.braceOpen, 104), (.parenClose, 575), (.bracketOpen, 105)],
    [(.pattern, 307), (.params, 574), (.param, 306)], []⟩]

def rowsFrom544 : List Row :=
  [⟨common 1, [(.arrowFunction, 78), (.arrowParams, 27), wide .assign 576, wide .conditional 76,
    wide .logicalOr 79, wide .logicalAnd 80, wide .equality 81, wide .relational 82,
    wide .additive 83, wide .multiplicative 84, wide .unary 85, wide .postfixed 86,
    wide .callMember 77, wide .primary 96, guarded .primary 97, (.array, 58), (.object, 98),
    (.newExpression, 61), (.functionExpression, 59), (.classExpression, 60), (.element, 62)], []⟩,
   ⟨[], [], [reduce 3 .classMember 18]⟩,
   ⟨[(.name, 103), (.ellipsis, 308), (.braceOpen, 104), (.parenClose, 578), (.bracketOpen, 105)],
    [(.pattern, 307), (.params, 577), (.param, 306)], []⟩,
   ⟨[(.parenClose, 579)], [], []⟩,
   ⟨[(.braceOpen, 13)], [(.block, 580)], []⟩,
   ⟨[(.semicolon, 581)], [], [reduce 15 .classMember 21]⟩,
   ⟨[(.name, 103), (.ellipsis, 308), (.braceOpen, 104), (.parenClose, 583), (.bracketOpen, 105)],
    [(.pattern, 307), (.params, 582), (.param, 306)], []⟩,
   ⟨[(.parenClose, 584)], [], []⟩,
   ⟨[(.braceOpen, 13)], [(.block, 585)], []⟩,
   ⟨[(.semicolon, 586)], [], [reduce 15 .classMember 25]⟩,
   ⟨[(.parenClose, 587)], [], []⟩,
   ⟨[(.braceOpen, 13)], [(.block, 588)], []⟩,
   ⟨[(.braceOpen, 13)], [(.block, 589)], []⟩,
   ⟨[], [], [reduce 3 .classMember 15]⟩,
   ⟨[], [], [reduce 3 .classMember 28]⟩,
   ⟨[(.jsxName, 188)], [(.tagName, 590), (.memberName, 189), (.memberNameObject, 190)], []⟩,
   ⟨[(.greater, 591)], [], []⟩,
   ⟨[(.greater, 592)], [], []⟩,
   ⟨[], [], [reduce 0 .element 3]⟩,
   ⟨[], [], [reduce 10 .child 1]⟩,
   ⟨[(.jsxName, 331), (.braceOpen, 330), (.greater, 593), (.selfClosing, 594)], [(.oneAttribute,
    432), (.attributeName, 329)], []⟩,
   ⟨[(.jsxText, 436), (.braceOpen, 437), (.less, 438), (.closing, 596)], [(.children, 595), (.child,
    435)], []⟩,
   ⟨[], [], [reduce 10 .child 8]⟩,
   ⟨[(.braceClose, 597)], [], []⟩,
   ⟨[], [], [reduce 12 .oneAttribute 2]⟩,
   ⟨[], [], [reduce 1 .ifStatement 0]⟩,
   ⟨[], [], [reduce 4 .objectMember 2]⟩,
   ⟨[], [], [reduce 4 .patternProperty 3]⟩,
   ⟨[], [], [reduce 1 .exportDeclaration 6]⟩,
   ⟨[(.name, 103), (.ellipsis, 308), (.braceOpen, 104), (.parenClose, 599), (.bracketOpen, 105)],
    [(.pattern, 307), (.params, 598), (.param, 306)], []⟩,
   ⟨[(.parenClose, 600)], [], []⟩,
   ⟨[(.braceOpen, 13)], [(.block, 601)], []⟩]

def rowsFrom576 : List Row :=
  [⟨[(.semicolon, 602)], [], [reduce 15 .classMember 17]⟩,
   ⟨[(.parenClose, 603)], [], []⟩,
   ⟨[(.braceOpen, 13)], [(.block, 604)], []⟩,
   ⟨[(.braceOpen, 13)], [(.block, 605)], []⟩,
   ⟨[], [], [reduce 3 .classMember 7]⟩,
   ⟨[], [], [reduce 3 .classMember 20]⟩,
   ⟨[(.parenClose, 606)], [], []⟩,
   ⟨[(.braceOpen, 13)], [(.block, 607)], []⟩,
   ⟨[(.braceOpen, 13)], [(.block, 608)], []⟩,
   ⟨[], [], [reduce 3 .classMember 11]⟩,
   ⟨[], [], [reduce 3 .classMember 24]⟩,
   ⟨[(.braceOpen, 13)], [(.block, 609)], []⟩,
   ⟨[], [], [reduce 3 .classMember 13]⟩,
   ⟨[], [], [reduce 3 .classMember 14]⟩,
   ⟨[(.greater, 610)], [], []⟩,
   ⟨[], [], [reduce 0 .element 1]⟩,
   ⟨[], [], [reduce 0 .element 2]⟩,
   ⟨[(.jsxText, 436), (.braceOpen, 437), (.less, 438), (.closing, 612)], [(.children, 611), (.child,
    435)], []⟩,
   ⟨[], [], [reduce 10 .child 7]⟩,
   ⟨[(.jsxText, 436), (.braceOpen, 437), (.less, 438), (.closing, 613)], [(.child, 511)], []⟩,
   ⟨[(.jsxName, 188)], [(.tagName, 614), (.memberName, 189), (.memberNameObject, 190)], []⟩,
   ⟨[], [], [reduce 12 .attributeValue 1]⟩,
   ⟨[(.parenClose, 615)], [], []⟩,
   ⟨[(.braceOpen, 13)], [(.block, 616)], []⟩,
   ⟨[(.braceOpen, 13)], [(.block, 617)], []⟩,
   ⟨[], [], [reduce 3 .classMember 3]⟩,
   ⟨[], [], [reduce 3 .classMember 16]⟩,
   ⟨[(.braceOpen, 13)], [(.block, 618)], []⟩,
   ⟨[], [], [reduce 3 .classMember 5]⟩,
   ⟨[], [], [reduce 3 .classMember 6]⟩,
   ⟨[(.braceOpen, 13)], [(.block, 619)], []⟩,
   ⟨[], [], [reduce 3 .classMember 9]⟩]

def rowsFrom608 : List Row :=
  [⟨[], [], [reduce 3 .classMember 10]⟩,
   ⟨[], [], [reduce 3 .classMember 12]⟩,
   ⟨[], [], [reduce 0 .element 0]⟩,
   ⟨[(.jsxText, 436), (.braceOpen, 437), (.less, 438), (.closing, 620)], [(.child, 511)], []⟩,
   ⟨[(.jsxName, 188)], [(.tagName, 621), (.memberName, 189), (.memberNameObject, 190)], []⟩,
   ⟨[(.jsxName, 188)], [(.tagName, 622), (.memberName, 189), (.memberNameObject, 190)], []⟩,
   ⟨[(.greater, 623)], [], []⟩,
   ⟨[(.braceOpen, 13)], [(.block, 624)], []⟩,
   ⟨[], [], [reduce 3 .classMember 1]⟩,
   ⟨[], [], [reduce 3 .classMember 2]⟩,
   ⟨[], [], [reduce 3 .classMember 4]⟩,
   ⟨[], [], [reduce 3 .classMember 8]⟩,
   ⟨[(.jsxName, 188)], [(.tagName, 625), (.memberName, 189), (.memberNameObject, 190)], []⟩,
   ⟨[(.greater, 626)], [], []⟩,
   ⟨[(.greater, 627)], [], []⟩,
   ⟨[], [], [reduce 10 .child 6]⟩,
   ⟨[], [], [reduce 3 .classMember 0]⟩,
   ⟨[(.greater, 628)], [], []⟩,
   ⟨[], [], [reduce 10 .child 4]⟩,
   ⟨[], [], [reduce 10 .child 5]⟩,
   ⟨[], [], [reduce 10 .child 3]⟩]

/-- All rows, in runs of thirty-two. -/
def rows : List (List Row) :=
  [rowsFrom0, rowsFrom32, rowsFrom64, rowsFrom96, rowsFrom128, rowsFrom160, rowsFrom192,
   rowsFrom224, rowsFrom256, rowsFrom288, rowsFrom320, rowsFrom352, rowsFrom384, rowsFrom416,
   rowsFrom448, rowsFrom480, rowsFrom512, rowsFrom544, rowsFrom576, rowsFrom608]

/-- The row of a state; a number that is no state has an empty row. -/
def row (state : Nat) : Row := ((rows[state / 32]?).bind (·[state % 32]?)).getD ⟨[], [], []⟩

end Table

end Hyperscript.Grammar
