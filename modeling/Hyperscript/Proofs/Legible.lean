import Hyperscript.Proofs.RestoredModule

/-!
# Trees that are read back

Where the parts of a tree are spelled so that the grammar takes them for what they are, its printed
text is read back. What this asks of a node depends on where it stands.
-/
namespace Hyperscript

open Grammar

/-- Where a node stands in what is printed of a tree. -/
inductive Standing
  | expression | item | member | key (computed : Bool) | freeKey (computed : Bool)
  | pattern | binder | property | parameter | body | block | target | decorator | classMember
  | classBody | declarator | exportSpecifier | statement | program

/-- A name that is imported, or another one for it. -/
def Node.IsNamedImport (n : Node) : Prop :=
  ∃ place namePlace otherPlace name other, IsName name ∧ IsName other ∧
    n = ⟨place, .importSpecifier ⟨namePlace, .identifier name⟩ ⟨otherPlace, .identifier other⟩⟩

/-- What the grammar takes for the specifiers of an import. -/
inductive ImportClause : List Node → Prop
  | default {place namePlace : Place} {name : Text} : IsFreeName name →
      ImportClause [⟨place, .importDefault ⟨namePlace, .identifier name⟩⟩]
  | all {place namePlace : Place} {name : Text} : IsName name →
      ImportClause [⟨place, .importNamespace ⟨namePlace, .identifier name⟩⟩]
  | named {specifiers : List Node} : specifiers ≠ [] → (∀ s ∈ specifiers, s.IsNamedImport) →
      ImportClause specifiers
  | defaultNamed {place namePlace : Place} {name : Text} {specifiers : List Node} :
      IsFreeName name → specifiers ≠ [] → (∀ s ∈ specifiers, s.IsNamedImport) →
      ImportClause (⟨place, .importDefault ⟨namePlace, .identifier name⟩⟩ :: specifiers)
  | defaultAll {place namePlace otherPlace allPlace : Place} {name other : Text} :
      IsFreeName name → IsName other →
      ImportClause [⟨place, .importDefault ⟨namePlace, .identifier name⟩⟩,
        ⟨allPlace, .importNamespace ⟨otherPlace, .identifier other⟩⟩]

/-- The nodes that are read back where they stand. -/
inductive Legible : Standing → Node → Prop
  | name {place : Place} {name : Text} :
      IsFreeName name → Legible .expression ⟨place, .identifier name⟩
  | this {place : Place} : Legible .expression ⟨place, .this⟩
  | boolean {place : Place} {value : Bool} : Legible .expression ⟨place, .boolean value⟩
  | null {place : Place} : Legible .expression ⟨place, .null⟩
  | number {place : Place} {value : Number} {raw : Text} : raw ≠ [] →
      Scan.number raw = raw.length → Number.read raw = .ok value →
      Legible .expression ⟨place, .number value (some raw)⟩
  | string {place : Place} {value : Text} {spelling : Option Text} :
      Scan.IsStringToken (spelling.getD value.quote) →
      Text.unescape (spelling.getD value.quote) = .ok value →
      Legible .expression ⟨place, .string value spelling⟩
  | template {place : Place} {raw : Text} : raw ≠ [] → Scan.template raw = raw.length →
      Legible .expression ⟨place, .template raw⟩
  | array {place : Place} {elements : List Node} : (∀ n ∈ elements, Legible .item n) →
      Legible .expression ⟨place, .arrayExpression elements⟩
  | object {place : Place} {properties : List Node} : (∀ n ∈ properties, Legible .member n) →
      Legible .expression ⟨place, .objectExpression properties⟩
  | function {place : Place} {id : Option Node} {params : List Node} {body : Node} :
      (∀ n ∈ id, n.IsFree) → (∀ n ∈ params, Legible .binder n) → Legible .block body →
      Legible .expression ⟨place, .functionExpression id params body⟩
  | classExpression {place : Place} {id superClass : Option Node} {body : Node} : (∀ n ∈ id, n.IsFree) →
      (∀ n ∈ superClass, Legible .expression n) → Legible .classBody body →
      Legible .expression ⟨place, .classExpression id superClass body []⟩
  | arrowName {place namePlace : Place} {name : Text} {body : Node} : IsFreeName name →
      Legible .body body →
      Legible .expression ⟨place, .arrow [⟨namePlace, .identifier name⟩] body⟩
  | arrow {place : Place} {params : List Node} {body : Node} :
      (∀ p name, params ≠ [⟨p, .identifier name⟩]) → (∀ n ∈ params, Legible .parameter n) →
      Legible .body body → Legible .expression ⟨place, .arrow params body⟩
  | unary {place : Place} {operator : Text} {argument : Node} : operator ∈ Operator.unary →
      Legible .expression argument → Legible .expression ⟨place, .unary operator argument⟩
  | leadingUpdate {place : Place} {operator : Text} {argument : Node} :
      operator ∈ Operator.update → Legible .expression argument →
      Legible .expression ⟨place, .update operator argument true⟩
  | trailingUpdate {place : Place} {operator : Text} {argument : Node} :
      operator ∈ Operator.update → Legible .expression argument →
      argument.isTrailingUpdate = false →
      Legible .expression ⟨place, .update operator argument false⟩
  | binary {place : Place} {operator : Text} {left right : Node} : operator ∈ Operator.binary →
      Legible .expression left → Legible .expression right →
      Legible .expression ⟨place, .binary operator left right⟩
  | logical {place : Place} {operator : Text} {left right : Node} :
      operator ∈ Operator.logical → Legible .expression left → Legible .expression right →
      Legible .expression ⟨place, .logical operator left right⟩
  | conditional {place : Place} {test consequent alternate : Node} : Legible .expression test →
      Legible .expression consequent → Legible .expression alternate →
      Legible .expression ⟨place, .conditional test consequent alternate⟩
  | assignment {place : Place} {operator : Text} {left right : Node} :
      operator ∈ Operator.assignment → Legible .expression left → Legible .expression right →
      Legible .expression ⟨place, .assignment operator left right⟩
  | access {place namePlace : Place} {object : Node} {name : Text} : Legible .expression object →
      IsName name →
      Legible .expression ⟨place, .member object ⟨namePlace, .identifier name⟩ false⟩
  | computed {place : Place} {object property : Node} : Legible .expression object →
      Legible .expression property → Legible .expression ⟨place, .member object property true⟩
  | call {place : Place} {callee : Node} {arguments : List Node} {spacious : Bool} :
      Legible .expression callee → (∀ n ∈ arguments, Legible .item n) →
      Legible .expression ⟨place, .call callee arguments spacious⟩
  | new {place : Place} {callee : Node} {arguments : List Node} : DottedName callee →
      (∀ n ∈ arguments, Legible .item n) → Legible .expression ⟨place, .new callee arguments⟩
  | item {n : Node} : Legible .expression n → Legible .item n
  | spreadItem {place : Place} {argument : Node} : Legible .expression argument →
      Legible .item ⟨place, .spread argument⟩
  | spread {place : Place} {argument : Node} : Legible .expression argument →
      Legible .member ⟨place, .spread argument⟩
  | entry {place : Place} {key value : Node} {computed : Bool} : Legible (.key computed) key →
      Legible .expression value → Legible .member ⟨place, .objectProperty key value computed false⟩
  | shorthand {place keyPlace namePlace : Place} {name : Text} : IsName name →
      Legible .member ⟨place, .objectProperty ⟨keyPlace, .identifier name⟩
        ⟨namePlace, .identifier name⟩ false true⟩
  | method {place : Place} {key body : Node} {params : List Node} {computed : Bool} :
      Legible (.key computed) key → (∀ n ∈ params, Legible .binder n) → Legible .block body →
      Legible .member ⟨place, .objectMethod key params body computed⟩
  | nameKey {place : Place} {name : Text} : IsName name →
      Legible (.key false) ⟨place, .identifier name⟩
  | key {n : Node} {computed : Bool} : Legible (.freeKey computed) n → Legible (.key computed) n
  | freeKey {place : Place} {name : Text} : IsFreeName name →
      Legible (.freeKey false) ⟨place, .identifier name⟩
  | stringKey {place : Place} {value : Text} {spelling : Option Text} :
      Scan.IsStringToken (spelling.getD value.quote) →
      Text.unescape (spelling.getD value.quote) = .ok value →
      Legible (.freeKey false) ⟨place, .string value spelling⟩
  | numberKey {place : Place} {value : Number} {raw : Text} : raw ≠ [] →
      Scan.number raw = raw.length → Number.read raw = .ok value →
      Legible (.freeKey false) ⟨place, .number value (some raw)⟩
  | computedKey {n : Node} : Legible .expression n → Legible (.freeKey true) n
  | namePattern {place : Place} {name : Text} : IsFreeName name →
      Legible .pattern ⟨place, .identifier name⟩
  | objectPattern {place : Place} {properties : List Node} :
      (∀ n ∈ properties, Legible .property n) → Legible .pattern ⟨place, .objectPattern properties⟩
  | arrayPattern {place : Place} {elements : List Node} :
      (∀ n ∈ elements, Legible .binder n) → Legible .pattern ⟨place, .arrayPattern elements⟩
  | binding {n : Node} : Legible .pattern n → Legible .binder n
  | fallback {place : Place} {target value : Node} : Legible .pattern target →
      Legible .expression value → Legible .binder ⟨place, .assignmentPattern target value⟩
  | rest {place : Place} {argument : Node} : Legible .pattern argument →
      Legible .binder ⟨place, .restElement argument⟩
  | bindingEntry {place : Place} {key value : Node} {computed : Bool} :
      Legible (.key computed) key → Legible .pattern value →
      Legible .property ⟨place, .objectProperty key value computed false⟩
  | bindingShorthand {place keyPlace namePlace : Place} {name : Text} : IsName name →
      Legible .property ⟨place, .objectProperty ⟨keyPlace, .identifier name⟩
        ⟨namePlace, .identifier name⟩ false true⟩
  | bindingDefault {place valuePlace : Place} {key target value : Node} {computed : Bool} :
      Legible (.key computed) key → Legible .pattern target → Legible .expression value →
      Legible .property
        ⟨place, .objectProperty key ⟨valuePlace, .assignmentPattern target value⟩ computed false⟩
  | bindingShorthandDefault {place keyPlace namePlace valuePlace : Place} {name : Text}
      {value : Node} : IsName name → Legible .expression value →
      Legible .property ⟨place, .objectProperty ⟨keyPlace, .identifier name⟩
        ⟨valuePlace, .assignmentPattern ⟨namePlace, .identifier name⟩ value⟩ false true⟩
  | restName {place namePlace : Place} {name : Text} : IsFreeName name →
      Legible .property ⟨place, .restElement ⟨namePlace, .identifier name⟩⟩
  | parameter {place : Place} {name : Text} : IsFreeName name →
      Legible .parameter ⟨place, .identifier name⟩
  | blockBody {place : Place} {statements : List Node} :
      Legible .block ⟨place, .block statements⟩ → Legible .body ⟨place, .block statements⟩
  | expressionBody {n : Node} : Legible .expression n →
      n.isObject = true ∨ n.sign? ≠ some (CodePoint.ofChar '\x7b') → Legible .body n
  | block {place : Place} {statements : List Node} : (∀ n ∈ statements, Legible .statement n) →
      List.IsChain Node.Precedes statements → Legible .block ⟨place, .block statements⟩
  | target {place : Place} {name : Text} : IsFreeName name →
      Legible .target ⟨place, .identifier name⟩
  | targetMember {place namePlace : Place} {object : Node} {name : Text} : Legible .target object →
      IsName name → Legible .target ⟨place, .member object ⟨namePlace, .identifier name⟩ false⟩
  | decorator {place : Place} {n : Node} : Legible .target n → Legible .decorator ⟨place, .decorator n⟩
  | decoratorCall {place callPlace : Place} {callee : Node} {arguments : List Node}
      {spacious : Bool} : Legible .target callee → (∀ n ∈ arguments, Legible .item n) →
      Legible .decorator ⟨place, .decorator ⟨callPlace, .call callee arguments spacious⟩⟩
  | classMethod {place : Place} {key body : Node} {params decorators : List Node} {kind : Text}
      {isStatic computed : Bool} : (∀ n ∈ decorators, Legible .decorator n) →
      kind ∈ ["method", "get", "set"].map Text.ofString → Legible (.freeKey computed) key →
      (∀ n ∈ params, Legible .binder n) → Legible .block body →
      Legible .classMember ⟨place, .classMethod key params body kind isStatic computed decorators⟩
  | classProperty {place : Place} {key : Node} {value : Option Node} {decorators : List Node}
      {isStatic computed : Bool} : (∀ n ∈ decorators, Legible .decorator n) →
      Legible (.freeKey computed) key → (∀ n ∈ value, Legible .expression n) →
      Legible .classMember ⟨place, .classProperty key value isStatic computed decorators⟩
  | classBody {place : Place} {members : List Node} : (∀ n ∈ members, Legible .classMember n) →
      Legible .classBody ⟨place, .classBody members⟩
  | bareDeclarator {place : Place} {target : Node} : Legible .pattern target →
      Legible .declarator ⟨place, .declarator target none⟩
  | declarator {place : Place} {target value : Node} : Legible .pattern target →
      Legible .expression value → Legible .declarator ⟨place, .declarator target (some value)⟩
  | expressionStatement {place : Place} {n : Node} : Legible .expression n → n.declares = false →
      Legible .statement ⟨place, .expressionStatement n⟩
  | blockStatement {place : Place} {statements : List Node} :
      Legible .block ⟨place, .block statements⟩ → Legible .statement ⟨place, .block statements⟩
  | variableStatement {place : Place} {kind : Text} {declarators : List Node} : kind ∈ variableKinds →
      declarators ≠ [] → (∀ n ∈ declarators, Legible .declarator n) →
      Legible .statement ⟨place, .variableDeclaration kind declarators⟩
  | bareReturn {place : Place} : Legible .statement ⟨place, .returnStatement none⟩
  | returnValue {place : Place} {n : Node} : Legible .expression n →
      Legible .statement ⟨place, .returnStatement (some n)⟩
  | throwStatement {place : Place} {n : Node} : Legible .expression n →
      Legible .statement ⟨place, .throwStatement n⟩
  | ifThen {place : Place} {test consequent : Node} : Legible .expression test →
      Legible .statement consequent → Legible .statement ⟨place, .ifStatement test consequent none⟩
  | ifElse {place : Place} {test consequent alternate : Node} : Legible .expression test →
      Legible .statement consequent → consequent.takesElse = false →
      Legible .statement alternate →
      Legible .statement ⟨place, .ifStatement test consequent (some alternate)⟩
  | functionStatement {place : Place} {name body : Node} {params : List Node} : name.IsFree →
      (∀ n ∈ params, Legible .binder n) → Legible .block body →
      Legible .statement ⟨place, .functionDeclaration (some name) params body⟩
  | classStatement {place : Place} {name body : Node} {superClass : Option Node} : name.IsFree →
      (∀ n ∈ superClass, Legible .expression n) → Legible .classBody body →
      Legible .statement ⟨place, .classDeclaration (some name) superClass body []⟩
  | decoratedClass {place : Place} {id superClass : Option Node} {body : Node}
      {decorators : List Node} : decorators ≠ [] → (∀ n ∈ decorators, Legible .decorator n) →
      (∀ n ∈ id, n.IsFree) → (∀ n ∈ superClass, Legible .expression n) → Legible .classBody body →
      Legible .statement ⟨place, .classDeclaration id superClass body decorators⟩
  | bareImport {place sourcePlace : Place} {value : Text} {spelling : Option Text} :
      Scan.IsStringToken (spelling.getD value.quote) →
      Text.unescape (spelling.getD value.quote) = .ok value →
      Legible .statement ⟨place, .importDeclaration [] ⟨sourcePlace, .string value spelling⟩⟩
  | importFrom {place sourcePlace : Place} {value : Text} {spelling : Option Text}
      {specifiers : List Node} : ImportClause specifiers →
      Scan.IsStringToken (spelling.getD value.quote) →
      Text.unescape (spelling.getD value.quote) = .ok value →
      Legible .statement
        ⟨place, .importDeclaration specifiers ⟨sourcePlace, .string value spelling⟩⟩
  | exportSpecifier {place namePlace otherPlace : Place} {name other : Text} : IsName name →
      IsName other → Legible .exportSpecifier
        ⟨place, .exportSpecifier ⟨namePlace, .identifier name⟩ ⟨otherPlace, .identifier other⟩⟩
  | exportNames {place : Place} {specifiers : List Node} :
      (∀ n ∈ specifiers, Legible .exportSpecifier n) →
      Legible .statement ⟨place, .exportNamed none specifiers⟩
  | exportExpression {place : Place} {n : Node} : Legible .expression n →
      Build.asDeclaration n = n → Legible .statement ⟨place, .exportDefault n⟩
  | exportVariables {place otherPlace : Place} {kind : Text} {declarators : List Node} :
      kind ∈ variableKinds → declarators ≠ [] → (∀ n ∈ declarators, Legible .declarator n) →
      Legible .statement
        ⟨place, .exportNamed (some ⟨otherPlace, .variableDeclaration kind declarators⟩) []⟩
  | exportDefaultFunction {place otherPlace : Place} {id : Option Node} {params : List Node}
      {body : Node} : (∀ n ∈ id, n.IsFree) → (∀ n ∈ params, Legible .binder n) →
      Legible .block body → Legible .statement
        ⟨place, .exportDefault ⟨otherPlace, .functionDeclaration id params body⟩⟩
  | exportFunction {place otherPlace : Place} {id : Option Node} {params : List Node}
      {body : Node} : (∀ n ∈ id, n.IsFree) → (∀ n ∈ params, Legible .binder n) →
      Legible .block body → Legible .statement
        ⟨place, .exportNamed (some ⟨otherPlace, .functionDeclaration id params body⟩) []⟩
  | exportDefaultClass {place otherPlace : Place} {id superClass : Option Node} {body : Node}
      {decorators : List Node} : (∀ n ∈ decorators, Legible .decorator n) → (∀ n ∈ id, n.IsFree) →
      (∀ n ∈ superClass, Legible .expression n) → Legible .classBody body → Legible .statement
        ⟨place, .exportDefault ⟨otherPlace, .classDeclaration id superClass body decorators⟩⟩
  | exportClass {place otherPlace : Place} {id superClass : Option Node} {body : Node}
      {decorators : List Node} : (∀ n ∈ decorators, Legible .decorator n) → (∀ n ∈ id, n.IsFree) →
      (∀ n ∈ superClass, Legible .expression n) → Legible .classBody body → Legible .statement
        ⟨place, .exportNamed (some ⟨otherPlace, .classDeclaration id superClass body decorators⟩) []⟩
  | program {place : Place} {statements : List Node} : (∀ n ∈ statements, Legible .statement n) →
      List.IsChain Node.Precedes statements → Legible .program ⟨place, .program statements⟩

namespace Node

/-- What it is to be read back from a standing. -/
def RestoresAt : Standing → Node → Prop
  | .expression, n => n.Restorable
  | .item, n => ∀ item ∈ [Nonterminal.arrayItem, .argument], n.RestoresItem item Precedence.assignment
  | .member, n => n.RestoresItem .objectMember 0
  | .key computed, n => n.RestoresKey computed
  | .freeKey computed, n => n.RestoresFreeKey computed
  | .pattern, n => n.Restores (.nonterminal .pattern) ∧ n.precedence = Precedence.primary
  | .binder, n => ∀ item least, IsBinder item → least ≤ Precedence.primary → n.RestoresItem item least
  | .property, n => n.RestoresItem .patternProperty 0
  | .parameter, n => n.RestoresLoose
  | .body, n => n.RestoresBody
  | .block, n => n.Restores (.nonterminal .block)
  | .target, n => n.RestoresTarget
  | .decorator, n => Build.isDecorator n = true ∧ n.Restores (.nonterminal .decorator)
  | .classMember, n => n.Restores (.nonterminal .classMember)
  | .classBody, n => n.Restores (.nonterminal .classBody)
  | .declarator, n => n.RestoresItem .declarator 0
  | .exportSpecifier, n => n.RestoresItem .exportSpecifier 0
  | .statement, n => n.RestoresStatement
  | .program, n => n.RestoresProgram

end Node

open Node

theorem Node.IsNamedImport.restores {n : Node} (h : n.IsNamedImport) :
    n.isImportSpecifier = true ∧ n.RestoresItem .importSpecifier 0 := by
  obtain ⟨_, _, _, _, _, isName, isName', rfl⟩ := h
  exact ⟨rfl, restores_importSpecifier isName isName'⟩

theorem ImportClause.restores {specifiers : List Node} (h : ImportClause specifiers) :
    RestoresClause specifiers := by
  cases h with
  | default free => exact restoresClause_default free
  | all isName => exact restoresClause_namespace isName
  | named some each => exact restoresClause_named some fun s mem => (each s mem).restores
  | defaultNamed free some each =>
    exact restoresClause_defaultNamed free some fun s mem => (each s mem).restores
  | defaultAll free isName => exact restoresClause_defaultNamespace free isName

theorem restoresItem_param {params : List Node} (each : ∀ n ∈ params, n.RestoresAt .binder) :
    ∀ n ∈ params, n.RestoresItem .param Precedence.assignment :=
  fun n mem => each n mem _ _ isBinder_param (by decide)

theorem Legible.not_declaration {n : Node} (h : Legible .expression n) : n.isDeclaration = false := by
  cases h <;> rfl

theorem Legible.restores {standing : Standing} {n : Node} (h : Legible standing n) :
    n.RestoresAt standing := by
  induction h with
  | name free => exact .identifier free
  | this => exact .this
  | boolean => exact .boolean
  | null => exact .null
  | number nonempty whole read => exact .number nonempty whole read
  | string isToken read => exact .string isToken read
  | template nonempty whole => exact .template nonempty whole
  | array _ ih => exact .array fun n mem => ih n mem _ (by decide)
  | object _ ih => exact .object ih
  | function free _ _ params body =>
    exact .function free (restoresItem_param params) body
  | classExpression free _ _ superClass body => exact .classExpression free superClass body
  | arrowName free _ body => exact .arrowName free body
  | arrow several _ _ params body => exact .arrow several params body
  | unary mem _ ih => exact .unary mem ih
  | leadingUpdate mem _ ih => exact .leadingUpdate mem ih
  | trailingUpdate mem _ single ih => exact .trailingUpdate mem ih single
  | binary mem _ _ left right => exact .binary mem left right
  | logical mem _ _ left right => exact .logical mem left right
  | conditional _ _ _ test consequent alternate => exact .conditional test consequent alternate
  | assignment mem _ _ left right => exact .assignment mem left right
  | access _ isName ih => exact .member ih isName
  | computed _ _ object property => exact .computed object property
  | call _ _ callee arguments => exact .call callee fun n mem => arguments n mem _ (by decide)
  | new callee _ ih => exact .new callee fun n mem => ih n mem _ (by decide)
  | item _ ih =>
    intro item mem
    simp only [List.mem_cons, List.not_mem_nil, or_false] at mem
    rcases mem with rfl | rfl <;> exact ih.item (by decide) rfl rfl
  | spreadItem _ ih =>
    intro item mem
    simp only [List.mem_cons, List.not_mem_nil, or_false] at mem
    rcases mem with rfl | rfl <;> exact restores_spread (by decide) ih (by decide)
  | spread _ ih => exact restores_spread (by decide) ih (by decide)
  | entry _ _ key value => exact restores_property key value
  | shorthand isName => exact restores_shorthand isName
  | method _ _ _ key params body =>
    exact restores_method key (restoresItem_param params) body
  | nameKey isName => exact restoresKey_name isName
  | key _ ih => exact ih.restoresKey
  | freeKey free => exact restoresKey_freeName free
  | stringKey isToken read => exact restoresKey_string isToken read
  | numberKey nonempty whole read => exact restoresKey_number nonempty whole read
  | computedKey _ ih => exact restoresKey_computed ih
  | namePattern free => exact ⟨restores_name free, rfl⟩
  | objectPattern _ ih => exact ⟨restores_objectPattern ih, rfl⟩
  | arrayPattern _ ih =>
    exact ⟨restores_arrayPattern fun n mem => ih n mem _ _ isBinder_element (Nat.zero_le _), rfl⟩
  | binding _ ih =>
    intro item least binder small
    exact restores_binding binder ih.1 (ih.2.symm ▸ small)
  | fallback _ _ target value =>
    intro item least binder small
    exact restores_default binder target.1 value small
  | rest _ ih =>
    intro item least binder small
    exact restores_rest binder ih.1 small
  | bindingEntry _ _ key value =>
    exact restores_bindingProperty key value.1 (value.2.symm ▸ by decide)
  | bindingShorthand isName => exact restores_bindingShorthand isName
  | bindingDefault _ _ _ key target value => exact restores_bindingDefault key target.1 value
  | bindingShorthandDefault isName _ ih => exact restores_bindingShorthandDefault isName ih
  | restName free => exact restores_restName free
  | parameter free => exact restoresLoose_name free
  | blockBody _ ih => exact restoresBody_block ih
  | expressionBody _ plain ih => exact restoresBody_expression ih plain
  | block _ chain ih => exact restores_block ih chain
  | target free => exact restoresTarget_name free
  | targetMember _ isName ih => exact restoresTarget_member ih isName
  | decorator _ ih => exact ⟨rfl, restores_decorator ih⟩
  | decoratorCall _ _ callee arguments =>
    exact ⟨rfl, restores_decoratorCall callee fun n mem => arguments n mem _ (by decide)⟩
  | classMethod _ known _ _ _ decorators key params body =>
    exact restores_classMethod decorators known key (restoresItem_param params) body
  | classProperty _ _ _ decorators key value =>
    exact restores_classProperty decorators key value
  | classBody _ ih => exact restores_classBody ih
  | bareDeclarator _ ih => exact restores_bareDeclarator ih.1
  | declarator _ _ target value => exact restores_declarator target.1 value
  | expressionStatement _ plain ih => exact restores_expression ih plain
  | blockStatement _ ih => exact restores_blockStatement ih
  | variableStatement known some _ ih => exact restores_variables known some ih
  | bareReturn => exact restores_return nofun
  | returnValue _ ih => exact restores_return (by rintro _ ⟨⟩; exact ih)
  | throwStatement _ ih => exact restores_throw ih
  | ifThen _ _ test consequent => exact restores_if test consequent
  | ifElse _ _ closed _ test consequent alternate =>
    exact restores_ifElse test consequent closed alternate
  | functionStatement free _ _ params body =>
    exact restores_function free (restoresItem_param params) body
  | classStatement free _ _ superClass body => exact restores_class free superClass body
  | decoratedClass some _ free _ _ decorators superClass body =>
    exact (restores_decoratedClass some decorators free superClass body).1
  | bareImport isToken read => exact restores_bareImport isToken read
  | importFrom clause isToken read => exact restores_import clause.restores isToken read
  | exportSpecifier isName isName' => exact restores_exportSpecifier isName isName'
  | exportNames _ ih => exact restores_exportNames ih
  | exportExpression h kept ih => exact restores_exportDefault ih kept h.not_declaration
  | exportVariables known some _ ih => exact restores_exportVariables known some ih
  | exportDefaultFunction free _ _ params body =>
    exact (restores_exportFunction free (restoresItem_param params) body).1
  | exportFunction free _ _ params body =>
    exact (restores_exportFunction free (restoresItem_param params) body).2
  | @exportDefaultClass _ _ _ _ _ decorators _ free _ _ marked superClass body =>
    by_cases none : decorators = []
    · subst none
      exact (restores_exportClass free superClass body).1
    · exact ((restores_decoratedClass none marked free superClass body).2 _).1
  | @exportClass _ _ _ _ _ decorators _ free _ _ marked superClass body =>
    by_cases none : decorators = []
    · subst none
      exact (restores_exportClass free superClass body).2
    · exact ((restores_decoratedClass none marked free superClass body).2 _).2
  | program _ chain ih => exact restoresProgram ih chain

end Hyperscript
