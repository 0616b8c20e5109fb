import Hyperscript.Proofs.RestoredClass
import Hyperscript.Proofs.RestoredStatement
import Hyperscript.Proofs.SuitedTree

/-!
# Declarations, imports and exports are read back

The statements of a module. What is exported without a semicolon ends where nothing carries it on,
like a declaration.
-/
namespace Hyperscript.Node

open Grammar

variable {place namePlace otherPlace sourcePlace : Place} {n body : Node} {name other : Text}
variable {params decorators declarators specifiers named : List Node} {id superClass : Option Node}
variable {kind : Text}

section Classes

/-- What a node is does not depend on where it stands. -/
theorem isNode_replaced {form : Form Node} {value : List Part} (same : IsNode ⟨place, form⟩ value)
    (p : Place) : IsNode ⟨p, form⟩ value := by
  rwa [IsNode, asRead_mk] at same ⊢

theorem restores_class (free : n.IsFree) (hs : ∀ m ∈ superClass, m.Restorable)
    (hb : body.Restores (.nonterminal .classBody)) :
    RestoresStatement ⟨place, .classDeclaration (some n) superClass body []⟩ := by
  have expression : Restorable ⟨place, .classExpression (some n) superClass body []⟩ :=
    .classExpression (by rintro _ ⟨⟩; exact free) hs hb
  refine restores_declaration expression rfl (by simp [sign?]) ?_ fun pretty depth => ?_
  · rw [Build.asDeclaration, endsOpen]
  · rw [Build.asDeclaration, Node.print, Node.print]

theorem carrier?_of_decorated {above : List Text} (some_ : decorators ≠ [])
    (own : DenoteDecorators decorators above) (depth : Nat) (rest : Text) :
    (Layout.decorators depth above ++ rest).carrier? = none := by
  cases own with
  | nil => exact absurd rfl some_
  | @cons _ t _ ts first others =>
    obtain ⟨words, phrase, means⟩ := first
    obtain ⟨w, later, rfl, opens⟩ := means.first
    obtain same : w.kind = .atSign := List.mem_singleton.mp opens
    have mem : (w.kind, Text.ofString "@") ∈ Terminal.spellings := by
      rw [same]
      decide
    obtain ⟨behind, rfl⟩ := starts_of_phrase phrase mem (by rw [same]; decide)
    rfl

/-- What is printed as a class with decorators starts with the first of these. -/
theorem restores_classText {exporting : Text} (some_ : decorators ≠ [])
    (above : ∀ d ∈ decorators, d.Restores (.nonterminal .decorator))
    (hs : ∀ m ∈ superClass, m.Restorable) (hb : body.Restores (.nonterminal .classBody))
    (print_eq : ∀ pretty depth, n.print pretty depth = do
      let aboves ← printAll pretty depth 0 decorators
      let parent ← printOption pretty depth Precedence.call superClass
      let text ← body.print pretty depth
      return Layout.classText depth exporting aboves id parent text)
    (own : ∀ depth aboves parent text, DenoteDecorators decorators aboves →
      DenotesOption (.nonterminal (.chain true .callMember)) superClass parent →
      Denotes (.nonterminal .classBody) text (IsNode body) → Denotes (.nonterminal .statement)
        (Layout.classText depth exporting aboves id parent text) (IsNode n)) :
    n.RestoresStatement := by
  refine .of_denotes fun pretty depth => ?_
  obtain ⟨aboves, printedAbove, marked⟩ := printAll_restores above pretty depth
  obtain ⟨parent, printedParent, extension⟩ := printOption_denotes hs pretty depth Precedence.call
  obtain ⟨text, printed, denotes⟩ := hb pretty depth
  refine ⟨Layout.classText depth exporting aboves id parent text, ?_, ?_,
    own depth aboves parent text marked extension denotes⟩
  · rw [print_eq, printedAbove, printedParent, printed]
    rfl
  · rw [classText_eq]
    exact carrier?_of_decorated some_ marked depth _

/-- A class with decorators ends by itself, also where it is exported. -/
theorem restores_decoratedClass (some_ : decorators ≠ [])
    (above : ∀ d ∈ decorators, Build.isDecorator d = true ∧ d.Restores (.nonterminal .decorator))
    (free : ∀ m ∈ id, m.IsFree) (hs : ∀ m ∈ superClass, m.Restorable)
    (hb : body.Restores (.nonterminal .classBody)) :
    let declaration : Node := ⟨place, .classDeclaration id superClass body decorators⟩
    RestoresStatement declaration ∧ ∀ p : Place,
      RestoresStatement ⟨p, .exportDefault declaration⟩ ∧
        RestoresStatement ⟨p, .exportNamed (some declaration) []⟩ := by
  have marks : ∀ d ∈ decorators, Build.isDecorator d = true := fun d mem => (above d mem).1
  have restored : ∀ d ∈ decorators, d.Restores (.nonterminal .decorator) :=
    fun d mem => (above d mem).2
  refine ⟨?_, fun p => ⟨?_, ?_⟩⟩
  · exact restores_classText some_ restored hs hb (fun _ _ => by rw [Node.print])
      fun depth _ _ _ marked extension denotes =>
        (denotes_decoratedClass some_ marked marks free extension denotes depth).1
  · exact restores_classText some_ restored hs hb (fun _ _ => by rw [Node.print])
      fun depth _ _ _ marked extension denotes =>
        (denotes_decoratedClass some_ marked marks free extension denotes depth).2.1.mono
          fun _ same => isNode_replaced same p
  · exact restores_classText some_ restored hs hb (fun _ _ => by rw [Node.print])
      fun depth _ _ _ marked extension denotes =>
        (denotes_decoratedClass some_ marked marks free extension denotes depth).2.2.mono
          fun _ same => isNode_replaced same p

end Classes

section Exports

theorem restores_exportNames (each : ∀ s ∈ specifiers, s.RestoresItem .exportSpecifier 0) :
    RestoresStatement ⟨place, .exportNamed none specifiers⟩ := by
  refine .of_denotes fun pretty depth => ?_
  obtain ⟨texts, printed, items⟩ := printAll_items each pretty depth
  refine ⟨"export " ++ bracesText texts ++ ";", ?_, rfl, denotes_exportNames items⟩
  have same : (Layout.commas texts).isEmpty = texts.isEmpty := by
    cases items with
    | nil => rfl
    | cons first others =>
      obtain ⟨c, more, text_eq, -⟩ := DenoteItems.opened (.cons first others) (List.cons_ne_nil _ _)
      rw [text_eq]
      rfl
  rw [Node.print, printed]
  simp only [bind, Except.bind, pure, Except.pure, same, bracesText]
  split <;> simp [Text.ofString]

theorem restores_exportSpecifier (isName : IsName name) (isName' : IsName other) :
    RestoresItem .exportSpecifier 0
      ⟨place, .exportSpecifier ⟨namePlace, .identifier name⟩ ⟨otherPlace, .identifier other⟩⟩ := by
  intro pretty depth
  refine ⟨Layout.renamed name other, ?_, denotes_exportSpecifier isName isName'⟩
  rw [Node.print, Layout.renamed]
  by_cases same : name = other <;> simp [printedName, name?, same, pure, Except.pure]

/-- A function or a class expression would be read back as a declaration. -/
theorem restores_exportDefault (h : n.Restorable) (kept : Build.asDeclaration n = n)
    (expression : n.isDeclaration = false) : RestoresStatement ⟨place, .exportDefault n⟩ := by
  refine .of_denotes fun pretty depth => ?_
  obtain ⟨text, printed, denotes⟩ := h.expression pretty depth
  let ambiguous := n.startsLikeDeclaration && !n.isDeclarationLike
  have own : Denotes (.nonterminal .expression)
      (Layout.parenthesize ambiguous (n.operand Precedence.assignment text)) (IsNode n) := by
    rw [Layout.parenthesize]
    split
    · exact .parenthesized denotes true _
    · exact denotes
  have statement : Denotes (.nonterminal .statement)
      ("export default " ++ Layout.parenthesize ambiguous (n.operand Precedence.assignment text) ++ ";")
      (IsNode ⟨place, .exportDefault (Build.asDeclaration n)⟩) := denotes_exportDefault own
  rw [kept] at statement
  refine ⟨_, ?_, rfl, statement⟩
  rw [Node.print]
  · rw [printed]
    rfl
  · rintro p id superClass body decorators rfl
    cases expression
  · rintro p id params body rfl
    cases expression

/-- What is declared without a decorator is carried on where it is exported as the default. -/
theorem restores_defaultDeclaration
    (own : ∀ pretty depth, ∃ text,
      Node.print pretty depth ⟨place, .exportDefault (Build.asDeclaration n)⟩ =
        .ok ("export default " ++ text) ∧
      Denotes (.nonterminal .expression) text (IsNode n))
    (open_ : endsOpen ⟨place, .exportDefault (Build.asDeclaration n)⟩ = true) :
    RestoresStatement ⟨place, .exportDefault (Build.asDeclaration n)⟩ := by
  intro pretty depth
  obtain ⟨text, printed, denotes⟩ := own pretty depth
  refine ⟨"export default " ++ text, printed, fun _ => rfl,
    (denotes_defaultDeclaration denotes).weaken ?_⟩
  rintro k ⟨behind, -⟩
  exact behind open_

/-- What is declared is exported as the default, or by its name. -/
theorem restores_exportFunction (free : ∀ m ∈ id, m.IsFree)
    (hp : ∀ p ∈ params, p.RestoresItem .param Precedence.assignment)
    (hb : n.Restores (.nonterminal .block)) :
    RestoresStatement ⟨place, .exportDefault ⟨otherPlace, .functionDeclaration id params n⟩⟩ ∧
    RestoresStatement
      ⟨place, .exportNamed (some ⟨otherPlace, .functionDeclaration id params n⟩) []⟩ := by
  constructor
  · refine restores_defaultDeclaration (n := ⟨otherPlace, .functionExpression id params n⟩)
      (fun pretty depth => ?_) (by rw [Build.asDeclaration, endsOpen])
    obtain ⟨texts, printedAll, items⟩ := printAll_items hp pretty depth
    obtain ⟨text, printed, denotes⟩ := hb pretty depth
    refine ⟨Layout.functionText id texts text, ?_,
      .primary (.pass (i := 10) (by decide) rfl rfl (denotes_function free items denotes)) true _⟩
    rw [Build.asDeclaration, Node.print, printedAll, printed]
    rfl
  · refine .of_denotes fun pretty depth => ?_
    obtain ⟨texts, printedAll, items⟩ := printAll_items hp pretty depth
    obtain ⟨text, printed, denotes⟩ := hb pretty depth
    have own : Denotes (.nonterminal .functionExpression) (Layout.functionText id texts text)
        (IsNode ⟨otherPlace, .functionExpression id params n⟩) := denotes_function free items denotes
    refine ⟨"export " ++ Layout.functionText id texts text, ?_, rfl,
      denotes_exportDeclaration (i := 4) (by decide) rfl rfl own⟩
    rw [Node.print]
    · rw [Node.print, printedAll, printed]
      rfl
    · simp

theorem restores_exportClass (free : ∀ m ∈ id, m.IsFree) (hs : ∀ m ∈ superClass, m.Restorable)
    (hb : body.Restores (.nonterminal .classBody)) :
    RestoresStatement
      ⟨place, .exportDefault ⟨otherPlace, .classDeclaration id superClass body []⟩⟩ ∧
    RestoresStatement
      ⟨place, .exportNamed (some ⟨otherPlace, .classDeclaration id superClass body []⟩) []⟩ := by
  constructor
  · refine restores_defaultDeclaration (n := ⟨otherPlace, .classExpression id superClass body []⟩)
      (fun pretty depth => ?_) (by rw [Build.asDeclaration, endsOpen])
    obtain ⟨parent, printedParent, extension⟩ :=
      printOption_denotes hs pretty depth Precedence.call
    obtain ⟨text, printed, denotes⟩ := hb pretty depth
    refine ⟨bareClassText id parent text, ?_,
      .primary (.pass (i := 11) (by decide) rfl rfl (denotes_class free extension denotes)) true _⟩
    rw [Build.asDeclaration, Node.print, printedParent, printed]
    simp [bind, Except.bind, pure, Except.pure, printAll, classText_eq, Layout.decorators]
  · refine .of_denotes fun pretty depth => ?_
    obtain ⟨parent, printedParent, extension⟩ :=
      printOption_denotes hs pretty depth Precedence.call
    obtain ⟨text, printed, denotes⟩ := hb pretty depth
    have own : Denotes (.nonterminal .classExpression) (bareClassText id parent text)
        (IsNode ⟨otherPlace, .classExpression id superClass body []⟩) :=
      denotes_class free extension denotes
    refine ⟨"export " ++ bareClassText id parent text, ?_, rfl,
      denotes_exportDeclaration (i := 5) (by decide) rfl rfl own⟩
    rw [Node.print, printedParent, printed]
    simp [bind, Except.bind, pure, Except.pure, printAll, classText_eq, Layout.decorators]

theorem restores_exportVariables (known : kind ∈ variableKinds) (some_ : declarators ≠ [])
    (each : ∀ d ∈ declarators, d.RestoresItem .declarator 0) :
    RestoresStatement
      ⟨place, .exportNamed (some ⟨otherPlace, .variableDeclaration kind declarators⟩) []⟩ := by
  refine .of_denotes fun pretty depth => ?_
  obtain ⟨texts, printed, items⟩ := printAll_items each pretty depth
  have own : Denotes (.nonterminal .variableList) (kind ++ " " ++ Layout.commas texts)
      (IsNode ⟨otherPlace, .variableDeclaration kind declarators⟩) :=
    denotes_variableList known some_ items
  refine ⟨"export " ++ (kind ++ " " ++ Layout.commas texts ++ ";"), ?_, rfl,
    denotes_exportVariables own rfl⟩
  rw [Node.print]
  · rw [Node.print, printed]
    rfl
  · simp

end Exports

section Imports

/-- However the specifiers are printed, the clause that is made of them denotes them. -/
def RestoresClause (specifiers : List Node) : Prop :=
  specifiers ≠ [] ∧ ∀ pretty depth, ∃ texts clause,
    printAll pretty depth 0 specifiers = .ok texts ∧
    (∀ source, Layout.importText ((specifiers.map isImportSpecifier).zip texts) source =
      "import " ++ clause ++ " from " ++ source ++ ";") ∧
    Denotes (.nonterminal .importClause) clause (IsList specifiers)

theorem restores_import {value : Text} {spelling : Option Text} (h : RestoresClause specifiers)
    (isToken : Scan.IsStringToken (spelling.getD value.quote))
    (read : Text.unescape (spelling.getD value.quote) = .ok value) :
    RestoresStatement
      ⟨place, .importDeclaration specifiers ⟨sourcePlace, .string value spelling⟩⟩ := by
  refine .of_denotes fun pretty depth => ?_
  obtain ⟨texts, clause, printed, text_eq, denotes⟩ := h.2 pretty depth
  refine ⟨_, ?_, rfl, denotes_import denotes isToken read rfl⟩
  rw [Node.print, Node.print, printed]
  simp only [bind, Except.bind, pure, Except.pure, List.isEmpty_iff, h.1, if_false, text_eq]

theorem restores_bareImport {value : Text} {spelling : Option Text}
    (isToken : Scan.IsStringToken (spelling.getD value.quote))
    (read : Text.unescape (spelling.getD value.quote) = .ok value) :
    RestoresStatement ⟨place, .importDeclaration [] ⟨sourcePlace, .string value spelling⟩⟩ := by
  refine .of_denotes fun pretty depth => ?_
  refine ⟨_, ?_, rfl, denotes_bareImport isToken read rfl⟩
  rw [Node.print, Node.print]
  rfl

theorem restores_importSpecifier (isName : IsName name) (isName' : IsName other) :
    RestoresItem .importSpecifier 0
      ⟨place, .importSpecifier ⟨namePlace, .identifier name⟩ ⟨otherPlace, .identifier other⟩⟩ :=
  fun _ _ => ⟨Layout.renamed name other, by rw [Node.print]; rfl,
    denotes_importSpecifier isName isName'⟩

theorem filled_texts {texts : List Text} (own : DenoteItems .importSpecifier named texts)
    (some_ : named ≠ []) : texts.isEmpty = false := by
  cases own with
  | nil => exact absurd rfl some_
  | cons => rfl

theorem named_texts {texts : List Text} (own : DenoteItems .importSpecifier named texts)
    (each : ∀ s ∈ named, s.isImportSpecifier = true) :
    ((named.map isImportSpecifier).zip texts).filter (fun s => !s.1) = [] ∧
      (((named.map isImportSpecifier).zip texts).filter fun s => s.1).map (·.2) = texts := by
  induction own with
  | nil => exact ⟨rfl, rfl⟩
  | cons first others ih =>
    rw [List.forall_mem_cons] at each
    have rest := ih each.2
    simpa [each.1] using rest

theorem restoresClause_default (free : IsFreeName name) :
    RestoresClause [⟨place, .importDefault ⟨namePlace, .identifier name⟩⟩] := by
  refine ⟨List.cons_ne_nil _ _, fun pretty depth => ⟨[name], name, ?_, fun source => ?_,
    denotes_importClause (i := 0) (by decide) rfl (denotes_importDefault free)⟩⟩
  · rw [printAll, printAll, Node.print]
    rfl
  · simp [Layout.importText, isImportSpecifier, Layout.commas, Text.join]

theorem restoresClause_namespace (isName : IsName name) :
    RestoresClause [⟨place, .importNamespace ⟨namePlace, .identifier name⟩⟩] := by
  refine ⟨List.cons_ne_nil _ _, fun pretty depth => ⟨["* as " ++ name], "* as " ++ name, ?_,
    fun source => ?_, denotes_importClause (i := 4) (by decide) rfl (denotes_importNamespace isName)⟩⟩
  · rw [printAll, printAll, Node.print]
    rfl
  · simp [Layout.importText, isImportSpecifier, Layout.commas, Text.join]

theorem restoresClause_named (some_ : named ≠ [])
    (each : ∀ s ∈ named, s.isImportSpecifier = true ∧ s.RestoresItem .importSpecifier 0) :
    RestoresClause named := by
  refine ⟨some_, fun pretty depth => ?_⟩
  obtain ⟨texts, printed, items⟩ := printAll_items (fun s mem => (each s mem).2) pretty depth
  obtain ⟨others, all⟩ := named_texts items fun s mem => (each s mem).1
  refine ⟨texts, bracesText texts, printed, fun source => ?_,
    denotes_importClause (i := 3) (by decide) rfl (denotes_importNamed items)⟩
  simp [Layout.importText, others, all, bracesText, filled_texts items some_, Layout.commas, Text.join]

theorem restoresClause_defaultNamed (free : IsFreeName name) (some_ : named ≠ [])
    (each : ∀ s ∈ named, s.isImportSpecifier = true ∧ s.RestoresItem .importSpecifier 0) :
    RestoresClause (⟨place, .importDefault ⟨namePlace, .identifier name⟩⟩ :: named) := by
  refine ⟨List.cons_ne_nil _ _, fun pretty depth => ?_⟩
  obtain ⟨texts, printed, items⟩ := printAll_items (fun s mem => (each s mem).2) pretty depth
  obtain ⟨others, all⟩ := named_texts items fun s mem => (each s mem).1
  refine ⟨name :: texts, name ++ ", " ++ bracesText texts, ?_, fun source => ?_,
    denotes_importClauses (i := 1) (by decide) rfl (denotes_importDefault free)
      (denotes_importNamed items)⟩
  · rw [printAll, Node.print, printed]
    rfl
  · simp [Layout.importText, isImportSpecifier, others, all, bracesText, filled_texts items some_, Layout.commas,
      Text.join, List.intercalate]

theorem restoresClause_defaultNamespace (free : IsFreeName name) (isName : IsName other) :
    RestoresClause [⟨place, .importDefault ⟨namePlace, .identifier name⟩⟩,
      ⟨sourcePlace, .importNamespace ⟨otherPlace, .identifier other⟩⟩] := by
  refine ⟨List.cons_ne_nil _ _, fun pretty depth => ⟨[name, "* as " ++ other],
    name ++ ", " ++ ("* as " ++ other), ?_, fun source => ?_,
    denotes_importClauses (i := 2) (by decide) rfl (denotes_importDefault free)
      (denotes_importNamespace isName)⟩⟩
  · rw [printAll, printAll, printAll, Node.print, Node.print]
    rfl
  · simp [Layout.importText, isImportSpecifier, Layout.commas, Text.join, List.intercalate]

end Imports

end Hyperscript.Node
