import Hyperscript.Proofs.FunctionText

/-!
# What the texts of statements mean

For each production of a statement: the texts of its parts, put together as the printer does,
denote the node that its action makes of the parts. A declaration without a semicolon and an `if`
without an `else` do so only where nothing carries them on.
-/
namespace Hyperscript

/-- A function or a class with a name is a declaration where a statement may stand. -/
def Node.declares (n : Node) : Bool :=
  match n.form with
  | .functionExpression (some _) .. | .classExpression (some _) .. => true
  | _ => false

namespace Node

theorem declares_of_asRead {m n : Node} (same : m.unplaced = n.asRead) :
    m.declares = n.declares := by
  have unplaced_kept : ∀ k : Node, k.unplaced.declares = k.declares := by
    rintro ⟨place, form⟩
    rw [unplaced_mk]
    cases form <;> first | rfl | (rename_i id _ _; cases id <;> rfl) |
      (rename_i id _ _ _; cases id <;> rfl)
  have asRead_kept : ∀ k : Node, k.asRead.declares = k.declares := by
    rintro ⟨place, form⟩
    rw [asRead_mk]
    cases form <;> first | rfl | (rename_i id _ _; cases id <;> rfl) |
      (rename_i id _ _ _; cases id <;> rfl)
  rw [← unplaced_kept m, same, asRead_kept]

end Node

namespace Grammar

variable {Next : Terminal → Prop} {place : Place} {text first second third : Text}
variable {m n body : Node} {id superClass : Option Node} {params decorators : List Node}

section Declarations

theorem asStatement_eq {m : Node} (h : m.declares = false) :
    Build.asStatement m = ⟨m.place, .expressionStatement m⟩ := by
  obtain ⟨place, form⟩ := m
  cases form <;> first | rfl | (rename_i id _ _; cases id <;> first | rfl | cases h) |
    (rename_i id _ _ _; cases id <;> first | rfl | cases h)

theorem asStatement_of_declares (h : m.declares = true) :
    Build.asStatement m = Build.asDeclaration m := by
  obtain ⟨place, form⟩ := m
  cases form <;> first | cases h | (rename_i id _ _; cases id <;> first | rfl | cases h) |
    (rename_i id _ _ _; cases id <;> first | rfl | cases h)

/-- What is read back is the same declaration. -/
theorem asDeclaration_of_asRead (same : m.unplaced = n.asRead) :
    (Build.asDeclaration m).unplaced = (Build.asDeclaration n).asRead := by
  have unplaced_kept : ∀ k : Node, (Build.asDeclaration k).unplaced = Build.asDeclaration k.unplaced := by
    rintro ⟨place, form⟩
    cases form <;> simp [Build.asDeclaration, Node.unplaced_mk, Node.plain, Form.map]
  have asRead_kept : ∀ k : Node, (Build.asDeclaration k).asRead = Build.asDeclaration k.asRead := by
    rintro ⟨place, form⟩
    cases form <;> simp [Build.asDeclaration, Node.asRead_mk, Node.plain, Form.map, Form.asRead]
  rw [unplaced_kept, asRead_kept, same]

end Declarations

/-- An expression and a semicolon. -/
theorem denotes_expressionStatement (plain : n.declares = false)
    (own : Denotes (.nonterminal (.chain false .assign)) text (IsNode n)) :
    Denotes (.nonterminal .statement) (text ++ ";") (IsNode ⟨place, .expressionStatement n⟩) := by
  have row : Fills _ _ _ := .keep own (.mark (k := .semicolon) (by decide) [])
    (.mark (k := .semicolon) (w := ";") (by decide) .nil)
  rw [List.append_nil] at row
  refine .pass (i := 9) (by decide) rfl rfl
    (.production (i := 0) (by decide) rfl rfl (own.opened.append _) row ?_)
  rintro parts ⟨_, _, ⟨m, rfl, same⟩, rfl, rfl⟩
  have kept := (Node.declares_of_asRead same).trans plain
  refine ⟨[.node ⟨m.place, .expressionStatement m⟩], ?_, .intro ?_⟩
  · rw [← asStatement_eq kept]
    rfl
  · simp [Form.map, Form.asRead, same]


/-- A function or a class with a name stands without a semicolon, so nothing behind it may carry it
on as an expression. -/
theorem denotes_declaration (named : n.declares = true)
    (own : Denotes (.nonterminal (.chain false .assign)) text (IsNode n)) :
    DenotesBefore (· ∉ carryingOpeners) (.nonterminal .statement) text
      (IsNode (Build.asDeclaration n)) := by
  refine .pass (i := 9) (by decide) rfl (fun _ _ => List.not_mem_nil) (.production (i := 1) (by decide)
    rfl (fun _ allowed => allowed) own.opened (.last own fun _ _ => trivial) ?_)
  rintro _ ⟨m, rfl, same⟩
  have declares := (Node.declares_of_asRead same).trans named
  refine ⟨_, build_of_apply rfl, Build.asDeclaration m, ?_, asDeclaration_of_asRead same⟩
  rw [← asStatement_of_declares declares]

section Simple

/-- A word, an expression and a semicolon. -/
theorem denotes_worded (form : Node → Form Node) {a : Nonterminal} {i j : Nat} {k : Terminal}
    {w : Text} {action : Action} (mem : (k, w) ∈ Terminal.spellings) (isName : IsName w)
    (outer : j ∈ core .statement ∧ Nonterminal.statement.productions[j]? =
      some ⟨.statement, [.keep (.nonterminal a)], none⟩)
    (inner : i ∈ core a ∧ a.productions[i]? = some
      ⟨a, [.skip k, .keep (.nonterminal .expression), .skip .semicolon], some action⟩)
    (open_ : barred a i = [])
    (apply_eq : ∀ m : Node, Build.apply action [.node m] = .ok (.node ⟨m.place, form m⟩))
    (alike : ∀ m : Node, m.unplaced = n.asRead →
      (form m).map Node.unplaced = ((form n).map Node.asRead).asRead)
    (own : Denotes (.nonterminal .expression) text (IsNode n)) :
    Denotes (.nonterminal .statement) (w ++ (" " ++ (text ++ ";"))) (IsNode ⟨place, form n⟩) := by
  have row : Fills _ _ _ := .spaced mem (.keep own (.mark (k := .semicolon) (by decide) [])
    (.mark (k := .semicolon) (w := ";") (by decide) .nil))
  rw [List.append_nil] at row
  have opened := (Phrase.fixedWord mem isName).opened.append (" " ++ (text ++ ";"))
  refine .pass outer.1 outer.2 rfl (.production inner.1 inner.2 open_ opened row ?_)
  rintro _ ⟨_, _, ⟨m, rfl, same⟩, rfl, rfl⟩
  exact ⟨_, build_of_apply (apply_eq m), .intro (alike m same)⟩

theorem denotes_return (own : Denotes (.nonterminal .expression) text (IsNode n)) :
    Denotes (.nonterminal .statement) ("return " ++ text ++ ";")
      (IsNode ⟨place, .returnStatement (some n)⟩) := by
  have statement : Denotes (.nonterminal .statement) ("return" ++ (" " ++ (text ++ ";")))
      (IsNode ⟨place, .returnStatement (some n)⟩) :=
    denotes_worded (fun m => .returnStatement (some m)) (i := 0) (j := 5) (k := .returnWord)
      (by decide) (by decide) ⟨by decide, rfl⟩ ⟨by decide, rfl⟩ rfl (fun _ => rfl)
      (fun m same => by simp [Form.map, Form.asRead, same]) own
  simpa [Text.ofString] using statement

theorem denotes_throw (own : Denotes (.nonterminal .expression) text (IsNode n)) :
    Denotes (.nonterminal .statement) ("throw " ++ text ++ ";")
      (IsNode ⟨place, .throwStatement n⟩) := by
  have statement : Denotes (.nonterminal .statement) ("throw" ++ (" " ++ (text ++ ";")))
      (IsNode ⟨place, .throwStatement n⟩) :=
    denotes_worded .throwStatement (i := 0) (j := 6) (k := .throwWord)
      (by decide) (by decide) ⟨by decide, rfl⟩ ⟨by decide, rfl⟩ rfl (fun _ => rfl)
      (fun m same => by simp [Form.map, Form.asRead, same]) own
  simpa [Text.ofString] using statement

theorem denotes_bareReturn :
    Denotes (.nonterminal .statement) "return;" (IsNode ⟨place, .returnStatement none⟩) := by
  have row : Fills _ _ _ := .word (k := .returnWord) (w := "return") (by decide) (by decide)
    (.mark (k := .semicolon) (by decide) [])
    (.absent (.mark (k := .semicolon) (w := ";") (by decide) .nil))
  have opened : Opened (Text.ofString "return;") := ⟨_, _, rfl, by decide, by decide⟩
  refine .pass (i := 5) (by decide) rfl rfl (.production (i := 2) (by decide) rfl rfl opened row ?_)
  rintro _ ⟨_, rfl, rfl⟩
  exact ⟨_, build_of_apply rfl, .intro rfl⟩

theorem encloses_block : Encloses .block .statements .block := by
  constructor <;> decide

theorem repeats_statements : Repeats .statements .statement := by
  constructor <;> decide

/-- Without an `else`, what may come behind the consequent comes behind the whole, but for an
`else`. -/
theorem denotes_if {test consequent : Node} {Own : Terminal → Prop}
    (own : Denotes (.nonterminal .expression) first (IsNode test))
    (other : DenotesBefore Own (.nonterminal .statement) second (IsNode consequent))
    (allowed : ∀ k, Next k → k ≠ .elseWord ∧ Own k) :
    DenotesBefore Next (.nonterminal .statement) ("if (" ++ first ++ ") " ++ second)
      (IsNode ⟨place, .ifStatement test consequent none⟩) := by
  have row : FillsBefore Next _ _ _ := .spaced (k := .ifWord) (w := "if") (by decide)
    (.mark (k := .parenOpen) (w := "(") (by decide) (.keep own (.mark (k := .parenClose) (by decide) _)
      (.mark (k := .parenClose) (w := ")") (by decide) (.gap blank_space
        (.lastAbsent other fun k next => (allowed k next).2)))))
  have text_eq : "if (" ++ first ++ ") " ++ second =
      Text.ofString "if" ++ (" " ++ ("(" ++ (first ++ (")" ++ (" " ++ second))))) := by
    simp [Text.ofString]
  have opened : Opened ("if (" ++ first ++ ") " ++ second) := ⟨_, _, rfl, by decide, by decide⟩
  rw [text_eq] at opened ⊢
  refine .pass (i := 7) (by decide) rfl (fun _ _ => List.not_mem_nil) (.production (i := 1) (by decide)
    rfl ?_ opened row ?_)
  · intro k next mem
    exact (allowed k next).1 (List.mem_singleton.mp mem)
  · rintro _ ⟨_, _, ⟨m₁, rfl, same₁⟩, ⟨_, ⟨m₂, rfl, same₂⟩, rfl⟩, rfl⟩
    exact ⟨_, build_of_apply rfl, .intro (by simp [Form.map, Form.asRead, same₁, same₂])⟩

/-- An `else` may only follow a consequent that does not take it for itself. -/
theorem denotes_ifElse {test consequent alternate : Node} {gap : Text} {Own Last : Terminal → Prop}
    (blank : ∀ c ∈ gap, Scan.isSpace c = true) (some : gap ≠ [])
    (own : Denotes (.nonterminal .expression) first (IsNode test))
    (other : DenotesBefore Own (.nonterminal .statement) second (IsNode consequent))
    (allowed : Own .elseWord)
    (last : DenotesBefore Last (.nonterminal .statement) third (IsNode alternate)) :
    DenotesBefore Last (.nonterminal .statement)
      ("if (" ++ first ++ ") " ++ second ++ gap ++ "else " ++ third)
      (IsNode ⟨place, .ifStatement test consequent (.some alternate)⟩) := by
  have detached : Detached (gap ++ ("else" ++ (" " ++ third))) := by
    obtain ⟨c, rest, rfl⟩ := List.exists_cons_of_ne_nil some
    exact .of_closes (closes_of_isSpace (blank c List.mem_cons_self))
  have row : FillsBefore Last _ _ _ := .spaced (k := .ifWord) (w := "if") (by decide)
    (.mark (k := .parenOpen) (w := "(") (by decide) (.keep own (.mark (k := .parenClose) (by decide) _)
      (.mark (k := .parenClose) (w := ")") (by decide) (.gap blank_space
        (.keepBefore other allowed detached (.gap blank (.spaced (k := .elseWord) (w := "else")
          (by decide) (.last last fun _ h => h))))))))
  have text_eq : "if (" ++ first ++ ") " ++ second ++ gap ++ "else " ++ third =
      Text.ofString "if" ++ (" " ++ ("(" ++ (first ++ (")" ++ (" " ++ (second ++ (gap ++
        ("else" ++ (" " ++ third))))))))) := by
    simp [Text.ofString]
  have opened : Opened ("if (" ++ first ++ ") " ++ second ++ gap ++ "else " ++ third) :=
    ⟨_, _, rfl, by decide, by decide⟩
  rw [text_eq] at opened ⊢
  refine .pass (i := 7) (by decide) rfl (fun _ _ => List.not_mem_nil) (.production (i := 0) (by decide)
    rfl (fun _ _ => List.not_mem_nil) opened row ?_)
  rintro _ ⟨_, _, ⟨m₁, rfl, same₁⟩, ⟨_, _, ⟨m₂, rfl, same₂⟩, ⟨m₃, rfl, same₃⟩, rfl⟩, rfl⟩
  exact ⟨_, build_of_apply rfl, .intro (by simp [Form.map, Form.asRead, same₁, same₂, same₃])⟩

end Simple

section Variables

variable {target : Node} {init : Option Node} {declarators : List Node} {texts : List Text}

theorem denotes_bareDeclarator (own : Denotes (.nonterminal .pattern) text (IsNode target)) :
    Denotes (.nonterminal .declarator) text (IsNode ⟨place, .declarator target none⟩) := by
  refine .production (i := 1) (by decide) rfl rfl own.opened
    (.lastAbsent own fun _ h => h) ?_
  rintro _ ⟨_, ⟨m, rfl, same⟩, rfl⟩
  exact ⟨_, build_of_apply rfl, .intro (by simp [Form.map, Form.asRead, same])⟩

theorem denotes_declarator (own : Denotes (.nonterminal .pattern) first (IsNode target))
    (other : Denotes (.nonterminal .expression) second (IsNode n)) :
    Denotes (.nonterminal .declarator) (first ++ " = " ++ second)
      (IsNode ⟨place, .declarator target (some n)⟩) := by
  have row : Fills _ _ _ := .keep own (.space _) (.gap blank_space
    (.spaced (k := .assign) (w := "=") (by decide) (.last other fun _ h => h)))
  have text_eq : first ++ " = " ++ second = first ++ (" " ++ ("=" ++ (" " ++ second))) := by
    simp [Text.ofString]
  rw [text_eq]
  refine .production (i := 0) (by decide) rfl rfl (own.opened.append _) row ?_
  rintro _ ⟨_, _, ⟨m₁, rfl, same₁⟩, ⟨m₂, rfl, same₂⟩, rfl⟩
  exact ⟨_, build_of_apply rfl, .intro (by simp [Form.map, Form.asRead, same₁, same₂])⟩

/-- The words that declare variables. -/
def variableKinds : List Text := ["const", "let", "var"]

theorem variableKind_spec : ∀ kind ∈ variableKinds, IsName kind ∧ ∃ e ∈ Terminal.spellings,
    e.2 = kind ∧ ∃ i ∈ core .variableKind, Nonterminal.variableKind.productions[i]? =
      some ⟨.variableKind, [.keep (.terminal e.1)], none⟩ := by
  decide +kernel

theorem separates_declarators : Separates .moreDeclarators .declarator := by
  constructor <;> decide

theorem denotes_variableList {kind : Text} (known : kind ∈ variableKinds) (some : declarators ≠ [])
    (own : DenoteItems .declarator declarators texts) :
    Denotes (.nonterminal .variableList) (kind ++ " " ++ Layout.commas texts)
      (IsNode ⟨place, .variableDeclaration kind declarators⟩) := by
  obtain ⟨isName, ⟨k, _⟩, spelled, rfl, i, mem, found⟩ := variableKind_spec kind known
  rename_i w
  have kindOf : Means (.nonterminal .variableKind) [⟨k, w⟩] (IsToken ⟨k, w⟩) :=
    .pass mem found rfl (.token ⟨k, w⟩ fun reserved => ne_name_of_mem_spellings spelled reserved.1)
  have items : Fills _ _ _ := .itemsFirst separates_declarators (by decide) own .nil .nil
  have row : Fills _ _ _ := .keepSpaced kindOf spelled items
  rw [List.append_nil, List.append_nil, ← List.append_assoc] at row
  have found : ∃ i ∈ core .variableList, barred .variableList i = [] ∧
      Nonterminal.variableList.productions[i]? = Option.some ⟨.variableList,
        .keep (.nonterminal .variableKind) :: itemSlots .declarator .moreDeclarators declarators.length,
        Option.some .variableList⟩ := by
    match declarators with
    | [_] => exact ⟨1, by decide, rfl, rfl⟩
    | _ :: _ :: _ => exact ⟨0, by decide, rfl, rfl⟩
  obtain ⟨j, inside, open_, found⟩ := found
  have opened := ((Phrase.fixedWord spelled isName).opened.append " ").append (Layout.commas texts)
  refine .production inside found open_ opened row ?_
  rintro _ ⟨_, _, ⟨t, word, rfl⟩, ⟨value, _, nodes, rfl, rfl⟩, rfl⟩
  obtain rfl : t.text = w := congrArg Word.text word
  rw [List.append_nil]
  exact ⟨_, build_of_apply rfl, .intro (by simp [Form.map, Form.asRead, nodes.compact])⟩

/-- Variables and a semicolon. -/
theorem denotes_variables (own : Denotes (.nonterminal .variableList) text (IsNode n)) :
    Denotes (.nonterminal .statement) (text ++ ";") (IsNode n) := by
  have row : Fills _ _ _ := .keep own (.mark (k := .semicolon) (by decide) [])
    (.mark (k := .semicolon) (w := ";") (by decide) .nil)
  rw [List.append_nil] at row
  refine .production (i := 3) (by decide) rfl rfl (own.opened.append _) row ?_
  rintro _ ⟨value, _, node, rfl, rfl⟩
  exact ⟨value, by rw [List.append_nil]; rfl, node⟩

end Variables

section Modules

variable {namePlace otherPlace : Place} {name other source : Text} {specifiers named : List Node}
variable {texts : List Text} {item : Nonterminal} {i j : Nat}

/-- A name, and the name that it goes by elsewhere unless that is the same. -/
theorem denotes_renaming (form : Node → Node → Form Node) {action : Action}
    (named : .nonterminal item ∈ namedSymbols)
    (both : i ∈ core item ∧ item.productions[i]? = some
      ⟨item, [.keep (.terminal .name), .skip .asWord, .keep (.terminal .name)], some action⟩)
    (single : j ∈ core item ∧ item.productions[j]? = some
      ⟨item, [.keep (.terminal .name), .absent], some action⟩)
    (open_ : barred item i = [] ∧ barred item j = [])
    (apply_eq : ∀ parts, Build.apply action parts =
      Build.onRenaming (fun m₁ m₂ => .node ⟨m₁.place, form m₁ m₂⟩) parts)
    (alike : ∀ m₁ m₂ : Node, m₁.unplaced = Node.asRead ⟨namePlace, .identifier name⟩ →
      m₂.unplaced = Node.asRead ⟨otherPlace, .identifier other⟩ → (form m₁ m₂).map Node.unplaced =
        ((form ⟨namePlace, .identifier name⟩ ⟨otherPlace, .identifier other⟩).map
          Node.asRead).asRead)
    (isName : IsName name) (isName' : IsName other) :
    DenotesItem item
      ⟨place, form ⟨namePlace, .identifier name⟩ ⟨otherPlace, .identifier other⟩⟩
      (Layout.renamed name other) := by
  have isIdentifier (t : Token) {w : Text} {at_ : Place} (same : t.word = ⟨.name, w⟩) :
      (Build.identifier t).unplaced = Node.asRead ⟨at_, .identifier w⟩ := by
    obtain rfl : t.text = w := congrArg Word.text same
    exact Node.unplaced_eq_asRead rfl
  rw [Layout.renamed]
  split
  · rename_i same
    subst same
    have row : Fills _ _ _ := .absent .nil
    have all : DenotesNamed (.nonterminal item) (name ++ []) (IsNode ⟨place,
        form ⟨namePlace, .identifier name⟩ ⟨otherPlace, .identifier name⟩⟩) := by
      refine .production single.1 single.2 open_.2 (.name isName) .nil row ?_
      rintro _ _ ⟨t, word, rfl⟩ ⟨_, rfl, rfl⟩
      have built : Build.apply action [.token t, .absent] = .ok (.node
          ⟨t.place, form (Build.identifier t) (.plain (.identifier t.text))⟩) := by
        rw [apply_eq]
        rfl
      refine ⟨_, build_of_apply built, .intro (alike _ _ (isIdentifier t word) ?_)⟩
      obtain rfl : t.text = name := congrArg Word.text word
      exact Node.unplaced_eq_asRead rfl
    rw [List.append_nil] at all
    exact .of_named named all
  · have row : Fills _ _ _ := .gap blank_space (.renamed isName' (.token ⟨.name, other⟩))
    have text_eq : name ++ " as " ++ other = name ++ (" " ++ ("as " ++ other)) := by
      simp [Text.ofString]
    rw [text_eq]
    refine .of_named named (.production both.1 both.2 open_.1 (.name isName) (.space _) row ?_)
    rintro _ _ ⟨t, word, rfl⟩ ⟨u, word', rfl⟩
    have built : Build.apply action [.token t, .token u] = .ok (.node
        ⟨t.place, form (Build.identifier t) (Build.identifier u)⟩) := by
      rw [apply_eq]
      rfl
    exact ⟨_, build_of_apply built, .intro (alike _ _ (isIdentifier t word) (isIdentifier u word'))⟩

theorem denotes_importSpecifier (isName : IsName name) (isName' : IsName other) :
    DenotesItem .importSpecifier
      ⟨place, .importSpecifier ⟨namePlace, .identifier name⟩ ⟨otherPlace, .identifier other⟩⟩
      (Layout.renamed name other) :=
  denotes_renaming .importSpecifier (i := 0) (j := 1) (by decide) ⟨by decide, rfl⟩ ⟨by decide, rfl⟩
    ⟨rfl, rfl⟩ (fun _ => rfl) (fun _ _ same same' => by simp [Form.map, Form.asRead, same, same'])
    isName isName'

theorem denotes_exportSpecifier (isName : IsName name) (isName' : IsName other) :
    DenotesItem .exportSpecifier
      ⟨place, .exportSpecifier ⟨namePlace, .identifier name⟩ ⟨otherPlace, .identifier other⟩⟩
      (Layout.renamed name other) :=
  denotes_renaming .exportSpecifier (i := 0) (j := 1) (by decide) ⟨by decide, rfl⟩ ⟨by decide, rfl⟩
    ⟨rfl, rfl⟩ (fun _ => rfl) (fun _ _ same same' => by simp [Form.map, Form.asRead, same, same'])
    isName isName'

theorem denotes_importDefault (free : IsFreeName name) :
    Denotes (.nonterminal .importDefault) name
      (IsList [⟨place, .importDefault ⟨namePlace, .identifier name⟩⟩]) := by
  have own : Denotes (.terminal .name) name (IsToken ⟨.name, name⟩) := .name free
  refine .production (i := 0) (by decide) rfl rfl own.opened (.last own fun _ h => h) ?_
  rintro _ ⟨t, word, rfl⟩
  obtain rfl : t.text = name := congrArg Word.text word
  refine ⟨_, build_of_apply rfl, _, rfl, ?_⟩
  simp [Build.identifier, Node.unplaced_mk, Node.asRead_mk, Form.map, Form.asRead]

theorem denotes_importNamespace (isName : IsName name) :
    Denotes (.nonterminal .importNamespace) ("* as " ++ name)
      (IsList [⟨place, .importNamespace ⟨namePlace, .identifier name⟩⟩]) := by
  have row : Fills _ _ _ := .spaced (k := .star) (w := "*") (by decide)
    (.renamed isName (.token ⟨.name, name⟩))
  have text_eq : "* as " ++ name = Text.ofString "*" ++ (" " ++ ("as " ++ name)) := by
    simp [Text.ofString]
  have opened : Opened ("* as " ++ name) := ⟨_, _, rfl, by decide, by decide⟩
  rw [text_eq] at opened ⊢
  refine .production (i := 0) (by decide) rfl rfl opened row ?_
  rintro _ ⟨t, word, rfl⟩
  obtain rfl : t.text = name := congrArg Word.text word
  refine ⟨_, build_of_apply rfl, _, rfl, ?_⟩
  simp [Build.identifier, Node.unplaced_mk, Node.asRead_mk, Form.map, Form.asRead]

theorem bracketed_importNamed :
    Bracketed .importNamed .importSpecifier .moreImports .braceOpen .braceClose .nodes := by
  constructor
  · constructor <;> decide
  · decide

theorem denotes_importNamed (own : DenoteItems .importSpecifier named texts) :
    Denotes (.nonterminal .importNamed) (bracesText texts) (IsList named) :=
  denotes_braces bracketed_importNamed own fun _ nodes => ⟨_, rfl, _, rfl, nodes.compact⟩

/-- An import of one kind. -/
theorem denotes_importClause {a : Nonterminal} (mem : i ∈ core .importClause)
    (found : Nonterminal.importClause.productions[i]? =
      some ⟨.importClause, [.keep (.nonterminal a)], some .importClause⟩)
    (own : Denotes (.nonterminal a) text (IsList specifiers)) :
    Denotes (.nonterminal .importClause) text (IsList specifiers) := by
  refine .production mem found rfl own.opened (.last own fun _ h => h) ?_
  rintro _ ⟨ms, rfl, same⟩
  exact ⟨_, build_of_apply rfl, ms, by simp [Part.list?], same⟩

/-- A default import and imports of another kind. -/
theorem denotes_importClauses {a : Nonterminal} (mem : i ∈ core .importClause)
    (found : Nonterminal.importClause.productions[i]? = some ⟨.importClause,
      [.keep (.nonterminal .importDefault), .skip .comma, .keep (.nonterminal a)],
      some .importClause⟩)
    (own : Denotes (.nonterminal .importDefault) first (IsList specifiers))
    (other : Denotes (.nonterminal a) second (IsList named)) :
    Denotes (.nonterminal .importClause) (first ++ ", " ++ second) (IsList (specifiers ++ named)) := by
  have row : Fills _ _ _ := .keep own (.mark (k := .comma) (by decide) _)
    (.mark (k := .comma) (w := ",") (by decide) (.gap blank_space (.last other fun _ h => h)))
  have text_eq : first ++ ", " ++ second = first ++ ("," ++ (" " ++ second)) := by
    simp [Text.ofString]
  rw [text_eq]
  refine .production mem found rfl (own.opened.append _) row ?_
  rintro _ ⟨_, _, ⟨ms, rfl, same⟩, ⟨ns, rfl, same'⟩, rfl⟩
  exact ⟨_, build_of_apply rfl, ms ++ ns, by simp [Part.list?], by simp [same, same']⟩

theorem denotes_import {sourcePlace : Place} {value : Text} {spelling : Option Text}
    (own : Denotes (.nonterminal .importClause) first (IsList specifiers))
    (isToken : Scan.IsStringToken source) (read : Text.unescape source = .ok value)
    (kept : source = spelling.getD value.quote) :
    Denotes (.nonterminal .statement) ("import " ++ first ++ " from " ++ source ++ ";")
      (IsNode ⟨place, .importDeclaration specifiers ⟨sourcePlace, .string value spelling⟩⟩) := by
  have row : Fills _ _ _ := .spaced (k := .importWord) (w := "import") (by decide)
    (.keep own (.space _) (.gap blank_space (.spaced (k := .fromWord) (w := "from") (by decide)
      (.keep (denotes_stringToken isToken) (.mark (k := .semicolon) (by decide) [])
        (.mark (k := .semicolon) (w := ";") (by decide) .nil)))))
  rw [List.append_nil] at row
  have text_eq : "import " ++ first ++ " from " ++ source ++ ";" = Text.ofString "import" ++
      (" " ++ (first ++ (" " ++ ("from" ++ (" " ++ (source ++ ";")))))) := by
    simp [Text.ofString]
  have opened : Opened ("import " ++ first ++ " from " ++ source ++ ";") :=
    ⟨_, _, rfl, by decide, by decide⟩
  rw [text_eq] at opened ⊢
  refine .pass (i := 0) (by decide) rfl rfl (.production (i := 0) (by decide) rfl rfl opened row ?_)
  rintro _ ⟨_, _, ⟨ms, rfl, same⟩, ⟨_, _, ⟨t, word, rfl⟩, rfl, rfl⟩, rfl⟩
  obtain ⟨m, built, alike⟩ : ∃ m, Build.string t = .ok m ∧
    m.unplaced = Node.asRead ⟨sourcePlace, .string value spelling⟩ := string_of_token read kept t word
  have made : Build.apply .importFrom [.nodes ms, .token t] =
      .ok (.node ⟨Located.place (ms.map .node), .importDeclaration ms m⟩) := by
    simp [Build.apply, Build.importFrom, built, Except.map]
  exact ⟨_, build_of_apply made, .intro (by simp [Form.map, Form.asRead, same, alike])⟩

theorem denotes_bareImport {sourcePlace : Place} {value : Text} {spelling : Option Text}
    (isToken : Scan.IsStringToken source) (read : Text.unescape source = .ok value)
    (kept : source = spelling.getD value.quote) :
    Denotes (.nonterminal .statement) ("import " ++ source ++ ";")
      (IsNode ⟨place, .importDeclaration [] ⟨sourcePlace, .string value spelling⟩⟩) := by
  have row : Fills _ _ _ := .spaced (k := .importWord) (w := "import") (by decide)
    (.keep (denotes_stringToken isToken) (.mark (k := .semicolon) (by decide) [])
      (.mark (k := .semicolon) (w := ";") (by decide) .nil))
  rw [List.append_nil] at row
  have text_eq : "import " ++ source ++ ";" = Text.ofString "import" ++ (" " ++ (source ++ ";")) := by
    simp [Text.ofString]
  have opened : Opened ("import " ++ source ++ ";") := ⟨_, _, rfl, by decide, by decide⟩
  rw [text_eq] at opened ⊢
  refine .pass (i := 0) (by decide) rfl rfl (.production (i := 2) (by decide) rfl rfl opened row ?_)
  rintro _ ⟨_, _, ⟨t, word, rfl⟩, rfl, rfl⟩
  obtain ⟨m, built, alike⟩ : ∃ m, Build.string t = .ok m ∧
    m.unplaced = Node.asRead ⟨sourcePlace, .string value spelling⟩ := string_of_token read kept t word
  have made : Build.apply .importBare [.token t] =
      .ok (.node ⟨m.place, .importDeclaration [] m⟩) := by
    simp [Build.apply, Build.onToken, built, Except.map]
  exact ⟨_, build_of_apply made, .intro (by simp [Form.map, Form.asRead, alike])⟩

/-- Names that are exported stand between braces. -/
theorem denotes_exportNames (own : DenoteItems .exportSpecifier specifiers texts) :
    Denotes (.nonterminal .statement) ("export " ++ bracesText texts ++ ";")
      (IsNode ⟨place, .exportNamed none specifiers⟩) := by
  have separates : Separates .moreExports .exportSpecifier := by constructor <;> decide
  have found : ∃ i ∈ core .exportDeclaration, barred .exportDeclaration i = [] ∧
      Nonterminal.exportDeclaration.productions[i]? = some ⟨.exportDeclaration,
        .skip .exportWord :: .skip .braceOpen ::
          (itemSlots .exportSpecifier .moreExports specifiers.length ++
            [.skip .braceClose, .skip .semicolon]), some .exportSpecifiers⟩ := by
    match specifiers with
    | [] => exact ⟨14, by decide, rfl, rfl⟩
    | [_] => exact ⟨12, by decide, rfl, rfl⟩
    | _ :: _ :: _ => exact ⟨8, by decide, rfl, rfl⟩
  have row : Fills _ _ _ := .spaced (k := .exportWord) (w := "export") (by decide)
    (.braced separates own (.mark (k := .semicolon) (w := ";") (by decide) .nil))
  rw [List.append_nil] at row
  have text_eq : "export " ++ bracesText texts ++ ";" =
      Text.ofString "export" ++ (" " ++ (bracesText texts ++ ";")) := by
    simp [Text.ofString]
  have opened : Opened ("export " ++ bracesText texts ++ ";") := ⟨_, _, rfl, by decide, by decide⟩
  rw [text_eq] at opened ⊢
  obtain ⟨i, mem, open_, found⟩ := found
  refine .pass (i := 1) (by decide) rfl rfl (.production mem found open_ opened row ?_)
  rintro _ ⟨value, _, nodes, rfl, rfl⟩
  rw [List.append_nil]
  exact ⟨_, build_of_apply rfl, .intro (by simp [Form.map, Form.asRead, nodes.compact])⟩

/-- An expression that is exported, and a semicolon. -/
theorem denotes_exportDefault (own : Denotes (.nonterminal .expression) text (IsNode n)) :
    Denotes (.nonterminal .statement) ("export default " ++ text ++ ";")
      (IsNode ⟨place, .exportDefault (Build.asDeclaration n)⟩) := by
  have row : Fills _ _ _ := .spaced (k := .exportWord) (w := "export") (by decide)
    (.spaced (k := .defaultWord) (w := "default") (by decide)
      (.keep own (.mark (k := .semicolon) (by decide) [])
        (.mark (k := .semicolon) (w := ";") (by decide) .nil)))
  rw [List.append_nil] at row
  have text_eq : "export default " ++ text ++ ";" =
      Text.ofString "export" ++ (" " ++ ("default" ++ (" " ++ (text ++ ";")))) := by
    simp [Text.ofString]
  have opened : Opened ("export default " ++ text ++ ";") := ⟨_, _, rfl, by decide, by decide⟩
  rw [text_eq] at opened ⊢
  refine .pass (i := 1) (by decide) rfl rfl (.production (i := 0) (by decide) rfl rfl opened row ?_)
  rintro _ ⟨_, _, ⟨m, rfl, same⟩, rfl, rfl⟩
  exact ⟨_, build_of_apply rfl, .intro (by
    simp [Form.map, Form.asRead, asDeclaration_of_asRead same])⟩

/-- A declaration that is exported as the default has no semicolon either. -/
theorem denotes_defaultDeclaration (own : Denotes (.nonterminal .expression) text (IsNode n)) :
    DenotesBefore (· ∉ carryingOpeners) (.nonterminal .statement) ("export default " ++ text)
      (IsNode ⟨place, .exportDefault (Build.asDeclaration n)⟩) := by
  have row : FillsBefore (· ∉ carryingOpeners) _ _ _ :=
    .spaced (k := .exportWord) (w := "export") (by decide)
      (.spaced (k := .defaultWord) (w := "default") (by decide) (.last own fun _ _ => trivial))
  have text_eq : "export default " ++ text =
      Text.ofString "export" ++ (" " ++ ("default" ++ (" " ++ text))) := by
    simp [Text.ofString]
  have opened : Opened ("export default " ++ text) := ⟨_, _, rfl, by decide, by decide⟩
  rw [text_eq] at opened ⊢
  refine .pass (i := 1) (by decide) rfl (fun _ _ => List.not_mem_nil) (.production (i := 1) (by decide)
    rfl (fun _ allowed => allowed) opened row ?_)
  rintro _ ⟨m, rfl, same⟩
  exact ⟨_, build_of_apply rfl, .intro (by
    simp [Form.map, Form.asRead, asDeclaration_of_asRead same])⟩

theorem denotes_exportVariables (own : Denotes (.nonterminal .variableList) text (IsNode n))
    (kept : Build.asDeclaration n = n) :
    Denotes (.nonterminal .statement) ("export " ++ (text ++ ";"))
      (IsNode ⟨place, .exportNamed (some n) []⟩) := by
  have row : Fills _ _ _ := .spaced (k := .exportWord) (w := "export") (by decide)
    (.keep own (.mark (k := .semicolon) (by decide) [])
      (.mark (k := .semicolon) (w := ";") (by decide) .nil))
  rw [List.append_nil] at row
  have text_eq : "export " ++ (text ++ ";") = Text.ofString "export" ++ (" " ++ (text ++ ";")) := by
    simp [Text.ofString]
  have opened : Opened ("export " ++ (text ++ ";")) := ⟨_, _, rfl, by decide, by decide⟩
  rw [text_eq] at opened ⊢
  refine .pass (i := 1) (by decide) rfl rfl (.production (i := 2) (by decide) rfl rfl opened row ?_)
  rintro _ ⟨_, _, ⟨m, rfl, same⟩, rfl, rfl⟩
  exact ⟨_, build_of_apply rfl, .intro (by
    simp [Form.map, Form.asRead, asDeclaration_of_asRead same, kept])⟩

/-- A function or a class that is exported by its name. -/
theorem denotes_exportDeclaration {a : Nonterminal} (mem : i ∈ core .exportDeclaration)
    (found : Nonterminal.exportDeclaration.productions[i]? = some ⟨.exportDeclaration,
      [.skip .exportWord, .keep (.nonterminal a)], some .exportNamed⟩)
    (open_ : barred .exportDeclaration i = []) (own : Denotes (.nonterminal a) text (IsNode n)) :
    Denotes (.nonterminal .statement) ("export " ++ text)
      (IsNode ⟨place, .exportNamed (some (Build.asDeclaration n)) []⟩) := by
  have row : Fills _ _ _ := .spaced (k := .exportWord) (w := "export") (by decide)
    (.last own fun _ h => h)
  have text_eq : "export " ++ text = Text.ofString "export" ++ (" " ++ text) := by
    simp [Text.ofString]
  have opened : Opened ("export " ++ text) := ⟨_, _, rfl, by decide, by decide⟩
  rw [text_eq] at opened ⊢
  refine .pass (i := 1) (by decide) rfl rfl (.production mem found open_ opened row ?_)
  rintro _ ⟨m, rfl, same⟩
  exact ⟨_, build_of_apply rfl, .intro (by
    simp [Form.map, Form.asRead, asDeclaration_of_asRead same])⟩

theorem decorated_class {ds : List Node} (own : ds.map Node.unplaced = decorators.map Node.asRead)
    (marks : ∀ n ∈ decorators, Build.isDecorator n = true)
    (same : m.unplaced = Node.asRead ⟨place, .classExpression id superClass body []⟩) :
    ∃ d, Build.decorated? (ds.map .node ++ [.node m]) = some d ∧
      d.unplaced = Node.asRead ⟨place, .classDeclaration id superClass body decorators⟩ := by
  obtain ⟨q, form⟩ := m
  rw [Node.unplaced_mk, Node.asRead_mk, Node.plain, Node.plain, Node.mk.injEq] at same
  cases form <;> simp only [Form.map, Form.asRead, reduceCtorEq, and_false, true_and,
    Form.classExpression.injEq, List.map_eq_nil_iff, List.map_nil] at same
  obtain ⟨same₁, same₂, same₃, rfl⟩ := same
  refine ⟨_, by simp [Build.decorated?, compact_nodes, filter_isDecorator own marks]; rfl, ?_⟩
  rw [Build.decorate]
  refine Node.unplaced_eq_asRead ?_
  simp [Form.map, Form.asRead, own, same₁, same₂, same₃]

/-- A class with decorators, which may be behind words that export it. -/
theorem denotes_decorated {slots : List Slot} {action : Action} {above : List Text}
    (mem : i ∈ core .decoratedDeclaration)
    (found : Nonterminal.decoratedDeclaration.productions[i]? =
      some ⟨.decoratedDeclaration, .keep (.nonterminal .decorators) :: slots, some action⟩)
    (some_ : decorators ≠ []) (own : DenoteDecorators decorators above)
    (marks : ∀ n ∈ decorators, Build.isDecorator n = true) (opened : Opened text)
    (row : Fills slots text (IsNode ⟨place, .classExpression id superClass body []⟩))
    (build : ∀ parts d, Build.decorated? parts = some d →
      d.unplaced = Node.asRead ⟨place, .classDeclaration id superClass body decorators⟩ →
        ∃ part, Build.apply action parts = .ok part ∧ IsNode n [part]) (depth : Nat) :
    Denotes (.nonterminal .statement) (Layout.decorators depth above ++ text) (IsNode n) := by
  have slots_eq : decoratorSlots decorators = [.keep (.nonterminal .decorators)] := by
    simp [decoratorSlots, some_]
  have all := row.decorated own depth
  rw [slots_eq] at all
  refine .pass (i := 2) (by decide) rfl rfl
    (.production mem found rfl (opened.decorated own depth) all ?_)
  rintro _ ⟨_, _, ⟨ds, rfl, same⟩, ⟨m, rfl, alike⟩, rfl⟩
  obtain ⟨d, made, good⟩ := decorated_class same marks alike
  obtain ⟨part, built, isNode⟩ := build _ d made good
  exact ⟨[part], build_of_apply built, isNode⟩

/-- The three ways to declare a class with decorators. -/
theorem denotes_decoratedClass {parent : Option Text} {above : List Text} (some_ : decorators ≠ [])
    (own : DenoteDecorators decorators above)
    (marks : ∀ n ∈ decorators, Build.isDecorator n = true) (free : ∀ n ∈ id, n.IsFree)
    (extension : DenotesOption (.nonterminal (.chain true .callMember)) superClass parent)
    (last : Denotes (.nonterminal .classBody) second (IsNode body)) (depth : Nat) :
    let declaration : Node := ⟨place, .classDeclaration id superClass body decorators⟩
    Denotes (.nonterminal .statement) (Layout.classText depth "" above id parent second)
      (IsNode declaration) ∧
    Denotes (.nonterminal .statement) (Layout.classText depth "export default " above id parent second)
      (IsNode ⟨place, .exportDefault declaration⟩) ∧
    Denotes (.nonterminal .statement) (Layout.classText depth "export " above id parent second)
      (IsNode ⟨place, .exportNamed (some declaration) []⟩) := by
  have bare : Denotes (.nonterminal .classExpression) (bareClassText id parent second)
      (IsNode ⟨place, .classExpression id superClass body []⟩) := denotes_class free extension last
  refine ⟨?_, ?_, ?_⟩
  · rw [classText_eq]
    refine denotes_decorated (i := 0) (by decide) rfl some_ own marks bare.opened
      (.last bare fun _ h => h) ?_ depth
    intro parts d made good
    exact ⟨.node d, by simp [Build.apply, Build.onDecorated, made], d, rfl, good⟩
  · have row : Fills _ _ _ := .spaced (k := .exportWord) (w := "export") (by decide)
      (.spaced (k := .defaultWord) (w := "default") (by decide) (.last bare fun _ h => h))
    have text_eq : Layout.classText depth "export default " above id parent second =
        Layout.decorators depth above ++ (Text.ofString "export" ++ (" " ++ ("default" ++ (" " ++
          bareClassText id parent second)))) := by
      rw [classText_eq]
      simp [Text.ofString]
    rw [text_eq]
    refine denotes_decorated (i := 1) (by decide) rfl some_ own marks
      ⟨_, _, rfl, by decide, by decide⟩ row ?_ depth
    intro parts d made good
    exact ⟨.node ⟨d.place, .exportDefault d⟩, by simp [Build.apply, Build.onDecorated, made],
      .intro (by simp [Form.map, Form.asRead, good])⟩
  · have row : Fills _ _ _ := .spaced (k := .exportWord) (w := "export") (by decide)
      (.last bare fun _ h => h)
    have text_eq : Layout.classText depth "export " above id parent second =
        Layout.decorators depth above ++ (Text.ofString "export" ++ (" " ++
          bareClassText id parent second)) := by
      rw [classText_eq]
      simp [Text.ofString]
    rw [text_eq]
    refine denotes_decorated (i := 2) (by decide) rfl some_ own marks
      ⟨_, _, rfl, by decide, by decide⟩ row ?_ depth
    intro parts d made good
    exact ⟨.node ⟨d.place, .exportNamed (some d) []⟩,
      by simp [Build.apply, Build.onDecorated, made],
      .intro (by simp [Form.map, Form.asRead, good])⟩

end Modules

end Grammar

end Hyperscript
