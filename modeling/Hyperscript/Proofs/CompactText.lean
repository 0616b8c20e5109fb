import Hyperscript.Proofs.CoreMeaning
import Hyperscript.Proofs.Printable

/-!
# The compact text of what is read back

Compact text shows no places and no layout of calls, and a string is read with its spelling. So a
tree and the tree that its text is read back as have the same compact text.
-/
namespace Hyperscript.Node

open Layout

section Shape

variable (n : Node)

theorem asRead_unplaced : n.unplaced.asRead = n.asRead := by
  induction n using Node.induction with
  | step n ih =>
    obtain ⟨place, form⟩ := n
    rw [unplaced_mk, plain, asRead_mk, asRead_mk, Form.map_map]
    exact congrArg (fun form => plain (Form.asRead form)) (Form.map_congr ih)

theorem asRead_asRead : n.asRead.asRead = n.asRead := by
  have settled (form : Form Node) : (form.asRead.map asRead).asRead = (form.map asRead).asRead := by
    cases form <;> rfl
  induction n using Node.induction with
  | step n ih =>
    obtain ⟨place, form⟩ := n
    rw [asRead_mk, plain, asRead_mk, settled, Form.map_map]
    exact congrArg (fun form => plain (Form.asRead form)) (Form.map_congr ih)

@[simp] theorem precedence_asRead : n.asRead.precedence = n.precedence := by
  obtain ⟨place, form⟩ := n
  rw [asRead_mk]
  cases form <;> rfl

@[simp] theorem name?_asRead : n.asRead.name? = n.name? := by
  obtain ⟨place, form⟩ := n
  rw [asRead_mk]
  cases form <;> rfl

@[simp] theorem identifierName?_asRead : n.asRead.identifierName? = n.identifierName? := by
  obtain ⟨place, form⟩ := n
  rw [asRead_mk]
  cases form <;> rfl

@[simp] theorem isAssignmentPattern_asRead :
    n.asRead.isAssignmentPattern = n.isAssignmentPattern := by
  obtain ⟨place, form⟩ := n
  rw [asRead_mk]
  cases form <;> rfl

@[simp] theorem isImportSpecifier_asRead : n.asRead.isImportSpecifier = n.isImportSpecifier := by
  obtain ⟨place, form⟩ := n
  rw [asRead_mk]
  cases form <;> rfl

@[simp] theorem isObject_asRead : n.asRead.isObject = n.isObject := by
  obtain ⟨place, form⟩ := n
  rw [asRead_mk]
  cases form <;> rfl

@[simp] theorem isBlock_asRead : n.asRead.isBlock = n.isBlock := by
  obtain ⟨place, form⟩ := n
  rw [asRead_mk]
  cases form <;> rfl

theorem isMarkup_asRead : n.asRead.isMarkup = n.isMarkup := by
  obtain ⟨place, form⟩ := n
  rw [asRead_mk]
  cases form <;> rfl

@[simp] theorem isCall_asRead : n.asRead.isCall = n.isCall := by
  obtain ⟨place, form⟩ := n
  rw [asRead_mk]
  cases form <;> rfl

@[simp] theorem isDeclarationLike_asRead : n.asRead.isDeclarationLike = n.isDeclarationLike := by
  obtain ⟨place, form⟩ := n
  rw [asRead_mk]
  cases form <;> rfl

@[simp] theorem startsLikeDeclaration_asRead :
    n.asRead.startsLikeDeclaration = n.startsLikeDeclaration := by
  induction n using Node.induction with
  | step n ih =>
    obtain ⟨place, form⟩ := n
    rw [asRead_mk]
    cases form with
    | call | member | binary | logical | assignment | conditional =>
      exact ih _ (by simp [children, Form.children])
    | update operator argument leading =>
      cases leading with
      | true => rfl
      | false => exact ih _ (by simp [children, Form.children])
    | _ => rfl

@[simp] theorem printedName_asRead : n.asRead.printedName = n.printedName := by
  rw [printedName, printedName, name?_asRead]

@[simp] theorem operand_asRead (least : Nat) (t : Text) :
    n.asRead.operand least t = n.operand least t := by
  rw [operand, operand, precedence_asRead]

@[simp] theorem printedKey_asRead (computed : Bool) (t : Text) :
    n.asRead.printedKey computed t = n.printedKey computed t := by
  rw [printedKey, printedKey, operand_asRead]

@[simp] theorem arrowBody_asRead (t : Text) : n.asRead.arrowBody t = n.arrowBody t := by
  rw [arrowBody, arrowBody, isObject_asRead, operand_asRead]

@[simp] theorem optionalName_asRead (id : Option Node) :
    optionalName (id.map asRead) = optionalName id := by
  cases id <;> simp [optionalName]

@[simp] theorem functionText_asRead (id : Option Node) (params : List Text) (body : Text) :
    functionText (id.map asRead) params body = functionText id params body := by
  rw [functionText, functionText, optionalName_asRead]

@[simp] theorem classText_asRead (depth : Nat) (exporting : Text) (above : List Text)
    (id : Option Node) (parent : Option Text) (body : Text) :
    classText depth exporting above (id.map asRead) parent body =
      classText depth exporting above id parent body := by
  simp only [classText, optionalName_asRead]

@[simp] theorem shorthandName?_asRead (key value : Node) :
    shorthandName? key.asRead value.asRead = shorthandName? key value := by
  rw [shorthandName?, shorthandName?, identifierName?_asRead, identifierName?_asRead]

end Shape

section Parts

/-- At every depth, the node is printed compactly as it is read. -/
abbrev PrintsAsRead (n : Node) : Prop := ∀ depth, n.asRead.print false depth = n.print false depth

variable {ns : List Node}

theorem printAll_asRead (each : ∀ n ∈ ns, ∀ depth, n.asRead.print false depth = n.print false depth) (depth least : Nat) :
    printAll false depth least (ns.map asRead) = printAll false depth least ns := by
  induction ns with
  | nil => rfl
  | cons n ns ih =>
    rw [List.map_cons, printAll, printAll, each n List.mem_cons_self,
      ih fun m mem => each m (List.mem_cons_of_mem n mem)]
    simp only [operand_asRead]

theorem printOption_asRead {n : Option Node} (each : ∀ m ∈ n, ∀ depth, m.asRead.print false depth = m.print false depth) (depth least : Nat) :
    printOption false depth least (n.map asRead) = printOption false depth least n := by
  cases n with
  | none => rfl
  | some m =>
    rw [Option.map_some, printOption, printOption, each m rfl]
    simp only [operand_asRead]

/-- An export looks into a declaration of a class or a function. -/
theorem print_exportDefault_asRead {place : Place} {declaration : Node}
    (own : declaration.PrintsAsRead) (below : ∀ c ∈ declaration.children, c.PrintsAsRead) :
    PrintsAsRead ⟨place, .exportDefault declaration⟩ := by
  intro depth
  have expression {p : Place} {d : Node}
      (notClass : ∀ q id superClass body decorators,
        d ≠ ⟨q, .classDeclaration id superClass body decorators⟩)
      (notFunction : ∀ q id params body, d ≠ ⟨q, .functionDeclaration id params body⟩) :
      print false depth ⟨p, .exportDefault d⟩ = (do
        let text ← print false depth d
        let ambiguous := d.startsLikeDeclaration && !d.isDeclarationLike
        let guarded := parenthesize ambiguous (d.operand Precedence.assignment text)
        return "export default " ++ guarded ++ ";") := by
    rw [print]
    · exact fun q id superClass body decorators => notClass q id superClass body decorators
    · exact fun q id params body => notFunction q id params body
  obtain ⟨p, form⟩ := declaration
  simp only [children] at below
  rw [asRead_mk]
  change print false depth ⟨.nowhere, .exportDefault (asRead ⟨p, form⟩)⟩ = _
  cases form <;> dsimp only [Form.children] at below
  case classDeclaration | functionDeclaration =>
    simp +contextual [asRead_mk, plain, Form.map, Form.asRead, print, printAll_asRead,
      printOption_asRead, below]
  all_goals
    rw [expression (by simp [asRead_mk, plain, Form.map, Form.asRead])
      (by simp [asRead_mk, plain, Form.map, Form.asRead]), expression (by simp) (by simp), own]
    simp only [startsLikeDeclaration_asRead, isDeclarationLike_asRead, operand_asRead]

theorem print_exportNamed_asRead {place : Place} {declaration : Node} {specifiers : List Node}
    (own : declaration.PrintsAsRead) (below : ∀ c ∈ declaration.children, c.PrintsAsRead) :
    PrintsAsRead ⟨place, .exportNamed (some declaration) specifiers⟩ := by
  intro depth
  have plainly {p : Place} {d : Node} {ns : List Node}
      (notClass : ∀ q id superClass body decorators,
        d ≠ ⟨q, .classDeclaration id superClass body decorators⟩) :
      print false depth ⟨p, .exportNamed (some d) ns⟩ = (do
        let text ← print false depth d
        return "export " ++ text) := by
    rw [print]
    exact fun q id superClass body decorators => notClass q id superClass body decorators
  obtain ⟨p, form⟩ := declaration
  simp only [children] at below
  rw [asRead_mk]
  change print false depth
    ⟨.nowhere, .exportNamed (some (asRead ⟨p, form⟩)) (specifiers.map asRead)⟩ = _
  cases form <;> dsimp only [Form.children] at below
  case classDeclaration =>
    simp +contextual [asRead_mk, plain, Form.map, Form.asRead, print, printAll_asRead,
      printOption_asRead, below]
  all_goals
    rw [plainly (by simp [asRead_mk, plain, Form.map, Form.asRead]), plainly (by simp), own]

/-- A single name needs no parentheses. -/
theorem print_arrow_asRead {place : Place} {params : List Node} {body : Node}
    (each : ∀ n ∈ params, n.PrintsAsRead) (own : body.PrintsAsRead) :
    PrintsAsRead ⟨place, .arrow params body⟩ := by
  intro depth
  have several {p : Place} {ns : List Node} {b : Node}
      (notName : ∀ q name, ns ≠ [⟨q, .identifier name⟩]) :
      print false depth ⟨p, .arrow ns b⟩ = (do
        let printed ← printAll false depth Precedence.assignment ns
        let text ← print false depth b
        return "(" ++ commas printed ++ ") => " ++ b.arrowBody text) := by
    rw [print]
    exact fun q name => notName q name
  rw [asRead_mk]
  change print false depth ⟨.nowhere, .arrow (params.map asRead) body.asRead⟩ = _
  by_cases single : ∃ q name, params = [⟨q, .identifier name⟩]
  · obtain ⟨q, name, rfl⟩ := single
    change print false depth ⟨.nowhere, .arrow [⟨.nowhere, .identifier name⟩] body.asRead⟩ = _
    rw [print, print, own]
    simp only [arrowBody_asRead]
  · have notName (q : Place) (name : Text) : params ≠ [⟨q, .identifier name⟩] :=
      fun same => single ⟨q, name, same⟩
    have others (q : Place) (name : Text) : params.map asRead ≠ [⟨q, .identifier name⟩] := by
      intro same
      obtain ⟨n, rfl, alike⟩ := List.map_eq_singleton_iff.mp same
      have known : n.identifierName? = some name := by
        rw [← identifierName?_asRead, alike]
        rfl
      obtain ⟨place, form⟩ := n
      cases form <;> cases known
      exact notName _ _ rfl
    rw [several others, several notName, own, printAll_asRead each]
    simp only [arrowBody_asRead]

end Parts

/-- A tree is printed compactly as it is read. -/
theorem print_asRead (n : Node) : n.PrintsAsRead := by
  induction n using Node.walkInduction with
  | step n ih =>
    have below : ∀ c ∈ n.children, c.PrintsAsRead := fun c hc => ih c hc c c.self_mem_walk
    have second : ∀ c ∈ n.children, ∀ d ∈ c.children, d.PrintsAsRead :=
      fun c hc d hd => ih c hc d (mem_walk_of_mem_children hd d.self_mem_walk)
    clear ih
    obtain ⟨place, form⟩ := n
    simp only [children] at below
    cases form <;> dsimp only [Form.children] at below
    case exportDefault declaration =>
      exact print_exportDefault_asRead (below _ (by simp)) (second declaration (by simp [children]))
    case exportNamed declaration specifiers =>
      cases declaration with
      | some declaration =>
        exact print_exportNamed_asRead (below _ (by simp))
          (second declaration (by simp [children]))
      | none =>
        intro depth
        simp only [Option.toList_none, List.nil_append] at below
        rw [asRead_mk]
        simp [plain, Form.map, Form.asRead, print, printAll_asRead below]
    case arrow params body =>
      exact print_arrow_asRead (fun m hm => below m (by simp [hm])) (below body (by simp))
    all_goals
      clear second
      intro depth
      rw [asRead_mk]
    case bare | jsxIdentifier | jsxNamespacedName | jsxMember | jsxEmptyExpression | jsxText
        | jsxExpressionContainer | jsxAttribute | jsxSpreadAttribute | jsxElement =>
      rw [plain, print_unprintable rfl, print_unprintable rfl]
      rfl
    case declarator _ part | returnStatement part | ifStatement _ _ part =>
      cases part <;> simp only [Option.toList_none, Option.toList_some] at below <;>
        simp [plain, Form.map, Form.asRead, print, below]
    case importDeclaration =>
      have kinds : isImportSpecifier ∘ asRead = isImportSpecifier :=
        funext fun n => isImportSpecifier_asRead n
      simp +contextual [plain, Form.map, Form.asRead, print, printAll_asRead, below, kinds]
    -- The other nodes print their parts in order.
    all_goals
      simp +contextual [plain, Form.map, Form.asRead, print, printAll_asRead, printOption_asRead,
        below]

theorem asRead_of_asRead {m n : Node} (same : m.unplaced = n.asRead) : m.asRead = n.asRead := by
  rw [← asRead_unplaced, same, asRead_asRead]

/-- What is read back has the compact text of what was printed. -/
theorem print_of_asRead {m n : Node} (same : m.unplaced = n.asRead) (depth : Nat) :
    m.print false depth = n.print false depth := by
  rw [← print_asRead m, asRead_of_asRead same, print_asRead]

theorem children_asRead (n : Node) : n.asRead.children = n.children.map asRead := by
  obtain ⟨place, form⟩ := n
  rw [asRead_mk, children, children, ← Form.children_map]
  cases form <;> rfl

theorem plain_asRead_iff (n : Node) :
    (∀ k ∈ n.asRead.walk, k.isMarkup = false) ↔ ∀ k ∈ n.walk, k.isMarkup = false := by
  induction n using Node.induction with
  | step n ih =>
    rw [forall_mem_walk_iff, forall_mem_walk_iff, isMarkup_asRead, children_asRead,
      List.forall_mem_map]
    exact and_congr_right fun _ => forall₂_congr ih

/-- Markup is not made by reading what was printed. -/
theorem plain_of_asRead {m n : Node} (same : m.unplaced = n.asRead)
    (plain : ∀ k ∈ n.walk, k.isMarkup = false) : ∀ k ∈ m.walk, k.isMarkup = false := by
  rwa [← plain_asRead_iff, asRead_of_asRead same, plain_asRead_iff]

end Hyperscript.Node
