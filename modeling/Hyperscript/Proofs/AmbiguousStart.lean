import Hyperscript.Proofs.LoweredExpression

/-!
# Statements and bodies that start like something else

A statement that is an expression, the expression of a default export and the body of an arrow
function must not start with a brace, and the first two must not start with a word that opens a
declaration. Statements and exports are guarded by a search along first operands, which finds what
the printed form starts with. The body of an arrow function is only guarded if it is an object
itself, so that it starts with a brace if the object stands at the end of a path of first operands.
-/
namespace Hyperscript

namespace Node

open Layout

theorem assignment_le_precedence (n : Node) : Precedence.assignment ≤ n.precedence := by
  have bound : Precedence.assignment ≤ 4 := by decide
  obtain ⟨place, form⟩ := n
  cases form
  case binary | logical => exact Nat.le_trans bound (Precedence.ofOperator_bounds _).1
  case update operator argument leading => cases leading <;> exact Nat.le_of_ble_eq_true rfl
  all_goals exact Nat.le_of_ble_eq_true rfl

/-- An expression is never looser than an assignment, and so keeps its form where one may stand. -/
theorem operand_assignment (n : Node) (t : Text) : n.operand Precedence.assignment t = t := by
  rw [operand, decide_eq_false (Nat.not_lt.mpr n.assignment_le_precedence)]
  rfl

namespace Leads

variable {n : Node} {pretty : Bool} {depth : Nat} {text : Text}

/-- The guard of a statement stands before everything that opens something. -/
theorem opening_guarded (h : n.Leads fun name => name.opening = .other)
    (printed : n.print pretty depth = .ok text) :
    (parenthesize n.startsLikeDeclaration text).opening = .other := by
  rw [opening_parenthesize, h.opening_print printed]
  cases starts : n.startsLikeDeclaration with
  | true => rfl
  | false => exact opening_of_startsLikeDeclaration starts

/-- The body of an arrow function opens what the expression does, unless it is an object. -/
theorem opening_arrowBody (h : n.Leads fun name => name.opening = .other)
    (printed : n.print pretty depth = .ok text) :
    (n.arrowBody text).opening = if n.isObject then .other else n.opening := by
  rw [arrowBody]
  split
  · exact opening_parenthesize true text
  · rw [operand_assignment, h.opening_print printed]

end Leads

theorem print_expressionStatement {place : Place} {expression : Node} {pretty : Bool} {depth : Nat}
    {text : Text} (printed : print pretty depth ⟨place, .expressionStatement expression⟩ = .ok text) :
    ∃ inner, expression.print pretty depth = .ok inner ∧
      text = parenthesize expression.startsLikeDeclaration inner ++ ";" := by
  rw [print] at printed
  obtain ⟨inner, own, printed⟩ := Grammar.ok_of_bind printed
  cases printed
  exact ⟨inner, own, rfl⟩

/-- A default export of an expression. -/
theorem print_exportDefault {place : Place} {declaration : Node} {pretty : Bool} {depth : Nat}
    {text : Text} (expression : declaration.isDeclaration = false)
    (printed : print pretty depth ⟨place, .exportDefault declaration⟩ = .ok text) :
    ∃ inner, declaration.print pretty depth = .ok inner ∧
      text = "export default " ++ (parenthesize
        (declaration.startsLikeDeclaration && !declaration.isDeclarationLike) inner ++ ";") := by
  rw [print] at printed
  · obtain ⟨inner, own, printed⟩ := Grammar.ok_of_bind printed
    cases printed
    refine ⟨inner, own, ?_⟩
    rw [operand_assignment, List.append_assoc]
  · rintro place id superClass body decorators rfl
    cases expression
  · rintro place id params body rfl
    cases expression

end Node

namespace Lowering

section Programs

variable {source name : Text} {program : Node} {l next : Lowerer} {lowered : Lowered}

theorem breaks_semicolon : Text.Breaks ";" := by decide

/-- If the name of the factory opens nothing, then no statement that is an expression and no
expression of a default export, other than an object, a function or a class, starts with a brace or
with a word that opens a declaration. -/
theorem expressions_open_nothing (parsed : Grammar.parse source name = .ok program)
    (result : l.lower program = .ok (lowered, next)) (pragma : l.config.pragma.opening = .other)
    (pretty : Bool) (depth : Nat) :
    (∀ m ∈ lowered.program.walk, ∀ expression, m.form = .expressionStatement expression →
      ∃ text, m.print pretty depth = .ok text ∧ text.opening = .other) ∧
    ∀ m ∈ lowered.program.walk, ∀ declaration, m.form = .exportDefault declaration →
      declaration.isDeclaration = false → declaration.isDeclarationLike = false →
      ∃ text, m.print pretty depth = .ok ("export default " ++ text) ∧ text.opening = .other := by
  constructor
  · rintro ⟨place, form⟩ hm expression rfl
    obtain ⟨text, printed⟩ := print_lowered parsed result hm pretty depth
    obtain ⟨inner, own, rfl⟩ := Node.print_expressionStatement printed
    have leads := suits_of_lowered parsed result pragma hm
      (by simp [IsNew, IsMade, IsInserted, IsImported]) rfl
    refine ⟨_, printed, ?_⟩
    rw [Text.opening_append breaks_semicolon]
    exact Node.Leads.opening_guarded leads own
  · rintro ⟨place, form⟩ hm declaration rfl expression unlike
    obtain ⟨text, printed⟩ := print_lowered parsed result hm pretty depth
    obtain ⟨inner, own, rfl⟩ := Node.print_exportDefault expression printed
    have suits := suits_of_lowered parsed result pragma hm
      (by simp [IsNew, IsMade, IsInserted, IsImported]) rfl
    have leads := suits.resolve_left (Bool.eq_false_iff.mp expression)
    refine ⟨_, printed, ?_⟩
    rw [unlike, Bool.not_false, Bool.and_true, Text.opening_append breaks_semicolon]
    exact Node.Leads.opening_guarded leads own

/-- A function and an object, each at the start of a longer expression. -/
def guardedSource : Text := "(function () \x7b\x7d)(); export default (\x7b\x7d).a"

theorem expressions_open_nothing_guarded :
    ∃ (program : Node) (lowered : Lowered) (next : Lowerer),
      Grammar.parse guardedSource [] = .ok program ∧
      (Lowerer.new {} { verbose := false }).lower program = .ok (lowered, next) ∧
      (∃ m ∈ lowered.program.walk, ∃ expression, m.form = .expressionStatement expression ∧
        expression.opening = .functionWord ∧
        ∃ text, m.print false 0 = .ok text ∧ text.opening = .other) ∧
      ∃ m ∈ lowered.program.walk, ∃ declaration, m.form = .exportDefault declaration ∧
        declaration.opening = .brace ∧
        ∃ text, m.print false 0 = .ok ("export default " ++ text) ∧ text.opening = .other := by
  let l := Lowerer.new {} { verbose := false }
  let isCall (m : Node) : Bool :=
    match m.form with
    | .expressionStatement expression => expression.opening = .functionWord
    | _ => false
  let isExport (m : Node) : Bool :=
    match m.form with
    | .exportDefault declaration => !declaration.isDeclaration && !declaration.isDeclarationLike &&
      decide (declaration.opening = .brace)
    | _ => false
  have checked : ((Grammar.parse guardedSource []).toOption.any fun program =>
      (l.lower program).toOption.any fun (lowered, _) =>
        lowered.program.walk.any isCall && lowered.program.walk.any isExport) = true := by
    decide +kernel
  obtain ⟨program, parsed, checked⟩ := Grammar.ok_of_any checked
  obtain ⟨⟨lowered, next⟩, result, checked⟩ := Grammar.ok_of_any checked
  rw [Bool.and_eq_true, List.any_eq_true, List.any_eq_true] at checked
  obtain ⟨⟨m, hm, call⟩, k, hk, exported⟩ := checked
  obtain ⟨statements, exports⟩ := expressions_open_nothing parsed result (by decide) false 0
  refine ⟨program, lowered, next, parsed, result, ⟨m, hm, ?_⟩, k, hk, ?_⟩
  · dsimp only [isCall] at call
    split at call
    · rename_i expression form
      exact ⟨expression, form, of_decide_eq_true call, statements m hm expression form⟩
    · cases call
  · dsimp only [isExport] at exported
    split at exported
    · rename_i declaration form
      simp only [Bool.and_eq_true, Bool.not_eq_true', decide_eq_true_eq] at exported
      obtain ⟨⟨expression, unlike⟩, opens⟩ := exported
      exact ⟨declaration, form, opens, exports k hk declaration form expression unlike⟩
    · cases exported

/-- The factory may have any text for its name, and one that starts with a brace starts the statement
of an element. -/
theorem pragma_opens_brace :
    ∃ (program : Node) (lowered : Lowered) (next : Lowerer) (m expression : Node) (text : Text),
      Grammar.parse "<a/>" [] = .ok program ∧
      (Lowerer.new { pragma := "\x7b\x7d.h" } { verbose := false }).lower program =
        .ok (lowered, next) ∧
      Text.ofString "\x7b\x7d.h" ∉ Text.openingWords ∧
      m ∈ lowered.program.walk ∧ m.form = .expressionStatement expression ∧
      m.print false 0 = .ok text ∧ text.opening = .brace := by
  let l := Lowerer.new { pragma := "\x7b\x7d.h" } { verbose := false }
  have checked : ((Grammar.parse "<a/>" []).toOption.any fun program =>
      (l.lower program).toOption.any fun (lowered, _) =>
        lowered.program.walk.any fun m =>
          (match m.form with
            | .expressionStatement _ => true
            | _ => false) &&
          (m.print false 0).toOption.any fun text => decide (text.opening = .brace)) = true := by
    decide +kernel
  obtain ⟨program, parsed, checked⟩ := Grammar.ok_of_any checked
  obtain ⟨⟨lowered, next⟩, result, checked⟩ := Grammar.ok_of_any checked
  obtain ⟨m, hm, checked⟩ := List.any_eq_true.mp checked
  rw [Bool.and_eq_true] at checked
  obtain ⟨statement, checked⟩ := checked
  obtain ⟨text, printed, opens⟩ := Grammar.ok_of_any checked
  split at statement
  · rename_i expression form
    exact ⟨program, lowered, next, m, expression, text, parsed, result, by decide, hm, form,
      printed, of_decide_eq_true opens⟩
  · cases statement

/-- The body of an arrow function starts with a brace exactly if it has one in front that is not its
own: an object at the end of a path of first operands. -/
theorem arrow_body_opens_brace_iff (parsed : Grammar.parse source name = .ok program)
    (result : l.lower program = .ok (lowered, next)) (pragma : l.config.pragma.opening = .other)
    (pretty : Bool) (depth : Nat) :
    ∀ m ∈ lowered.program.walk, ∀ params body, m.form = .arrow params body →
      body.isBlock = false → ∃ head inner, body.print pretty depth = .ok inner ∧
        m.print pretty depth = .ok (head ++ " => " ++ body.arrowBody inner) ∧
        ((body.arrowBody inner).head? = some (CodePoint.ofChar '\x7b') ↔
          body.isObject = false ∧ body.opening = .brace) := by
  rintro ⟨place, form⟩ hm params body rfl expression
  obtain ⟨text, printed⟩ := print_lowered parsed result hm pretty depth
  obtain ⟨head, inner, own, rfl, -⟩ := Node.print_arrow printed
  have suits := suits_of_lowered parsed result pragma hm
    (by simp [IsNew, IsMade, IsInserted, IsImported]) rfl
  have leads := suits.resolve_left (Bool.eq_false_iff.mp expression)
  refine ⟨head, inner, own, printed, ?_⟩
  rw [← Text.opening_eq_brace_iff, leads.opening_arrowBody own]
  cases body.isObject <;> simp

/-- The body of the arrow function is an object. -/
def objectBodySource : Text := "x => (\x7b\x7d)"

theorem arrow_body_opens_brace_iff_object :
    ∃ (program : Node) (lowered : Lowered) (next : Lowerer) (m body : Node) (params : List Node)
      (head inner : Text),
      Grammar.parse objectBodySource [] = .ok program ∧
      (Lowerer.new {} { verbose := false }).lower program = .ok (lowered, next) ∧
      m ∈ lowered.program.walk ∧ m.form = .arrow params body ∧ body.opening = .brace ∧
      m.print false 0 = .ok (head ++ " => " ++ body.arrowBody inner) ∧
      (body.arrowBody inner).head? ≠ some (CodePoint.ofChar '\x7b') := by
  let l := Lowerer.new {} { verbose := false }
  have checked : ((Grammar.parse objectBodySource []).toOption.any fun program =>
      (l.lower program).toOption.any fun (lowered, _) =>
        lowered.program.walk.any fun m =>
          match m.form with
          | .arrow _ body => !body.isBlock && body.isObject && decide (body.opening = .brace)
          | _ => false) = true := by
    decide +kernel
  obtain ⟨program, parsed, checked⟩ := Grammar.ok_of_any checked
  obtain ⟨⟨lowered, next⟩, result, checked⟩ := Grammar.ok_of_any checked
  obtain ⟨m, hm, checked⟩ := List.any_eq_true.mp checked
  split at checked
  · rename_i params body form
    simp only [Bool.and_eq_true, Bool.not_eq_true', decide_eq_true_eq] at checked
    obtain ⟨⟨expression, object⟩, opens⟩ := checked
    obtain ⟨head, inner, -, printed, iff⟩ :=
      arrow_body_opens_brace_iff parsed result (by decide) false 0 m hm params body form
        expression
    refine ⟨program, lowered, next, m, body, params, head, inner, parsed, result, hm, form, opens,
      printed, ?_⟩
    rw [ne_eq, iff, object]
    rintro ⟨⟨⟩, -⟩
  · cases checked

/-- A call of a method of an object is the body of an arrow function. -/
def methodCallSource : Text := "x => (\x7b\x7d).f()"

/-- The printed body starts with the brace of the object. -/
theorem arrow_body_opens_brace :
    ∃ (program : Node) (lowered : Lowered) (next : Lowerer) (m body : Node) (params : List Node)
      (inner : Text),
      Grammar.parse methodCallSource [] = .ok program ∧
      (Lowerer.new {} { verbose := false }).lower program = .ok (lowered, next) ∧
      m ∈ lowered.program.walk ∧ m.form = .arrow params body ∧ body.isBlock = false ∧
      body.print false 0 = .ok inner ∧ m.print false 0 = .ok ("x => " ++ body.arrowBody inner) ∧
      (body.arrowBody inner).head? = some (CodePoint.ofChar '\x7b') := by
  let l := Lowerer.new {} { verbose := false }
  have checked : ((Grammar.parse methodCallSource []).toOption.any fun program =>
      (l.lower program).toOption.any fun (lowered, _) =>
        lowered.program.walk.any fun m =>
          match m.form with
          | .arrow _ body => !body.isBlock && (body.print false 0).toOption.any fun inner =>
            decide (m.print false 0 = .ok ("x => " ++ body.arrowBody inner) ∧
              (body.arrowBody inner).head? = some (CodePoint.ofChar '\x7b'))
          | _ => false) = true := by
    decide +kernel
  obtain ⟨program, parsed, checked⟩ := Grammar.ok_of_any checked
  obtain ⟨⟨lowered, next⟩, result, checked⟩ := Grammar.ok_of_any checked
  obtain ⟨m, hm, checked⟩ := List.any_eq_true.mp checked
  split at checked
  · rename_i params body form
    rw [Bool.and_eq_true, Bool.not_eq_true'] at checked
    obtain ⟨expression, checked⟩ := checked
    obtain ⟨inner, own, checked⟩ := Grammar.ok_of_any checked
    obtain ⟨printed, opens⟩ := of_decide_eq_true checked
    exact ⟨program, lowered, next, m, body, params, inner, parsed, result, hm, form, expression, own,
      printed, opens⟩
  · cases checked

end Programs

end Lowering

end Hyperscript
