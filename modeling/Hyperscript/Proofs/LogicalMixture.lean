import Hyperscript.Proofs.LoweredExpression

/-!
# Mixtures of logical operators

JavaScript has no form in which `??` stands beside another logical operator without parentheses. That
is no matter of precedence, but the printer goes by precedence, where `??` stands with `||` and below
`&&`. So parentheses stand around the left operand of an `&&`, and around a right operand unless it is
an `&&`; other operands of a mixture lose those that they were written with.
-/
namespace Hyperscript

namespace Operator

/-- One of the two operators is `??`, and the other is not. -/
def Mix (outer inner : Text) : Prop := (outer = "??" ∧ inner ≠ "??") ∨ (outer ≠ "??" ∧ inner = "??")

instance (outer inner : Text) : Decidable (Mix outer inner) := inferInstanceAs (Decidable (_ ∨ _))

/-- By precedence, the left operand of a mixture needs parentheses under `&&`, and the right operand
unless it is an `&&`. -/
theorem precedence_of_mix : ∀ outer ∈ logical, ∀ inner ∈ logical, Mix outer inner →
    (Precedence.ofOperator inner < Precedence.ofOperator outer ↔ outer = "&&") ∧
    (Precedence.ofOperator inner < Precedence.ofOperator outer + 1 ↔ inner ≠ "&&") := by
  decide

end Operator

namespace Node

open Layout

variable {place : Place} {operator : Text} {left right : Node} {pretty : Bool} {depth : Nat}

theorem print_logical {text : Text}
    (printed : print pretty depth ⟨place, .logical operator left right⟩ = .ok text) :
    ∃ first second, left.print pretty depth = .ok first ∧ right.print pretty depth = .ok second ∧
      text = left.operand (Precedence.ofOperator operator) first ++ " " ++ operator ++ " " ++
        right.operand (Precedence.ofOperator operator + 1) second := by
  rw [print] at printed
  obtain ⟨first, own, printed⟩ := Grammar.ok_of_bind printed
  obtain ⟨second, other, printed⟩ := Grammar.ok_of_bind printed
  cases printed
  exact ⟨first, second, own, other, rfl⟩

theorem precedence_of_logical {n : Node} (h : n.form = .logical operator left right) :
    n.precedence = Precedence.ofOperator operator := by
  rw [precedence, h]

end Node

namespace Lowering

open Layout

variable {source name : Text} {program : Node} {l next : Lowerer} {lowered : Lowered}

theorem operator_of_lowered (parsed : Grammar.parse source name = .ok program)
    (result : l.lower program = .ok (lowered, next)) {m : Node} (hm : m ∈ lowered.program.walk)
    {operator : Text} {left right : Node} (logical : m.form = .logical operator left right) :
    operator ∈ Operator.logical := by
  have method : Method.ofNode? m = none := by rw [Method.ofNode?, logical]
  obtain ⟨helper, k, hk, same⟩ := exists_layer_of_lowered parsed result hm
    (by simp [logical, IsNew, IsMade, IsInserted, IsImported]) method
  have own := Grammar.parse_suited parsed k hk
  obtain ⟨place, form⟩ := k
  rw [logical] at same
  cases form <;> cases same
  exact own

/-- Where `??` and another logical operator meet, the left operand is in parentheses exactly under
`&&`, and the right operand exactly if it is not an `&&` itself. -/
theorem mixed_operands_enclosed_iff (parsed : Grammar.parse source name = .ok program)
    (result : l.lower program = .ok (lowered, next)) (pretty : Bool) (depth : Nat) :
    ∀ m ∈ lowered.program.walk, ∀ operator left right, m.form = .logical operator left right →
      operator ∈ Operator.logical ∧ ∃ first second : Text, ∃ before after : Bool,
        left.print pretty depth = .ok first ∧ right.print pretty depth = .ok second ∧
        m.print pretty depth = .ok (parenthesize before first ++ " " ++ operator ++ " " ++
          parenthesize after second) ∧
        (∀ inner a b, left.form = .logical inner a b → Operator.Mix operator inner →
          (before = true ↔ operator = "&&")) ∧
        ∀ inner a b, right.form = .logical inner a b → Operator.Mix operator inner →
          (after = true ↔ inner ≠ "&&") := by
  rintro ⟨place, form⟩ hm operator left right rfl
  have known := operator_of_lowered parsed result hm rfl
  obtain ⟨text, printed⟩ := print_lowered parsed result hm pretty depth
  obtain ⟨first, second, own, other, rfl⟩ := Node.print_logical printed
  have below {c : Node} (hc : c ∈ [left, right]) : c ∈ lowered.program.walk :=
    Node.mem_walk_trans (Node.mem_walk_of_mem_children hc c.self_mem_walk) hm
  refine ⟨known, first, second, _, _, own, other, printed, ?_, ?_⟩
  · intro inner a b same mix
    have lower := operator_of_lowered parsed result (below (by simp)) same
    rw [Node.precedence_of_logical same, decide_eq_true_eq]
    exact (Operator.precedence_of_mix operator known inner lower mix).1
  · intro inner a b same mix
    have lower := operator_of_lowered parsed result (below (by simp)) same
    rw [Node.precedence_of_logical same, decide_eq_true_eq]
    exact (Operator.precedence_of_mix operator known inner lower mix).2

/-- The operator of a node and that of its left operand, if they are logical. -/
def leftMixture? (m : Node) : Option (Text × Text) :=
  match m.form with
  | .logical operator ⟨_, .logical inner _ _⟩ _ => some (operator, inner)
  | _ => none

theorem form_of_leftMixture? {m : Node} {operator inner : Text}
    (h : leftMixture? m = some (operator, inner)) : ∃ left right a b,
      m.form = .logical operator left right ∧ left.form = .logical inner a b := by
  rw [leftMixture?] at h
  split at h
  · rename_i form
    cases h
    exact ⟨_, _, _, _, form, rfl⟩
  · cases h

/-- A mixture whose parentheses are kept. -/
def conjunctionSource : Text := "(a ?? b) && c"

theorem mixed_operands_enclosed_iff_conjunction :
    ∃ (program : Node) (lowered : Lowered) (next : Lowerer) (m left right : Node)
      (first second : Text) (after : Bool),
      Grammar.parse conjunctionSource [] = .ok program ∧
      (Lowerer.new {} { verbose := false }).lower program = .ok (lowered, next) ∧
      m ∈ lowered.program.walk ∧ m.form = .logical "&&" left right ∧
      left.print false 0 = .ok first ∧ right.print false 0 = .ok second ∧
      m.print false 0 = .ok ("(" ++ first ++ ")" ++ " " ++ "&&" ++ " " ++
        parenthesize after second) := by
  let l := Lowerer.new {} { verbose := false }
  have checked : ((Grammar.parse conjunctionSource []).toOption.any fun program =>
      (l.lower program).toOption.any fun (lowered, _) =>
        lowered.program.walk.any fun m =>
          decide (leftMixture? m = some (Text.ofString "&&", Text.ofString "??"))) = true := by
    decide +kernel
  obtain ⟨program, parsed, checked⟩ := Grammar.ok_of_any checked
  obtain ⟨⟨lowered, next⟩, result, checked⟩ := Grammar.ok_of_any checked
  obtain ⟨m, hm, checked⟩ := List.any_eq_true.mp checked
  obtain ⟨left, right, a, b, form, inner⟩ := form_of_leftMixture? (of_decide_eq_true checked)
  obtain ⟨-, first, second, before, after, own, other, printed, enclosed, -⟩ :=
    mixed_operands_enclosed_iff parsed result false 0 m hm _ left right form
  have needed : before = true := (enclosed _ a b inner (by decide)).mpr rfl
  rw [needed] at printed
  exact ⟨program, lowered, next, m, left, right, first, second, after, parsed, result, hm, form, own,
    other, printed⟩

/-- A mixture that is legal by its parentheses only. -/
def alternativeSource : Text := "(a ?? b) || c"

/-- The left operand of the mixture is printed without them. -/
theorem mixed_operand_bare :
    ∃ (program : Node) (lowered : Lowered) (next : Lowerer) (m left right a b : Node)
      (first second : Text),
      Grammar.parse alternativeSource [] = .ok program ∧
      (Lowerer.new {} { verbose := false }).lower program = .ok (lowered, next) ∧
      m ∈ lowered.program.walk ∧ m.form = .logical "||" left right ∧
      left.form = .logical "??" a b ∧
      left.print false 0 = .ok first ∧ right.print false 0 = .ok second ∧
      m.print false 0 = .ok (first ++ " || " ++ second) := by
  let l := Lowerer.new {} { verbose := false }
  have checked : ((Grammar.parse alternativeSource []).toOption.any fun program =>
      (l.lower program).toOption.any fun (lowered, _) =>
        lowered.program.walk.any fun m =>
          decide (leftMixture? m = some (Text.ofString "||", Text.ofString "??")) &&
          m.children.map (Node.print false 0) =
            [.ok (Text.ofString "a ?? b"), .ok (Text.ofString "c")] &&
          m.print false 0 = .ok "a ?? b || c") = true := by
    decide +kernel
  obtain ⟨program, parsed, checked⟩ := Grammar.ok_of_any checked
  obtain ⟨⟨lowered, next⟩, result, checked⟩ := Grammar.ok_of_any checked
  obtain ⟨m, hm, checked⟩ := List.any_eq_true.mp checked
  simp only [Bool.and_eq_true, decide_eq_true_eq] at checked
  obtain ⟨⟨mixture, operands⟩, printed⟩ := checked
  obtain ⟨left, right, a, b, form, inner⟩ := form_of_leftMixture? mixture
  rw [Node.children, form] at operands
  simp only [Form.children, List.map_cons, List.map_nil, List.cons.injEq, and_true] at operands
  exact ⟨program, lowered, next, m, left, right, a, b, _, _, parsed, result, hm, form, inner,
    operands.1, operands.2, printed⟩

end Lowering

end Hyperscript
