import Hyperscript.Proofs.Role
import Hyperscript.Tree.Printer

/-!
# Code has a printed form

The printer refuses markup and nodes that are nothing but their kind. Wherever there are none, it
returns a text.
-/
namespace Hyperscript

/-- The computation gives a result. -/
def Succeeds {ε α : Type} (x : Except ε α) : Prop := ∃ a, x = .ok a

namespace Succeeds

variable {ε α β : Type}

theorem pure (a : α) : Succeeds (Pure.pure a : Except ε α) := ⟨a, rfl⟩

theorem bind {x : Except ε α} {f : α → Except ε β} (h : Succeeds x)
    (later : ∀ a, Succeeds (f a)) : Succeeds (x >>= f) := by
  obtain ⟨a, rfl⟩ := h
  exact later a

theorem ite {c : Prop} [Decidable c] {x y : Except ε α} (first : Succeeds x)
    (second : Succeeds y) : Succeeds (if c then x else y) := by
  split
  · exact first
  · exact second

end Succeeds

namespace Node

variable {pretty : Bool}

theorem printAll_succeeds {ns : List Node}
    (each : ∀ n ∈ ns, ∀ depth, Succeeds (n.print pretty depth))
    (depth least : Nat) : Succeeds (printAll pretty depth least ns) := by
  induction ns with
  | nil => exact .pure _
  | cons n rest ih =>
    rw [printAll]
    refine .bind (each n List.mem_cons_self depth) fun text => ?_
    refine .bind (ih fun m hm => each m (List.mem_cons_of_mem n hm)) fun others => ?_
    exact .pure _

theorem printOption_succeeds {n : Option Node}
    (each : ∀ m ∈ n.toList, ∀ depth, Succeeds (m.print pretty depth)) (depth least : Nat) :
    Succeeds (printOption pretty depth least n) := by
  cases n with
  | none => exact .pure _
  | some m =>
    rw [printOption]
    refine .bind (each m (by simp) depth) fun text => ?_
    exact .pure _

section Classes

variable {id superClass : Option Node} {params decorators : List Node} {body : Node}

/-- The parts of a class are printed one after the other, whatever is then made of them. -/
theorem class_succeeds {f : List Text → Option Text → Text → Text} {place : Place}
    (below : ∀ c ∈ (Node.mk place (.classDeclaration id superClass body decorators)).children,
      ∀ depth, Succeeds (c.print pretty depth)) (depth : Nat) :
    Succeeds (do
      let above ← printAll pretty depth 0 decorators
      let parent ← printOption pretty depth Precedence.call superClass
      let text ← print pretty depth body
      return f above parent text) := by
  simp only [children, Form.children] at below
  refine .bind (printAll_succeeds (fun m hm => below m (by simp [hm])) depth 0) fun above => ?_
  refine .bind (printOption_succeeds (fun m hm => below m (by simp [hm])) depth _) fun parent => ?_
  exact .bind (below body (by simp) depth) fun text => .pure _

theorem function_succeeds {f : List Text → Text → Text} {place : Place}
    (below : ∀ c ∈ (Node.mk place (.functionDeclaration id params body)).children,
      ∀ depth, Succeeds (c.print pretty depth)) (depth : Nat) :
    Succeeds (do
      let printed ← printAll pretty depth Precedence.assignment params
      let text ← print pretty depth body
      return f printed text) := by
  simp only [children, Form.children] at below
  refine .bind (printAll_succeeds (fun m hm => below m (by simp [hm])) depth _) fun printed => ?_
  exact .bind (below body (by simp) depth) fun text => .pure _

end Classes

/-- A default export looks into a declaration of a class or a function. -/
theorem exportDefault_succeeds {place : Place} {declaration : Node}
    (own : ∀ depth, Succeeds (declaration.print pretty depth))
    (below : ∀ c ∈ declaration.children, ∀ depth, Succeeds (c.print pretty depth)) (depth : Nat) :
    Succeeds (print pretty depth ⟨place, .exportDefault declaration⟩) := by
  by_cases isClass : ∃ p id superClass body decorators,
      declaration = ⟨p, .classDeclaration id superClass body decorators⟩
  · obtain ⟨p, id, superClass, body, decorators, rfl⟩ := isClass
    rw [print]
    exact class_succeeds below depth
  by_cases isFunction : ∃ p id params body, declaration = ⟨p, .functionDeclaration id params body⟩
  · obtain ⟨p, id, params, body, rfl⟩ := isFunction
    rw [print]
    exact function_succeeds below depth
  rw [print]
  · exact .bind (own depth) fun text => .pure _
  · exact fun p id superClass body decorators same => isClass ⟨p, id, superClass, body, _, same⟩
  · exact fun p id params body same => isFunction ⟨p, id, params, body, same⟩

theorem exportNamed_succeeds {place : Place} {declaration : Node} {specifiers : List Node}
    (own : ∀ depth, Succeeds (declaration.print pretty depth))
    (below : ∀ c ∈ declaration.children, ∀ depth, Succeeds (c.print pretty depth)) (depth : Nat) :
    Succeeds (print pretty depth ⟨place, .exportNamed (some declaration) specifiers⟩) := by
  by_cases isClass : ∃ p id superClass body decorators,
      declaration = ⟨p, .classDeclaration id superClass body decorators⟩
  · obtain ⟨p, id, superClass, body, decorators, rfl⟩ := isClass
    rw [print]
    exact class_succeeds below depth
  rw [print]
  · exact .bind (own depth) fun text => .pure _
  · exact fun p id superClass body decorators same => isClass ⟨p, id, superClass, body, _, same⟩

theorem arrow_succeeds {place : Place} {params : List Node} {body : Node}
    (each : ∀ n ∈ params, ∀ depth, Succeeds (n.print pretty depth))
    (own : ∀ depth, Succeeds (body.print pretty depth)) (depth : Nat) :
    Succeeds (print pretty depth ⟨place, .arrow params body⟩) := by
  by_cases single : ∃ p name, params = [⟨p, .identifier name⟩]
  · obtain ⟨p, name, rfl⟩ := single
    rw [print]
    exact .bind (own depth) fun text => .pure _
  · rw [print]
    · refine .bind (printAll_succeeds each depth _) fun printed => ?_
      exact .bind (own depth) fun text => .pure _
    · exact fun p name same => single ⟨p, name, same⟩

/-- A tree that is code in all its nodes, without elements, has a printed form. -/
theorem print_succeeds {n : Node} (code : ∀ m ∈ n.walk, m.form.isCode .absent = true)
    (depth : Nat) : Succeeds (n.print pretty depth) := by
  induction n using Node.walkInduction generalizing depth with
  | step n ih =>
    have deep : ∀ c ∈ n.children, ∀ m ∈ c.walk, ∀ depth, Succeeds (m.print pretty depth) := by
      intro c hc m hm depth
      exact ih c hc m hm (fun k hk => code k (mem_walk_of_mem_children hc (mem_walk_trans hk hm)))
        depth
    have below : ∀ c ∈ n.children, ∀ depth, Succeeds (c.print pretty depth) :=
      fun c hc => deep c hc c c.self_mem_walk
    have second : ∀ c ∈ n.children, ∀ d ∈ c.children, ∀ depth, Succeeds (d.print pretty depth) :=
      fun c hc d hd => deep c hc d (mem_walk_of_mem_children hd d.self_mem_walk)
    have own := code n n.self_mem_walk
    clear ih deep code
    obtain ⟨place, form⟩ := n
    simp only [children] at below second
    cases form <;> simp only [Form.isCode, Form.isMarkup, Markup.hasElements, Bool.not_true,
      Bool.false_eq_true] at own <;> dsimp only [Form.children] at below second
    case arrow params body =>
      exact arrow_succeeds (fun m hm => below m (by simp [hm])) (below body (by simp)) depth
    case exportDefault declaration =>
      exact exportDefault_succeeds (below declaration (by simp)) (second declaration (by simp))
        depth
    case exportNamed declaration specifiers =>
      cases declaration with
      | some declaration =>
        exact exportNamed_succeeds (below declaration (by simp)) (second declaration (by simp))
          depth
      | none =>
        simp only [print]
        exact .bind (printAll_succeeds (fun m hm => below m (by simp [hm])) _ _) fun _ => .pure _
    case declarator target init =>
      cases init with
      | none =>
        simp only [print]
        exact below target (by simp) depth
      | some init =>
        simp only [print]
        refine .bind (below target (by simp) depth) fun left => ?_
        exact .bind (below init (by simp) depth) fun right => .pure _
    case returnStatement argument =>
      cases argument with
      | none => exact ⟨_, by simp only [print]; rfl⟩
      | some argument =>
        simp only [print]
        exact .bind (below argument (by simp) depth) fun text => .pure _
    case ifStatement test consequent alternate =>
      cases alternate with
      | none =>
        simp only [print]
        refine .bind (below test (by simp) depth) fun condition => ?_
        exact .bind (below consequent (by simp) depth) fun first => .pure _
      | some alternate =>
        simp only [print]
        refine .bind (below test (by simp) depth) fun condition => ?_
        refine .bind (below consequent (by simp) depth) fun first => ?_
        exact .bind (below alternate (by simp) depth) fun second => .pure _
    case objectProperty key value computed shorthand =>
      simp only [print]
      split
      · exact .pure _
      · refine .ite (below value (by simp) depth) ?_
        refine .bind (below key (by simp) depth) fun name => ?_
        exact .bind (below value (by simp) depth) fun text => .pure _
    -- The other nodes print their parts in some order, perhaps after a look at a flag.
    all_goals
      simp only [print]
      repeat
        first
        | exact .pure _
        | refine .bind (below _ (by simp) _) fun _ => ?_
        | refine .bind (printAll_succeeds (fun m hm => below m (by simp [hm])) _ _) fun _ => ?_
        | refine .bind (printOption_succeeds (fun m hm => below m (by simp [hm])) _ _) fun _ => ?_
        | refine .ite ?_ ?_

/-- Markup, and a node that is nothing but its kind, have no printed form in any layout. -/
theorem print_unprintable {n : Node} (h : n.form.isCode .absent = false) (pretty : Bool)
    (depth : Nat) : n.print pretty depth = n.unprintable := by
  obtain ⟨place, form⟩ := n
  cases form
  case bare | jsxIdentifier | jsxNamespacedName | jsxMember | jsxEmptyExpression | jsxText
      | jsxExpressionContainer | jsxAttribute | jsxSpreadAttribute | jsxElement =>
    rw [print] <;> simp
  all_goals cases h

end Node

end Hyperscript
