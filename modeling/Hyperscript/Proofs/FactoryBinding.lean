import Hyperscript.Proofs.MarkupFree

/-!
# Bindings of the factory

A binding is inserted into every method that makes elements in its body and does not receive the
factory as its first parameter, and nothing else of the tree changes. So the method binds one name
more than before. The other parameters and the declarations of the body are not looked at: where one
of them has the name of the factory, it is bound twice.
-/
namespace Hyperscript

namespace Form

/-- The names that a pattern or a declaration binds, given those that its parts bind. -/
def binds : Form (List Text) → List Text
  | .identifier name => [name]
  | .assignmentPattern left _ => left
  | .restElement argument => argument
  | .objectPattern properties => properties.flatten
  | .objectProperty _ value _ _ => value
  | .arrayPattern elements => elements.flatten
  | .declarator target _ => target
  | .variableDeclaration _ declarations => declarations.flatten
  | .functionDeclaration id _ _ => id.getD []
  | .classDeclaration id _ _ _ => id.getD []
  | _ => []

end Form

namespace Node

/-- The names that a pattern or a declaration binds where it stands. -/
def binds : Node → List Text := fold fun _ form => form.binds

theorem binds_eq (n : Node) : n.binds = (n.form.map binds).binds := fold_eq _ n

end Node

namespace Lowering

namespace Method

/-- The statements of the body. -/
def statements (m : Method) : List Node :=
  match m.body.form with
  | .block statements => statements
  | _ => []

/-- The names that the parameters bind, and then those that the statements of the body declare. -/
def boundNames (m : Method) : List Text := (m.params ++ m.statements).flatMap Node.binds

theorem binds_binding (config : Config) (m : Method) :
    (m.binding config).binds = [config.pragma] := rfl

/-- The body of a method of a tree with roles is a block. -/
theorem body_of_fits {Literal : Node → Prop} {markup : Markup} {r : Role} {n : Node}
    (fits : n.Fits Literal markup r) : ∀ k ∈ n.walk, ∀ m, ofNode? k = some m →
      ∃ place statements, m.body = ⟨place, .block statements⟩ := by
  induction fits with
  | @intro r place form plays keeps parts ih =>
    refine (Node.forall_mem_walk_iff _).mpr ⟨?_, ?_⟩
    · intro m found
      have block : m.body.isBlock = true := by
        have role : r ≠ .attributeValue := by
          rintro rfl
          cases form <;> cases found <;> cases plays
        have own := keeps role
        cases form <;> cases found <;> exact own
      obtain ⟨_, _, _, ⟨place, form⟩, _⟩ := m
      cases form <;> cases block
      exact ⟨_, _, rfl⟩
    · intro c hc
      obtain ⟨part, member, rfl⟩ := (Form.mem_children_iff r).mp hc
      exact ih part member

end Method

namespace Binding

/-- The tree with the bindings that it needs. -/
def inserted (config : Config) (n : Node) : Node := (insert config n).1

theorem layer_source (config : Config) (place : Place) (form : Form Bound) :
    (layer config place form).source = ⟨place, form.map Bound.source⟩ := by
  rw [layer]
  split <;> rfl

/-- The visit of a node remembers the node as it was. -/
theorem fold_source (config : Config) (n : Node) : (n.fold (layer config)).source = n := by
  induction n using Node.induction with
  | step n ih =>
    have same : n.form.map (Bound.source ∘ Node.fold (layer config)) = n.form :=
      (Form.map_congr ih).trans (Form.map_id n.form)
    rw [Node.fold_eq, layer_source, Form.map_map, same, Node.mk_place_form]

/-- What happens at a node: a method that needs a binding gets it in front of its body. -/
theorem insert_eq (config : Config) (n : Node) :
    insert config n =
      match method? config n with
      | none => (⟨n.place, n.form.map (inserted config)⟩,
          n.children.flatMap fun c => (insert config c).2)
      | some m => (⟨n.place, prependTo (m.binding config) (n.form.map (inserted config))⟩,
          m :: n.children.flatMap fun c => (insert config c).2) := by
  have source : n.form.map (Bound.source ∘ Node.fold (layer config)) = n.form :=
    (Form.map_congr fun c _ => fold_source config c).trans (Form.map_id n.form)
  rw [insert, Node.fold_eq, layer, Form.map_map, source, Node.mk_place_form, Form.map_map,
    Form.children_map, List.flatMap_map]
  cases method? config n <;> rfl

/-- A node that is no method with a need for a binding only has its parts changed. -/
theorem inserted_of_none {config : Config} {n : Node} (h : method? config n = none) :
    inserted config n = ⟨n.place, n.form.map (inserted config)⟩ := by
  rw [inserted, insert_eq, h]

theorem inserted_of_some {config : Config} {n : Node} {m : Method}
    (h : method? config n = some m) :
    inserted config n =
      ⟨n.place, prependTo (m.binding config) (n.form.map (inserted config))⟩ := by
  rw [inserted, insert_eq, h]

/-- The methods that get a binding are those of the tree that need one, as a walk meets them. -/
theorem insert_methods (config : Config) (n : Node) :
    (insert config n).2 = n.walk.filterMap (method? config) := by
  induction n using Node.induction with
  | step n ih =>
    have below : n.children.flatMap (fun c => (insert config c).2) =
        (n.children.flatMap Node.walk).filterMap (method? config) := by
      rw [List.filterMap_flatMap]
      exact List.flatMap_congr ih
    rw [insert_eq, Node.walk_eq, List.filterMap_cons, ← below]
    cases method? config n <;> rfl

/-- Bindings are inserted into bodies, so patterns and declarations bind what they bound before. -/
theorem binds_inserted (config : Config) (n : Node) : (inserted config n).binds = n.binds := by
  induction n using Node.induction with
  | step n ih =>
    have inner : (n.form.map (inserted config)).map Node.binds = n.form.map Node.binds := by
      rw [Form.map_map]
      exact Form.map_congr ih
    cases found : method? config n with
    | none => rw [inserted_of_none found, Node.binds_eq, inner, ← Node.binds_eq]
    | some m =>
      rw [inserted_of_some found, Node.binds_eq, Node.binds_eq]
      obtain ⟨place, form⟩ := n
      cases form <;> first | rfl | cases found

section Methods

variable {config : Config} {k : Node} {m : Method}

/-- The method of a node after the insertion, where the node may need a binding or not. -/
theorem ofNode?_inserted (config : Config) (found : Method.ofNode? k = some m) :
    Method.ofNode? (inserted config k) = some
      { m with
        key := inserted config m.key
        params := m.params.map (inserted config)
        body :=
          if m.needsBinding config.pragma then
            prepend (m.binding config) (inserted config m.body)
          else inserted config m.body } := by
  have needs : method? config k = if m.needsBinding config.pragma then some m else none := by
    rw [method?, found]
    rfl
  split at needs
  · rename_i needed
    rw [inserted_of_some needs]
    obtain ⟨place, form⟩ := k
    cases form <;> cases found <;> simp [Form.map, prependTo, Method.ofNode?, needed]
  · rename_i needless
    rw [inserted_of_none needs]
    obtain ⟨place, form⟩ := k
    cases form <;> cases found <;> simp [Form.map, Method.ofNode?, needless]

theorem inserted_block (config : Config) (place : Place) (statements : List Node) :
    inserted config ⟨place, .block statements⟩ =
      ⟨place, .block (statements.map (inserted config))⟩ :=
  inserted_of_none rfl

/-- A statement in front of a body hides no method of it. -/
theorem mem_walk_prepend {statement body : Node} (found : Method.ofNode? k = some m)
    (h : k ∈ body.walk) : k ∈ (prepend statement body).walk := by
  obtain ⟨place, form⟩ := body
  rcases Node.mem_walk_iff.mp h with rfl | ⟨c, hc, below⟩
  · cases form <;> cases found <;> exact h
  · cases form
    case block | program | classBody =>
      exact Node.mem_walk_of_mem_children (List.mem_cons_of_mem statement hc) below
    all_goals exact h

theorem mem_children_prependTo {statement c : Node} {form : Form Node}
    (h : c ∈ (prependTo statement form).children) :
    c ∈ form.children ∨ ∃ body ∈ form.children, c = prepend statement body := by
  cases form
  case objectMethod | classMethod =>
    simp only [prependTo, Form.children, List.mem_append, List.mem_singleton] at h ⊢
    grind
  all_goals exact .inl h

theorem mem_children_prependTo_of_mem {statement c : Node} {form : Form Node} (h : c ∈ form.children) :
    c ∈ (prependTo statement form).children ∨
      prepend statement c ∈ (prependTo statement form).children := by
  cases form
  case objectMethod | classMethod =>
    simp only [prependTo, Form.children, List.mem_append, List.mem_singleton] at h ⊢
    grind
  all_goals exact .inl h

/-- Every method of a tree is there after the insertion, with what was inserted into it. -/
theorem mem_walk_inserted {n : Node} (found : Method.ofNode? k = some m) (h : k ∈ n.walk) :
    inserted config k ∈ (inserted config n).walk := by
  have after := ofNode?_inserted config found
  induction n using Node.induction with
  | step n ih =>
    rcases Node.mem_walk_iff.mp h with rfl | ⟨c, hc, below⟩
    · exact Node.self_mem_walk _
    · have inside := ih c hc below
      have part : inserted config c ∈ (n.form.map (inserted config)).children := by
        rw [Form.children_map]
        exact List.mem_map_of_mem hc
      cases needed : method? config n with
      | none =>
        rw [inserted_of_none needed]
        exact Node.mem_walk_of_mem_children part inside
      | some own =>
        rw [inserted_of_some needed]
        rcases mem_children_prependTo_of_mem part with kept | longer
        · exact Node.mem_walk_of_mem_children kept inside
        · exact Node.mem_walk_of_mem_children longer (mem_walk_prepend after inside)

end Methods

end Binding

/-- A method that is changed gets the binding as its first statement, and otherwise keeps what it
binds. So its binding is the only one of the factory exactly if there was none before. -/
theorem insert_adds_one_binding {source name : Text} {program : Node}
    (parsed : Grammar.parse source name = .ok program) (config : Config) :
    (Binding.insert config program).2 = program.walk.filterMap (Binding.method? config) ∧
    ∀ k ∈ program.walk, ∀ m, Binding.method? config k = some m →
      ∃ changed : Method,
        Binding.inserted config k ∈ (Binding.insert config program).1.walk ∧
        Method.ofNode? (Binding.inserted config k) = some changed ∧
        changed.statements.head? = some (m.binding config) ∧
        changed.boundNames =
          m.params.flatMap Node.binds ++ config.pragma :: m.statements.flatMap Node.binds ∧
        (changed.boundNames.count config.pragma = 1 ↔ config.pragma ∉ m.boundNames) := by
  refine ⟨Binding.insert_methods config program, ?_⟩
  intro k hk m changed
  obtain ⟨found, needed⟩ := Option.filter_eq_some_iff.mp changed
  obtain ⟨place, statements, body⟩ :=
    Method.body_of_fits (Grammar.parse_fits parsed) k hk m found
  have after := Binding.ofNode?_inserted config found
  rw [if_pos needed, body, Binding.inserted_block, Binding.prepend] at after
  have kept (ns : List Node) :
      (ns.map (Binding.inserted config)).flatMap Node.binds = ns.flatMap Node.binds := by
    rw [List.flatMap_map]
    exact List.flatMap_congr fun n _ => Binding.binds_inserted config n
  have own : m.statements = statements := by rw [Method.statements, body]
  have names : ∀ c : Method, c.params = m.params.map (Binding.inserted config) →
      c.statements = m.binding config :: statements.map (Binding.inserted config) →
      c.boundNames =
        m.params.flatMap Node.binds ++ config.pragma :: m.statements.flatMap Node.binds := by
    intro c params first
    rw [Method.boundNames, params, first, List.flatMap_append, List.flatMap_cons, kept, kept, own,
      Method.binds_binding, List.singleton_append]
  refine ⟨_, Binding.mem_walk_inserted found hk, after, rfl, names _ rfl rfl, ?_⟩
  rw [names _ rfl rfl, List.count_append, List.count_cons_self, ← Nat.add_assoc,
    ← List.count_append, ← List.flatMap_append, ← Method.boundNames, Nat.add_eq_right,
    List.count_eq_zero]

/-- A method whose only parameter is not the factory. -/
def renderSource : Text := "(\x7brender(a) \x7breturn <b/>\x7d\x7d)"

theorem insert_adds_one_binding_render :
    ∃ (program k : Node) (m changed : Method),
      Grammar.parse renderSource [] = .ok program ∧ k ∈ program.walk ∧
      Binding.method? {} k = some m ∧ Method.ofNode? (Binding.inserted {} k) = some changed ∧
      changed.boundNames = ["a", "h"].map Text.ofString ∧
      changed.boundNames.count (Text.ofString "h") = 1 := by
  have checked : ((Grammar.parse renderSource []).toOption.any fun program =>
      program.walk.any fun k => (Binding.method? {} k).any fun m =>
        m.params.flatMap Node.binds = ["a"].map Text.ofString &&
          m.statements.flatMap Node.binds = []) = true := by decide +kernel
  obtain ⟨program, parsed, checked⟩ := Grammar.ok_of_any checked
  obtain ⟨k, hk, checked⟩ := List.any_eq_true.mp checked
  obtain ⟨m, found, checked⟩ := (Option.any_eq_true _ _).mp checked
  simp only [Bool.and_eq_true, decide_eq_true_eq] at checked
  obtain ⟨params, statements⟩ := checked
  obtain ⟨-, each⟩ := insert_adds_one_binding parsed {}
  obtain ⟨changed, -, after, -, names, once⟩ := each k hk m found
  refine ⟨program, k, m, changed, parsed, hk, found, after, ?_, once.mpr ?_⟩
  · rw [names, params, statements]
    rfl
  · rw [Method.boundNames, List.flatMap_append, params, statements]
    decide

/-- A method with the name of the factory for its second parameter. -/
def redeclaredSource : Text := "(\x7brender(a, h) \x7breturn <b/>\x7d\x7d)"

/-- The factory is declared a second time, beside the parameter. -/
theorem insert_redeclares :
    ∃ (program k : Node) (changed : Method),
      Grammar.parse redeclaredSource [] = .ok program ∧
      (Binding.insert {} program).2.length = 1 ∧ k ∈ (Binding.insert {} program).1.walk ∧
      Method.ofNode? k = some changed ∧
      changed.params.flatMap Node.binds = ["a", "h"].map Text.ofString ∧
      changed.statements.flatMap Node.binds = ["h"].map Text.ofString ∧
      changed.boundNames.count (Text.ofString "h") = 2 := by
  have checked : ((Grammar.parse redeclaredSource []).toOption.any fun program =>
      (Binding.insert {} program).2.length = 1 &&
      (Binding.insert {} program).1.walk.any fun k => (Method.ofNode? k).any fun changed =>
        changed.params.flatMap Node.binds = ["a", "h"].map Text.ofString &&
        changed.statements.flatMap Node.binds = ["h"].map Text.ofString &&
        changed.boundNames.count (Text.ofString "h") = 2) = true := by decide +kernel
  obtain ⟨program, parsed, checked⟩ := Grammar.ok_of_any checked
  rw [Bool.and_eq_true, decide_eq_true_eq] at checked
  obtain ⟨one, checked⟩ := checked
  obtain ⟨k, hk, checked⟩ := List.any_eq_true.mp checked
  obtain ⟨changed, found, checked⟩ := (Option.any_eq_true _ _).mp checked
  simp only [Bool.and_eq_true, decide_eq_true_eq] at checked
  obtain ⟨⟨params, statements⟩, twice⟩ := checked
  exact ⟨program, k, changed, parsed, one, hk, found, params, statements, twice⟩

end Lowering

end Hyperscript
