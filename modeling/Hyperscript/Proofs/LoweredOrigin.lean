import Hyperscript.Proofs.FactoryBinding

/-!
# Where the nodes of a lowered tree come from

A lowering makes nodes of a few kinds, and takes all others from the tree. So a node of any other
kind in a lowered tree is what a node of the tree has become. The same goes for the insertion of
bindings, whose only new nodes are those of the bindings and the bodies that they are put into.
-/
namespace Hyperscript.Lowering

/-- The kinds of nodes that a lowering makes. -/
def IsMade : Form Node → Prop
  | .identifier _ | .this | .string .. | .boolean _ | .null | .member .. | .objectProperty ..
  | .objectExpression _ | .arrayExpression _ | .call .. => True
  | _ => False

/-- The node is one that a lowering of the tree makes, or what a node of the tree becomes. -/
def HasOrigin (config : Config) (helper : Text) (tree m : Node) : Prop :=
  IsMade m.form ∨ ∃ k ∈ tree.walk, k.isElement = false ∧ m = pureLowering config helper k

section Trees

variable {config : Config} {helper : Text} {tree : Node}

variable (config helper tree) in
/-- All nodes of a tree have an origin. -/
def HaveOrigins (n : Node) : Prop := ∀ m ∈ n.walk, HasOrigin config helper tree m

theorem haveOrigins_made {place : Place} {form : Form Node} (made : IsMade form)
    (below : ∀ c ∈ form.children, HaveOrigins config helper tree c) :
    HaveOrigins config helper tree ⟨place, form⟩ :=
  (Node.forall_mem_walk_iff _).mpr ⟨.inl made, below⟩

theorem HaveOrigins.below {n : Node} (h : HaveOrigins config helper tree n) :
    ∀ c ∈ n.children, HaveOrigins config helper tree c :=
  ((Node.forall_mem_walk_iff n).mp h).2

theorem closed_haveOrigins :
    Closed config helper (fun _ => True) (fun _ => True) (HaveOrigins config helper tree) where
  identifier place name _ := haveOrigins_made trivial (List.forall_mem_nil _)
  this place := haveOrigins_made trivial (List.forall_mem_nil _)
  string place value := haveOrigins_made trivial (List.forall_mem_nil _)
  null place := haveOrigins_made trivial (List.forall_mem_nil _)
  member place object property computed first second :=
    haveOrigins_made trivial (by simp [first, second])
  property place key value first second := haveOrigins_made trivial (by simp [first, second])
  object place members each := haveOrigins_made trivial each
  list place items each := haveOrigins_made trivial each
  factory place arguments pretty each := by
    have callee : HaveOrigins config helper tree (.plain (.identifier config.pragma)) :=
      haveOrigins_made trivial (List.forall_mem_nil _)
    exact haveOrigins_made trivial (List.forall_mem_cons.mpr ⟨callee, each⟩)
  merge groups _ each := by
    have callee : HaveOrigins config helper tree (.plain (.identifier helper)) :=
      haveOrigins_made trivial (List.forall_mem_nil _)
    have list : HaveOrigins config helper tree
        (.plain (.arrayExpression (groups.map (PropGroup.expression config.grouping)))) := by
      refine haveOrigins_made trivial ?_
      intro c hc
      obtain ⟨g, hg, rfl⟩ := List.mem_map.mp hc
      exact each g hg
    exact haveOrigins_made trivial (by simp [callee, list])
  bucket _ := trivial
  directive := ⟨trivial, trivial⟩

theorem HaveOrigins.attribute {n : Node} (h : HaveOrigins config helper tree n) :
    (Attribute.ofNode n).Made (fun _ => True) (HaveOrigins config helper tree) := by
  obtain ⟨place, form⟩ := n
  cases form
  case jsxAttribute name value =>
    refine ⟨fun _ _ => trivial, ?_⟩
    cases value with
    | none => exact haveOrigins_made trivial (List.forall_mem_nil _)
    | some v =>
      have own := h.below v (by simp [Node.children])
      obtain ⟨_, form⟩ := v
      cases form
      case string => exact haveOrigins_made trivial (List.forall_mem_nil _)
      case jsxExpressionContainer expression => exact own.below expression (by simp [Node.children])
      all_goals exact own
  case jsxSpreadAttribute argument => exact h.below argument (by simp [Node.children])
  all_goals exact h

theorem HaveOrigins.argument {n argument : Node} (h : HaveOrigins config helper tree n)
    (found : Child.argument? n = some argument) : HaveOrigins config helper tree argument := by
  obtain ⟨place, form⟩ := n
  cases form
  case jsxText value spelling =>
    obtain ⟨text, -, rfl⟩ := Option.map_eq_some_iff.mp found
    exact haveOrigins_made trivial (List.forall_mem_nil _)
  case jsxExpressionContainer expression =>
    simp only [Child.argument?] at found
    split at found <;> cases found
    exact h.below argument (by simp [Node.children])
  all_goals first | (cases found; exact h) | cases found

/-- Every node of a lowered tree is made by the lowering, or is what a node of the tree becomes. -/
theorem haveOrigins_pureLowering {Literal : Node → Prop} {r : Role} {n : Node}
    (fits : n.Fits Literal .plain r) (inside : ∀ m ∈ n.walk, m ∈ tree.walk) :
    HaveOrigins config helper tree (pureLowering config helper n) := by
  induction fits with
  | @intro r place form plays keeps parts ih =>
    have lowered : ∀ c ∈ form.children,
        HaveOrigins config helper tree (pureLowering config helper c) := by
      intro c child
      obtain ⟨part, member, rfl⟩ := (Form.mem_children_iff r).mp child
      exact ih part member fun m hm => inside m (Node.mem_walk_of_mem_children child hm)
    cases element : (Node.mk place form).isElement with
    | false =>
      refine (Node.forall_mem_walk_iff _).mpr ⟨?_, ?_⟩
      · exact .inr ⟨_, inside _ (Node.self_mem_walk _), element, rfl⟩
      rw [pureLowering_of_not_element config helper element, Node.children, Form.children_map]
      intro c hc
      obtain ⟨d, hd, rfl⟩ := List.mem_map.mp hc
      exact lowered d hd
    | true =>
      cases form <;> simp only [Node.isElement, reduceCtorEq] at element
      case jsxElement name attributes children closes =>
      rw [pureLowering_element config helper rfl]
      refine closed_haveOrigins.lowered ⟨?_, fun _ _ _ _ => trivial, ?_, ?_⟩ fun _ => trivial
      · exact ((parts (.tag, name) (by simp)).pureLowering config helper).mono fun _ _ => trivial
      · intro a ha
        simp only [Element.map, List.map_map, List.mem_map, Function.comp_apply] at ha
        obtain ⟨c, hc, rfl⟩ := ha
        rw [← attribute_pureLowering]
        exact (lowered c (by simp [hc])).attribute
      · intro argument member
        obtain ⟨m, hm, found⟩ := List.mem_filterMap.mp member
        obtain ⟨c, hc, rfl⟩ := List.mem_map.mp hm
        exact (lowered c (by simp [hc])).argument found

end Trees

section Bindings

variable {config : Config} {k : Node}

/-- The kinds of nodes that bindings are made of, and those that a binding is put into. -/
def IsInserted : Form Node → Prop
  | .identifier _ | .this | .number .. | .member .. | .declarator .. | .variableDeclaration .. => True
  | .block _ | .program _ | .classBody _ => True
  | _ => False

theorem isInserted_binding (config : Config) (m : Method) :
    ∀ k ∈ (m.binding config).walk, IsInserted k.form := by
  rw [Method.binding, Method.factory]
  split <;> simp [Node.plain, Node.walk_eq, Node.children, IsInserted]

/-- What is below a body with a statement in front is in the body or in the statement. -/
theorem mem_walk_of_prepend {statement body : Node} (other : ¬ IsInserted k.form)
    (h : k ∈ (Binding.prepend statement body).walk) : k ∈ statement.walk ∨ k ∈ body.walk := by
  obtain ⟨place, form⟩ := body
  cases form
  case block | program | classBody =>
    rcases Node.mem_walk_iff.mp h with rfl | ⟨c, hc, below⟩
    · exact absurd trivial other
    · rcases List.mem_cons.mp hc with rfl | later
      · exact .inl below
      · exact .inr (Node.mem_walk_of_mem_children later below)
  all_goals exact .inr h

/-- A node of a tree with bindings is what a node of the tree has become, unless a binding is made
of it or put into it. -/
theorem exists_of_mem_walk_inserted {n : Node} (other : ¬ IsInserted k.form)
    (h : k ∈ (Binding.inserted config n).walk) :
    ∃ source ∈ n.walk, k = Binding.inserted config source := by
  induction n using Node.induction with
  | step n ih =>
    have below (c : Node) (hc : c ∈ (n.form.map (Binding.inserted config)).children)
        (hk : k ∈ c.walk) : ∃ source ∈ n.walk, k = Binding.inserted config source := by
      rw [Form.children_map] at hc
      obtain ⟨d, hd, rfl⟩ := List.mem_map.mp hc
      obtain ⟨source, inside, same⟩ := ih d hd hk
      exact ⟨source, Node.mem_walk_of_mem_children hd inside, same⟩
    rcases Node.mem_walk_iff.mp h with rfl | ⟨c, hc, hk⟩
    · exact ⟨n, n.self_mem_walk, rfl⟩
    · cases needed : Binding.method? config n with
      | none =>
        rw [Binding.inserted_of_none needed] at hc
        exact below c hc hk
      | some own =>
        rw [Binding.inserted_of_some needed] at hc
        rcases Binding.mem_children_prependTo hc with kept | ⟨body, member, rfl⟩
        · exact below c kept hk
        · rcases mem_walk_of_prepend other hk with first | inside
          · exact absurd (isInserted_binding config own k first) other
          · exact below body member inside

theorem isSome_ofNode?_inserted (config : Config) (n : Node) :
    (Method.ofNode? (Binding.inserted config n)).isSome = (Method.ofNode? n).isSome := by
  cases found : Method.ofNode? n with
  | some m => rw [Binding.ofNode?_inserted config found, Option.isSome_some, Option.isSome_some]
  | none =>
    have needless : Binding.method? config n = none := by
      rw [Binding.method?, found]
      rfl
    rw [Binding.inserted_of_none needless]
    obtain ⟨place, form⟩ := n
    cases form <;> first | rfl | cases found

/-- Nothing that is asked of a layer, whatever its parts, is changed by the insertion. -/
theorem bound_ask {β : Type} (ask : Form Node → β)
    (layer : ∀ (f : Node → Node) (form : Form Node), ask (form.map f) = ask form)
    (methods : ∀ statement form, ask (Binding.prependTo statement form) = ask form) (n : Node) :
    ask (bound config n).form = ask n.form := by
  rw [bound]
  split
  · rw [Binding.insert_eq]
    split
    · exact layer _ _
    · exact (methods _ _).trans (layer _ _)
  · rfl

theorem exists_of_mem_walk_bound {n : Node} (other : ¬ IsInserted k.form)
    (h : k ∈ (bound config n).walk) : ∃ source ∈ n.walk, k = bound config source := by
  by_cases binds : config.bindsFactory = true
  · have each : bound config = Binding.inserted config := by
      funext m
      rw [bound, if_pos binds, Binding.inserted]
    rw [each] at h ⊢
    exact exists_of_mem_walk_inserted other h
  · rw [bound, if_neg binds] at h
    exact ⟨k, h, by rw [bound, if_neg binds]⟩

end Bindings

end Hyperscript.Lowering
