import Hyperscript.Proofs.Idempotence
import Hyperscript.Proofs.LoweringCount

/-!
# The visit that inserts bindings

The visit changes a tree while it walks through it: it enters a method, puts the binding into the
body, and then visits the parts of the changed method, the new statement among them. What it inserts
holds no method and no element, so it finds the methods that it would find in the tree as it was
read, and each of them once. The result is described without a visit: it is the tree with a
declaration in front of the bodies of these methods, and otherwise the same.
-/
namespace Hyperscript

theorem Node.identifierName?_eq_some_iff {n : Node} {name : Text} :
    n.identifierName? = some name ↔ n.form = .identifier name := by
  obtain ⟨place, form⟩ := n
  cases form <;> simp [Node.identifierName?]

namespace Lowering

namespace Method

/-- The first parameter of the method is not the factory, and its body has an element. -/
structure Needs (m : Method) (pragma : Text) : Prop where
  unsupplied : ∀ first, m.params.head? = some first → first.form ≠ .identifier pragma
  element : ∃ e ∈ m.body.walk, e.isElement = true

/-- `const h = …` with the value that the method takes the factory from. -/
inductive Declares (config : Config) (m : Method) : Node → Prop
  | arguments : m.computed = false → m.key.form = .identifier config.renderMethod →
      Declares config m (.plain (.variableDeclaration "const" [.plain (.declarator
        (.plain (.identifier config.pragma))
        (some (.plain (.member (.plain (.identifier "arguments"))
          (.plain (.number (.integer 0) (some (Text.ofString "0")))) true))))]))
  | component : ¬ (m.computed = false ∧ m.key.form = .identifier config.renderMethod) →
      Declares config m (.plain (.variableDeclaration "const" [.plain (.declarator
        (.plain (.identifier config.pragma))
        (some (.plain (.member (.plain .this) (.plain (.identifier config.factorySlot)) false))))]))

theorem needsBinding_iff {m : Method} {pragma : Text} :
    m.needsBinding pragma = true ↔ m.Needs pragma := by
  have supplied : m.receives pragma = false ↔
      ∀ first, m.params.head? = some first → first.form ≠ .identifier pragma := by
    simp only [receives, beq_eq_false_iff_ne, ne_eq, Option.bind_eq_some_iff,
      Node.identifierName?_eq_some_iff, not_exists, not_and]
  rw [needsBinding, Bool.and_eq_true, Bool.not_eq_true', supplied, Node.containsElement,
    List.any_eq_true]
  exact ⟨fun both => ⟨both.1, both.2⟩, fun needs => ⟨needs.unsupplied, needs.element⟩⟩

instance (m : Method) (pragma : Text) : Decidable (m.Needs pragma) :=
  decidable_of_iff _ needsBinding_iff

theorem declares_iff {config : Config} {m : Method} {declaration : Node} :
    m.Declares config declaration ↔ declaration = m.binding config := by
  have render : m.name? = some config.renderMethod ↔
      m.computed = false ∧ m.key.form = .identifier config.renderMethod := by
    rw [name?, ← Node.identifierName?_eq_some_iff]
    cases m.computed <;> simp
  rw [binding, factory]
  constructor
  · rintro (⟨plain, key⟩ | other)
    · rw [if_pos (render.mpr ⟨plain, key⟩)]
    · rw [if_neg (mt render.mp other)]
  · rintro rfl
    split
    · rename_i own
      exact .arguments (render.mp own).1 (render.mp own).2
    · rename_i other
      exact .component (mt render.mpr other)

end Method

namespace Binding

/-- A tree and the tree with the declarations that its methods need. -/
inductive Injected (config : Config) : Node → Node → Prop
  | other {place : Place} {form : Form Node} {f : Node → Node} :
      (∀ m, Method.ofNode? ⟨place, form⟩ = some m → ¬ m.Needs config.pragma) →
      (∀ c ∈ form.children, Injected config c (f c)) →
      Injected config ⟨place, form⟩ ⟨place, form.map f⟩
  | objectMethod {place bodyPlace : Place} {key declaration : Node} {params statements : List Node}
      {computed : Bool} {f : Node → Node} :
      Method.Needs ⟨place, key, params, ⟨bodyPlace, .block statements⟩, computed⟩ config.pragma →
      Method.Declares config ⟨place, key, params, ⟨bodyPlace, .block statements⟩, computed⟩
        declaration →
      (∀ c ∈ key :: params ++ statements, Injected config c (f c)) →
      Injected config
        ⟨place, .objectMethod key params ⟨bodyPlace, .block statements⟩ computed⟩
        ⟨place, .objectMethod (f key) (params.map f)
          ⟨bodyPlace, .block (declaration :: statements.map f)⟩ computed⟩
  | classMethod {place bodyPlace : Place} {key declaration : Node}
      {params statements decorators : List Node} {kind : Text} {isStatic computed : Bool}
      {f : Node → Node} :
      Method.Needs ⟨place, key, params, ⟨bodyPlace, .block statements⟩, computed⟩ config.pragma →
      Method.Declares config ⟨place, key, params, ⟨bodyPlace, .block statements⟩, computed⟩
        declaration →
      (∀ c ∈ key :: params ++ statements ++ decorators, Injected config c (f c)) →
      Injected config
        ⟨place, .classMethod key params ⟨bodyPlace, .block statements⟩ kind isStatic computed
          decorators⟩
        ⟨place, .classMethod (f key) (params.map f)
          ⟨bodyPlace, .block (declaration :: statements.map f)⟩ kind isStatic computed
          (decorators.map f)⟩

/-- A visit of a node: the node that it leaves and the methods that it changes, in their order. The
parts that are visited are those of the node as the visit has changed it. -/
inductive Visits (config : Config) : Node → Node → List Method → Prop
  | pass {place : Place} {form : Form Node} {f : Node → Node} {found : Node → List Method} :
      (∀ m, Method.ofNode? ⟨place, form⟩ = some m → ¬ m.Needs config.pragma) →
      (∀ c ∈ form.children, Visits config c (f c) (found c)) →
      Visits config ⟨place, form⟩ ⟨place, form.map f⟩ (form.children.flatMap found)
  | change {place : Place} {form : Form Node} {m : Method} {declaration : Node} {f : Node → Node}
      {found : Node → List Method} :
      Method.ofNode? ⟨place, form⟩ = some m → m.Needs config.pragma →
      m.Declares config declaration →
      (∀ c ∈ (prependTo declaration form).children, Visits config c (f c) (found c)) →
      Visits config ⟨place, form⟩ ⟨place, (prependTo declaration form).map f⟩
        (m :: (prependTo declaration form).children.flatMap found)

section Decisions

variable {config : Config} {n : Node} {m : Method}

theorem method?_eq_some_iff :
    method? config n = some m ↔ Method.ofNode? n = some m ∧ m.Needs config.pragma := by
  rw [method?, Option.filter_eq_some_iff, Method.needsBinding_iff]

theorem method?_eq_none_iff :
    method? config n = none ↔ ∀ m, Method.ofNode? n = some m → ¬ m.Needs config.pragma := by
  simp only [method?, Option.filter_eq_none_iff, Method.needsBinding_iff]

theorem method?_eq (config : Config) (n : Node) : method? config n =
    (Method.ofNode? n).filter fun m => decide (m.Needs config.pragma) := by
  rw [method?]
  congr 1
  funext m
  rw [Bool.eq_iff_iff, Method.needsBinding_iff, decide_eq_true_eq]

end Decisions

section Results

variable {config : Config} {n after : Node}

theorem inserted_objectMethod {place bodyPlace : Place} {key : Node} {params statements : List Node}
    {computed : Bool} {m : Method}
    (own : m = ⟨place, key, params, ⟨bodyPlace, .block statements⟩, computed⟩)
    (needs : m.Needs config.pragma) :
    inserted config ⟨place, .objectMethod key params ⟨bodyPlace, .block statements⟩ computed⟩ =
      ⟨place, .objectMethod (inserted config key) (params.map (inserted config))
        ⟨bodyPlace, .block (m.binding config :: statements.map (inserted config))⟩ computed⟩ := by
  subst own
  rw [inserted_of_some (method?_eq_some_iff.mpr ⟨rfl, needs⟩), Form.map, prependTo,
    inserted_block, prepend]

theorem inserted_classMethod {place bodyPlace : Place} {key : Node}
    {params statements decorators : List Node} {kind : Text} {isStatic computed : Bool} {m : Method}
    (own : m = ⟨place, key, params, ⟨bodyPlace, .block statements⟩, computed⟩)
    (needs : m.Needs config.pragma) :
    inserted config
        ⟨place, .classMethod key params ⟨bodyPlace, .block statements⟩ kind isStatic computed
          decorators⟩ =
      ⟨place, .classMethod (inserted config key) (params.map (inserted config))
        ⟨bodyPlace, .block (m.binding config :: statements.map (inserted config))⟩ kind isStatic
        computed (decorators.map (inserted config))⟩ := by
  subst own
  rw [inserted_of_some (method?_eq_some_iff.mpr ⟨rfl, needs⟩), Form.map, prependTo,
    inserted_block, prepend]

/-- There is one result at most. -/
theorem Injected.eq_inserted (h : Injected config n after) : after = inserted config n := by
  induction h with
  | other needless parts ih =>
    rw [inserted_of_none (method?_eq_none_iff.mpr needless)]
    exact congrArg (Node.mk _) (Form.map_congr ih)
  | @objectMethod _ _ key _ params statements _ _ needs declares parts ih =>
    simp only [List.cons_append, List.forall_mem_cons, List.forall_mem_append] at ih
    obtain ⟨own, first, second⟩ := ih
    rw [inserted_objectMethod rfl needs, Method.declares_iff.mp declares, own,
      List.map_congr_left first, List.map_congr_left second]
  | @classMethod _ _ key _ params statements decorators _ _ _ _ needs declares parts ih =>
    simp only [List.cons_append, List.forall_mem_cons, List.forall_mem_append] at ih
    obtain ⟨own, ⟨first, second⟩, third⟩ := ih
    rw [inserted_classMethod rfl needs, Method.declares_iff.mp declares, own,
      List.map_congr_left first, List.map_congr_left second, List.map_congr_left third]

/-- The methods of the tree have blocks for bodies. -/
def HasBlocks (n : Node) : Prop :=
  ∀ k ∈ n.walk, ∀ m, Method.ofNode? k = some m →
    ∃ place statements, m.body = ⟨place, .block statements⟩

/-- A tree whose methods have blocks for bodies has a result. -/
theorem injected_inserted (blocks : HasBlocks n) :
    Injected config n (inserted config n) := by
  induction n using Node.walkInduction with
  | step n ih =>
    have below : ∀ c ∈ n.children, ∀ k ∈ c.walk, Injected config k (inserted config k) :=
      fun c hc k hk => ih c hc k hk fun j hj =>
        blocks j (Node.mem_walk_of_mem_children hc (Node.mem_walk_trans hj hk))
    have part : ∀ c ∈ n.children, Injected config c (inserted config c) :=
      fun c hc => below c hc c (Node.self_mem_walk c)
    cases found : method? config n with
    | none =>
      rw [inserted_of_none found]
      obtain ⟨place, form⟩ := n
      exact .other (method?_eq_none_iff.mp found) part
    | some m =>
      obtain ⟨own, needs⟩ := method?_eq_some_iff.mp found
      obtain ⟨bodyPlace, statements, block⟩ := blocks n (Node.self_mem_walk n) m own
      have inside : ∀ c ∈ statements, Injected config c (inserted config c) := by
        intro c hc
        refine below m.body (Method.body_mem_children own) c (Node.mem_walk_of_mem_children ?_
          (Node.self_mem_walk c))
        rw [block]
        exact hc
      obtain ⟨place, form⟩ := n
      cases form
      case objectMethod key params body computed =>
        cases own
        obtain rfl := block
        rw [inserted_objectMethod rfl needs]
        refine .objectMethod needs (Method.declares_iff.mpr rfl) fun c hc => ?_
        simp only [List.cons_append, List.mem_cons, List.mem_append] at hc
        rcases hc with rfl | first | second
        · exact part c (by simp [Node.children, Form.children])
        · exact part c (by simp [Node.children, Form.children, first])
        · exact inside c second
      case classMethod key params body kind isStatic computed decorators =>
        cases own
        obtain rfl := block
        rw [inserted_classMethod rfl needs]
        refine .classMethod needs (Method.declares_iff.mpr rfl) fun c hc => ?_
        simp only [List.cons_append, List.mem_cons, List.mem_append] at hc
        rcases hc with rfl | (first | second) | third
        · exact part c (by simp [Node.children, Form.children])
        · exact part c (by simp [Node.children, Form.children, first])
        · exact inside c second
        · exact part c (by simp [Node.children, Form.children, third])
      all_goals cases own

/-- A statement that has nothing to be changed can be put in front of a body before the body is
changed or after it. -/
theorem insert_prepend {statement : Node} (kept : insert config statement = (statement, []))
    (body : Node) :
    insert config (prepend statement body) =
      (prepend statement (inserted config body), (insert config body).2) := by
  obtain ⟨place, form⟩ := body
  cases form
  case block | program | classBody =>
    simp [prepend, inserted, insert_eq config ⟨place, _⟩, method?, Method.ofNode?, Form.map,
      Node.children, Form.children, kept]
  all_goals
    simp only [prepend]
    rw [inserted, insert_eq]
    split <;> rfl

theorem inserted_prepend {statement : Node} (kept : insert config statement = (statement, []))
    (body : Node) :
    inserted config (prepend statement body) = prepend statement (inserted config body) :=
  congrArg Prod.fst (insert_prepend kept body)

/-- A declaration is visited like any other statement, and nothing happens there. -/
theorem insert_declaration (config : Config) (m : Method) :
    insert config (m.binding config) = (m.binding config, []) :=
  insert_of_plain config (isElement_binding config m)

/-- The changed method has the parts that it had, with the declaration in one of them. -/
theorem map_inserted_prependTo {statement : Node}
    (kept : insert config statement = (statement, [])) (form : Form Node) :
    (prependTo statement form).map (inserted config) =
      prependTo statement (form.map (inserted config)) := by
  cases form
  case objectMethod | classMethod =>
    simp only [prependTo, Form.map, inserted_prepend kept]
  all_goals rfl

theorem flatMap_insert_prependTo {statement : Node}
    (kept : insert config statement = (statement, [])) (form : Form Node) :
    (prependTo statement form).children.flatMap (fun c => (insert config c).2) =
      form.children.flatMap fun c => (insert config c).2 := by
  cases form
  case objectMethod | classMethod =>
    simp [prependTo, Form.children, insert_prepend kept]
  all_goals rfl

/-- What a visit leaves and finds is what the insertion makes of the tree as it was read. -/
theorem Visits.insert_eq {methods : List Method} (h : Visits config n after methods) :
    insert config n = (after, methods) := by
  induction h with
  | @pass place form f found needless parts ih =>
    have tree : form.map (inserted config) = form.map f :=
      Form.map_congr fun c hc => congrArg Prod.fst (ih c hc)
    have below : form.children.flatMap (fun c => (insert config c).2) =
        form.children.flatMap found :=
      List.flatMap_congr fun c hc => congrArg Prod.snd (ih c hc)
    rw [Binding.insert_eq, method?_eq_none_iff.mpr needless]
    exact Prod.ext (congrArg (Node.mk place) tree) below
  | @change place form m declaration f found own needs declares parts ih =>
    obtain rfl := Method.declares_iff.mp declares
    have kept := insert_declaration config m
    have tree : prependTo (m.binding config) (form.map (inserted config)) =
        (prependTo (m.binding config) form).map f := by
      rw [← map_inserted_prependTo kept]
      exact Form.map_congr fun c hc => congrArg Prod.fst (ih c hc)
    have below : form.children.flatMap (fun c => (insert config c).2) =
        (prependTo (m.binding config) form).children.flatMap found := by
      rw [← flatMap_insert_prependTo kept]
      exact List.flatMap_congr fun c hc => congrArg Prod.snd (ih c hc)
    rw [Binding.insert_eq, method?_eq_some_iff.mpr ⟨own, needs⟩]
    exact Prod.ext (congrArg (Node.mk place) tree) (congrArg (m :: ·) below)

/-- A node that is passed has been visited when its parts have been. -/
theorem visits_of_none (needless : method? config n = none)
    (parts : ∀ c ∈ n.children, Visits config c (inserted config c) (insert config c).2) :
    Visits config n (inserted config n) (insert config n).2 := by
  rw [inserted_of_none needless, Binding.insert_eq, needless]
  obtain ⟨place, form⟩ := n
  exact .pass (method?_eq_none_iff.mp needless) parts

/-- A tree without elements is passed at every node. -/
theorem visits_of_plain (plain : ∀ k ∈ n.walk, k.isElement = false) :
    Visits config n (inserted config n) (insert config n).2 := by
  induction n using Node.induction with
  | step n ih =>
    have below := ((Node.forall_mem_walk_iff n).mp plain).2
    exact visits_of_none (method?_of_plain config plain) fun c hc => ih c hc (below c hc)

theorem visits_prepend {statement body : Node}
    (first : Visits config statement (inserted config statement) (insert config statement).2)
    (below : ∀ k ∈ body.walk, Visits config k (inserted config k) (insert config k).2) :
    Visits config (prepend statement body) (inserted config (prepend statement body))
      (insert config (prepend statement body)).2 := by
  obtain ⟨place, form⟩ := body
  cases form
  case block statements | program statements | classBody statements =>
    refine visits_of_none rfl fun c hc => ?_
    rcases List.mem_cons.mp hc with rfl | later
    · exact first
    · exact below c (Node.mem_walk_of_mem_children later (Node.self_mem_walk c))
  all_goals exact below _ (Node.self_mem_walk _)

/-- Every tree can be visited. -/
theorem visits_inserted (config : Config) (n : Node) :
    Visits config n (inserted config n) (insert config n).2 := by
  induction n using Node.walkInduction with
  | step n ih =>
    have part : ∀ c ∈ n.children, Visits config c (inserted config c) (insert config c).2 :=
      fun c hc => ih c hc c (Node.self_mem_walk c)
    cases found : method? config n with
    | none => exact visits_of_none found part
    | some m =>
      have kept := insert_declaration config m
      have first : Visits config (m.binding config) (inserted config (m.binding config))
          (insert config (m.binding config)).2 := visits_of_plain (isElement_binding config m)
      obtain ⟨own, needs⟩ := method?_eq_some_iff.mp found
      rw [inserted_of_some found, Binding.insert_eq, found, ← map_inserted_prependTo kept]
      obtain ⟨place, form⟩ := n
      dsimp only [Node.children]
      rw [← flatMap_insert_prependTo kept]
      refine .change own needs (Method.declares_iff.mpr rfl) fun c hc => ?_
      rcases mem_children_prependTo hc with old | ⟨body, hb, rfl⟩
      · exact part c old
      · exact visits_prepend first (ih body hb)

theorem injected_iff (blocks : HasBlocks n) :
    Injected config n after ↔ after = inserted config n := by
  refine ⟨Injected.eq_inserted, ?_⟩
  rintro rfl
  exact injected_inserted blocks

theorem visits_iff {methods : List Method} :
    Visits config n after methods ↔ insert config n = (after, methods) := by
  refine ⟨Visits.insert_eq, fun same => ?_⟩
  obtain ⟨rfl, rfl⟩ := Prod.mk.inj same
  exact visits_inserted config n

theorem insert_methods_eq (config : Config) (n : Node) : (insert config n).2 =
    (n.walk.filterMap Method.ofNode?).filter fun m => decide (m.Needs config.pragma) := by
  rw [insert_methods, List.filter_filterMap]
  exact List.filterMap_congr fun k _ => method?_eq config k

end Results

end Binding

/-- The methods that get a binding are those of the program whose first parameter is not the factory
and whose body, as it was read, has an element; they come as a walk meets them. The program keeps
everything and gets a declaration in front of the body of each of them. A visit that changes the
methods when it enters them and then goes on through what it has changed ends with the same tree and
the same methods. -/
theorem insert_changes_methods_in_need {source name : Text} {program : Node}
    (parsed : Grammar.parse source name = .ok program) (config : Config) :
    (Binding.insert config program).2 =
      (program.walk.filterMap Method.ofNode?).filter (fun m => m.Needs config.pragma) ∧
    (∀ after, Binding.Injected config program after ↔ after = (Binding.insert config program).1) ∧
    ∀ after methods, Binding.Visits config program after methods ↔
      (after, methods) = Binding.insert config program := by
  refine ⟨Binding.insert_methods_eq config program, fun after => ?_, fun after methods => ?_⟩
  · exact Binding.injected_iff (Method.body_of_fits (Grammar.parse_fits parsed))
  · rw [Binding.visits_iff, eq_comm]

/-- A method in an attribute in a method, and one that gets the factory. -/
def methodInAttributeSource : Text :=
  "(\x7ba()\x7b<b c=\x7b\x7bd()\x7b<e/>\x7d\x7d\x7d/>\x7d,f(h)\x7b<g/>\x7d\x7d)"

theorem insert_changes_methods_in_need_nested :
    ∃ program after methods, Grammar.parse methodInAttributeSource [] = .ok program ∧
      Binding.Injected {} program after ∧ Binding.Visits {} program after methods ∧
      methods.map Method.name? = [some (Text.ofString "a"), some (Text.ofString "d")] := by
  have checked : ((Grammar.parse methodInAttributeSource []).toOption.any fun program =>
      ((program.walk.filterMap Method.ofNode?).filter fun m => m.Needs "h").map Method.name? =
        [some (Text.ofString "a"), some (Text.ofString "d")]) = true := by decide +kernel
  obtain ⟨program, parsed, checked⟩ := Grammar.ok_of_any checked
  obtain ⟨methods, tree, visit⟩ := insert_changes_methods_in_need parsed {}
  refine ⟨program, (Binding.insert {} program).1, (Binding.insert {} program).2, parsed,
    (tree _).mpr rfl, (visit _ _).mpr rfl, ?_⟩
  rw [methods]
  exact of_decide_eq_true checked

end Lowering

end Hyperscript
