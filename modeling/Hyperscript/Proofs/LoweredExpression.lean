import Hyperscript.Proofs.FactoryScope
import Hyperscript.Proofs.ParsedExpression

/-!
# Expressions in lowered programs

A statement, an arrow function or a logical operation of a lowered program is what one of the program
has become, and its parts are expressions as they were before: a lowering changes elements only, and
calls of the factory are what these become.
-/
namespace Hyperscript.Lowering

section Trees

variable {config : Config} {helper : Text}

/-- Nothing that is asked of a layer, whatever its parts, is changed by the lowering of a program,
unless an element and a call are told apart. -/
theorem image_ask {β : Type} (ask : Form Node → β)
    (layer : ∀ (f : Node → Node) (form : Form Node), ask (form.map f) = ask form)
    (methods : ∀ statement form, ask (Binding.prependTo statement form) = ask form)
    (calls : ∀ name attributes children closes callee arguments pretty,
      ask (.jsxElement name attributes children closes) = ask (.call callee arguments pretty))
    (n : Node) : ask (image config helper n).form = ask n.form :=
  (pureLowering_ask config helper ask (layer _) calls _).trans (bound_ask ask layer methods n)

theorem isSome_ofNode?_image (n : Node) :
    (Method.ofNode? (image config helper n)).isSome = (Method.ofNode? n).isSome := by
  rw [image, isSome_ofNode?_pureLowering, bound]
  split
  · exact isSome_ofNode?_inserted config n
  · rfl

/-- A layer that is no method and no element only has its parts changed. -/
theorem form_image {n : Node} (method : Method.ofNode? n = none) (element : n.isElement = false) :
    (image config helper n).form = n.form.map (image config helper) := by
  have same : (bound config n).isElement = false := by
    rw [bound_of_not_method method]
    obtain ⟨place, form⟩ := n
    cases form <;> first | rfl | cases element
  rw [image, pureLowering_form config helper same, bound_of_not_method method, Form.map_map]
  rfl

theorem keepsLayers_image (config : Config) (helper : Text) :
    Node.KeepsLayers (image config helper) where
  layer n own element := by
    refine form_image ?_ element
    obtain ⟨place, form⟩ := n
    cases form <;> first | rfl | exact absurd own id
  name := identifierName?_image
  block n := image_ask (fun form => Node.isBlock ⟨.nowhere, form⟩)
    (fun _ form => by cases form <;> rfl) (fun _ form => by cases form <;> rfl)
    (fun _ _ _ _ _ _ _ => rfl) n
  classBody n := image_ask (fun form => Node.isClassBody ⟨.nowhere, form⟩)
    (fun _ form => by cases form <;> rfl) (fun _ form => by cases form <;> rfl)
    (fun _ _ _ _ _ _ _ => rfl) n
  declaration n := image_ask (fun form => Node.isDeclaration ⟨.nowhere, form⟩)
    (fun _ form => by cases form <;> rfl) (fun _ form => by cases form <;> rfl)
    (fun _ _ _ _ _ _ _ => rfl) n

/-- What an element becomes starts with the name of the factory. -/
theorem leads_image_element {Name : Text → Prop} (pragma : Name config.pragma) (e : Node)
    (element : e.isElement = true) : (image config helper e).Leads Name := by
  obtain ⟨arguments, pretty, same⟩ : ∃ arguments pretty, image config helper e = _ :=
    image_element element
  rw [same]
  refine .operand trivial rfl (.leaf trivial ?_ rfl)
  rintro name ⟨⟩
  exact pragma

theorem firstName?_image_element (e : Node) (element : e.isElement = true) :
    (image config helper e).form.firstName? = none := by
  obtain ⟨arguments, pretty, same⟩ : ∃ arguments pretty, image config helper e = _ :=
    image_element element
  rw [same]
  rfl

theorem isOperand_image {n : Node} (h : n.IsOperand) : (image config helper n).IsOperand := by
  have leads (e : Node) (element : e.isElement = true) :
      (image config helper e).Leads fun _ => True := leads_image_element trivial e element
  exact (keepsLayers_image config helper).isOperand leads firstName?_image_element h

/-- A layer of a parsed tree keeps to what it asks for, if the name of the factory starts like that
of an expression. -/
theorem suits_image (pragma : config.pragma.opening = .other) {form : Form Node}
    (h : form.Suits IsPlainName) :
    (form.map (image config helper)).Suits fun name => name.opening = .other :=
  (keepsLayers_image config helper).suits (leads_image_element pragma) firstName?_image_element
    (fun _ plain => Text.opening_of_isName plain.1 plain.2) h

end Trees

section Programs

/-- The kinds of nodes that the imports of helpers are made of. -/
def IsImported : Form Node → Prop
  | .importDeclaration .. | .importSpecifier .. | .importDefault _ | .identifier _ | .string .. => True
  | _ => False

theorem isImported_declaration (h : Helper) : ∀ k ∈ h.declaration.walk, IsImported k.form := by
  rw [Helper.declaration, Helper.specifier]
  split <;> simp [Node.plain, Node.walk_eq, Node.children, IsImported]

/-- The kinds of nodes that a lowered program has of its own. -/
def IsNew (form : Form Node) : Prop := IsMade form ∨ IsInserted form ∨ IsImported form

variable {source name : Text} {program : Node} {l next : Lowerer} {lowered : Lowered}

/-- What is lowered has no namespaced names. -/
theorem isNamespacedName_of_lower (result : l.lower program = .ok (lowered, next)) :
    ∀ n ∈ program.walk, n.isNamespacedName = false := by
  obtain ⟨_, checked, -⟩ := Grammar.ok_of_bind result
  rw [checkNamespaces] at checked
  split at checked
  · cases checked
  · exact Node.firstBelow_eq_none_iff.mp ‹_›

/-- A layer of a lowered program is one of the program, with its parts lowered, unless it is of a kind
that is new there or a method. -/
theorem exists_layer_of_lowered (parsed : Grammar.parse source name = .ok program)
    (result : l.lower program = .ok (lowered, next)) {m : Node} (hm : m ∈ lowered.program.walk)
    (new : ¬ IsNew m.form) (method : Method.ofNode? m = none) :
    ∃ helper, ∃ k ∈ program.walk, m.form = k.form.map (image l.config helper) := by
  have plain := isNamespacedName_of_lower result
  have fits := (Grammar.parse_fits parsed).plain plain
  obtain ⟨helper, _, _, same, -, -, tree, -⟩ := lower_ok plain l
  cases same.symm.trans result
  simp only [IsNew, not_or] at new
  obtain ⟨made, inserted, imported⟩ := new
  obtain ⟨place, body, rfl⟩ := Grammar.parse_program parsed
  rw [← image, image_program, Registry.apply] at tree
  rw [tree] at hm
  refine ⟨helper, ?_⟩
  rcases Node.mem_walk_iff.mp hm with rfl | ⟨c, hc, below⟩
  · exact absurd trivial inserted
  · rcases List.mem_append.mp hc with first | statement
    · obtain ⟨h, -, rfl⟩ := List.mem_map.mp first
      exact absurd (isImported_declaration h m below) imported
    · have inside : m ∈ (image l.config helper ⟨place, .program body⟩).walk := by
        rw [image_program]
        exact Node.mem_walk_of_mem_children statement below
      obtain ⟨k, hk, element, rfl⟩ := exists_of_mem_walk_image fits made inserted inside
      have other : Method.ofNode? k = none := by
        rw [← Option.not_isSome_iff_eq_none, ← isSome_ofNode?_image k, method]
        exact Bool.false_ne_true
      exact ⟨k, hk, form_image other element⟩

/-- The layers of a lowered program that are not new there have the parts they are printed with, if
the name of the factory starts like that of an expression. -/
theorem suits_of_lowered (parsed : Grammar.parse source name = .ok program)
    (result : l.lower program = .ok (lowered, next)) (pragma : l.config.pragma.opening = .other)
    {m : Node} (hm : m ∈ lowered.program.walk) (new : ¬ IsNew m.form)
    (method : Method.ofNode? m = none) : m.form.Suits fun name => name.opening = .other := by
  obtain ⟨helper, k, hk, same⟩ := exists_layer_of_lowered parsed result hm new method
  rw [same]
  exact suits_image pragma (Grammar.parse_suited parsed k hk)

/-- Every node of a lowered program can be printed. -/
theorem print_lowered (parsed : Grammar.parse source name = .ok program)
    (result : l.lower program = .ok (lowered, next)) {m : Node} (hm : m ∈ lowered.program.walk)
    (pretty : Bool) (depth : Nat) : ∃ text, m.print pretty depth = .ok text := by
  obtain ⟨_, _, same, code⟩ :=
    fits_lowered (Grammar.parse_fits parsed) (isNamespacedName_of_lower result) l
  cases same.symm.trans result
  refine m.print_succeeds (fun k hk => ?_) depth
  exact (code.forall_isCode (.inl rfl) k (Node.mem_walk_trans hk hm)).1

end Programs

end Hyperscript.Lowering
