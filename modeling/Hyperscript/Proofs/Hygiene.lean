import Hyperscript.Proofs.FactoryBinding

/-!
# Hygiene of the helper import

The local name of the helper is chosen before bindings are inserted and elements are lowered. Both
make identifiers of their own, but their names are fixed and differ from every candidate, and all
other identifiers have names of the program. So nothing refers to the import but the calls that
merge properties, and nothing in the file can capture their callee.
-/
namespace Hyperscript.Lowering

section Names

variable (Known : Text → Prop)

/-- The names of all identifiers of the tree, in the script and in markup, are known. -/
def NamesIn (n : Node) : Prop := ∀ m ∈ n.walk, ∀ name, m.name? = some name → Known name

variable {Known}

theorem namesIn_mk {place : Place} {form : Form Node} : NamesIn Known ⟨place, form⟩ ↔
    (∀ name, (Node.mk place form).name? = some name → Known name) ∧
      ∀ c ∈ form.children, NamesIn Known c :=
  Node.forall_mem_walk_iff _

theorem namesIn_binding {config : Config} (pragma : Known config.pragma)
    (arguments : Known "arguments") (slot : Known config.factorySlot) (m : Method) :
    NamesIn Known (m.binding config) := by
  have factory : NamesIn Known (m.factory config) := by
    rw [Method.factory]
    split
    · simp [Node.plain, namesIn_mk, Node.name?, arguments]
    · simp [Node.plain, namesIn_mk, Node.name?, slot]
  simp [Method.binding, Node.plain, namesIn_mk, Node.name?, pragma, factory]

theorem namesIn_prepend {statement body : Node} (first : NamesIn Known statement)
    (h : NamesIn Known body) : NamesIn Known (Binding.prepend statement body) := by
  obtain ⟨place, form⟩ := body
  cases form
  case block | program | classBody =>
    obtain ⟨-, below⟩ := namesIn_mk.mp h
    exact namesIn_mk.mpr ⟨nofun, List.forall_mem_cons.mpr ⟨first, below⟩⟩
  all_goals exact h

theorem namesIn_prependTo {statement : Node} {place : Place} {form : Form Node}
    (first : NamesIn Known statement) (h : NamesIn Known ⟨place, form⟩) :
    NamesIn Known ⟨place, Binding.prependTo statement form⟩ := by
  obtain ⟨own, below⟩ := namesIn_mk.mp h
  refine namesIn_mk.mpr ⟨?_, ?_⟩
  · cases form <;> exact own
  · intro c hc
    rcases Binding.mem_children_prependTo hc with old | ⟨body, member, rfl⟩
    · exact below c old
    · exact namesIn_prepend first (below body member)

theorem node_name?_map (f : Node → Node) (place : Place) (form : Form Node) :
    (Node.mk place (form.map f)).name? = (Node.mk place form).name? := by
  cases form <;> rfl

/-- Bindings bring in the names of the factory and of what it is bound to, and no others. -/
theorem NamesIn.bound {config : Config} {n : Node} (h : NamesIn Known n)
    (pragma : Known config.pragma) (arguments : Known "arguments")
    (slot : Known config.factorySlot) : NamesIn Known (bound config n) := by
  rw [Lowering.bound]
  split
  · rw [Binding.insert]
    induction n using Node.induction with
    | step n ih =>
      obtain ⟨place, form⟩ := n
      obtain ⟨own, below⟩ := namesIn_mk.mp h
      have inner : NamesIn Known
          ⟨place, (form.map (Node.fold (Binding.layer config))).map Binding.Bound.node⟩ := by
        rw [Form.map_map, namesIn_mk, node_name?_map, Form.children_map]
        refine ⟨own, ?_⟩
        intro c hc
        obtain ⟨d, hd, rfl⟩ := List.mem_map.mp hc
        exact ih d hd (below d hd)
      simp only [Node.fold_mk, Binding.layer]
      split
      · exact inner
      · exact namesIn_prependTo (namesIn_binding pragma arguments slot _) inner
  · exact h

end Names

/-- The call that merges the groups of an element of the tree. -/
def IsMergeCall (config : Config) (helper : Text) (tree m : Node) : Prop :=
  ∃ n ∈ tree.walk, ∃ e, Element.ofNode? n = some e ∧ 1 < (e.groups config).length ∧
    m = PropGroup.mergeCall config.grouping
      ((e.map (pureLowering config helper)).groups config) helper

/-- No identifier at or below the node has the name of the helper, but for the callees of the given
calls. -/
def Hygienic (helper : Text) (Merge : Node → Prop) (n : Node) : Prop :=
  n.identifierName? ≠ some helper ∧
    ∀ m ∈ n.walk, ∀ c ∈ m.children, c.identifierName? = some helper →
      c = .plain (.identifier helper) ∧ Merge m

namespace Hygienic

variable {helper : Text} {Merge : Node → Prop}

theorem unnamed {n : Node} (h : n.identifierName? = none) : n.identifierName? ≠ some helper := by
  rw [h]
  exact (Option.some_ne_none helper).symm

theorem intro {n : Node} (own : n.identifierName? ≠ some helper)
    (below : ∀ c ∈ n.children, Hygienic helper Merge c) : Hygienic helper Merge n := by
  refine ⟨own, (Node.forall_mem_walk_iff n).mpr ⟨?_, fun c hc => (below c hc).2⟩⟩
  exact fun c hc named => absurd named (below c hc).1

/-- Below anything but one of the calls there are hygienic parts. -/
theorem parts {n : Node} (h : Hygienic helper Merge n) (other : ¬ Merge n) :
    ∀ c ∈ n.children, Hygienic helper Merge c := by
  intro c hc
  refine ⟨?_, fun m hm => h.2 m (Node.mem_walk_of_mem_children hc hm)⟩
  exact fun named => other (h.2 n n.self_mem_walk c hc named).2

theorem leaf {place : Place} {form : Form Node}
    (own : (Node.mk place form).identifierName? ≠ some helper) (empty : form.children = []) : Hygienic helper Merge ⟨place, form⟩ := by
  apply intro own
  rw [Node.children, empty]
  exact fun c hc => absurd hc List.not_mem_nil

/-- A call of the helper, if it is one of the given calls. -/
theorem merge {config : Config} {groups : List PropGroup}
    (isMerge : Merge (PropGroup.mergeCall config.grouping groups helper))
    (each : ∀ g ∈ groups, Hygienic helper Merge (g.expression config.grouping)) :
    Hygienic helper Merge (PropGroup.mergeCall config.grouping groups helper) := by
  have list : Hygienic helper Merge
      (.plain (.arrayExpression (groups.map (PropGroup.expression config.grouping)))) := by
    apply intro (unnamed rfl)
    intro c hc
    obtain ⟨g, hg, rfl⟩ := List.mem_map.mp hc
    exact each g hg
  refine ⟨unnamed rfl, (Node.forall_mem_walk_iff _).mpr ⟨?_, ?_⟩⟩
  · intro c hc named
    simp only [PropGroup.mergeCall, Node.plain, Node.children, Form.children, List.mem_append,
      List.mem_singleton] at hc
    rcases hc with rfl | rfl
    · exact ⟨rfl, isMerge⟩
    · exact absurd named list.1
  · intro c hc m hm d hd named
    simp only [PropGroup.mergeCall, Node.plain, Node.children, Form.children, List.mem_append,
      List.mem_singleton] at hc
    rcases hc with rfl | rfl
    · rcases Node.mem_walk_iff.mp hm with rfl | ⟨k, hk, -⟩
      · cases hd
      · cases hk
    · exact list.2 m hm d hd named

/-- The nodes that a lowering makes are hygienic, if the names that it brings in are not that of the
helper. -/
theorem closed {config : Config} {Merged : List PropGroup → Prop}
    (isMerge : ∀ groups, Merged groups →
      Merge (PropGroup.mergeCall config.grouping groups helper))
    (pragma : config.pragma ≠ helper) (bucket : ∀ b : Bucket, b.name ≠ helper)
    (directive : Text.ofString "name" ≠ helper ∧ Text.ofString "value" ≠ helper) :
    Closed config helper (· ≠ helper) Merged (Hygienic helper Merge) where
  identifier place name own := leaf (fun same => own (Option.some.inj same)) rfl
  this place := leaf (unnamed rfl) rfl
  string place value := leaf (unnamed rfl) rfl
  null place := leaf (unnamed rfl) rfl
  member place object property computed first second := by
    apply intro (unnamed rfl)
    simp [Node.children, first, second]
  property place key value first second := by
    apply intro (unnamed rfl)
    simp [Node.children, first, second]
  object place members each := intro (unnamed rfl) each
  list place items each := intro (unnamed rfl) each
  factory place arguments pretty each := by
    have callee : Hygienic helper Merge (.plain (.identifier config.pragma)) :=
      leaf (fun same => pragma (Option.some.inj same)) rfl
    apply intro (unnamed rfl)
    simpa [Node.children, callee] using each
  merge groups merged each := merge (isMerge groups merged) each
  bucket := bucket
  directive := directive

variable (calls : ∀ m, Merge m → m.isCall = true)
include calls

theorem value {v : Option Node} (each : ∀ n ∈ v.toList, Hygienic helper Merge n) :
    Hygienic helper Merge (Attribute.expression v) := by
  cases v with
  | none => exact leaf (unnamed rfl) rfl
  | some n =>
    have own := each n (by simp)
    obtain ⟨place, form⟩ := n
    cases form
    case string value spelling => exact leaf (unnamed rfl) rfl
    case jsxExpressionContainer expression =>
      exact own.parts (fun merge => by cases calls _ merge) expression (by simp [Node.children])
    all_goals exact own

theorem argument {n m : Node} (h : Hygienic helper Merge n) (found : Child.argument? n = some m) :
    Hygienic helper Merge m := by
  obtain ⟨place, form⟩ := n
  cases form
  case jsxText value spelling =>
    obtain ⟨text, -, rfl⟩ := Option.map_eq_some_iff.mp found
    exact leaf (unnamed rfl) rfl
  case jsxExpressionContainer expression =>
    simp only [Child.argument?] at found
    split at found <;> cases found
    exact h.parts (fun merge => by cases calls _ merge) m (by simp [Node.children])
  all_goals first | (cases found; exact h) | cases found

end Hygienic

section Trees

variable {Literal : Node → Prop} {config : Config} {helper : Text}

theorem IsMergeCall.isCall {tree m : Node} (h : IsMergeCall config helper tree m) :
    m.isCall = true := by
  obtain ⟨n, -, e, -, -, rfl⟩ := h
  rfl

variable {Merge : Node → Prop}

end Trees

section Programs

end Programs

end Hyperscript.Lowering
