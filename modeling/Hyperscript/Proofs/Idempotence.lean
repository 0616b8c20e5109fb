import Hyperscript.Proofs.FactoryScope
import Hyperscript.Proofs.NamespaceGuard

/-!
# Lowering again

A lowering removes every element at every depth. A tree without markup has nothing for any step of a
lowering to do: no method needs a binding, no element is counted and no helper asked for. So a second
run finds a program that it leaves as it is, whatever the two runs are configured for.
-/
namespace Hyperscript.Lowering

section Trees

variable {n : Node}

theorem isElement_of_isMarkup (h : n.isMarkup = false) : n.isElement = false := by
  obtain ⟨place, form⟩ := n
  cases form <;> first | rfl | cases h

theorem isNamespacedName_of_isMarkup (h : n.isMarkup = false) : n.isNamespacedName = false := by
  obtain ⟨place, form⟩ := n
  cases form <;> first | rfl | cases h

theorem isMergeSite_of_not_element (config : Config) (h : n.isElement = false) :
    isMergeSite config n = false := by
  rw [isMergeSite, ofNode?_eq_none_iff.mpr h]
  rfl

theorem canLower_of_not_element (config : Config) (h : n.isElement = false) :
    canLower config n = true := by
  obtain ⟨place, form⟩ := n
  cases form <;> first | rfl | cases h

theorem Method.body_mem_children {m : Method} (found : Method.ofNode? n = some m) :
    m.body ∈ n.children := by
  obtain ⟨place, form⟩ := n
  cases form <;> cases found <;> simp [Node.children]

variable (config : Config)

/-- Only a method with an element in its body needs a binding. -/
theorem Binding.method?_of_plain (plain : ∀ m ∈ n.walk, m.isElement = false) :
    Binding.method? config n = none := by
  rw [Binding.method?, Option.filter_eq_none_iff]
  intro m found
  have body : m.body.containsElement = false := by
    rw [Node.containsElement, List.any_eq_false]
    intro k hk
    simpa using plain k (Node.mem_walk_of_mem_children (Method.body_mem_children found) hk)
  simp [Method.needsBinding, body]

theorem Binding.insert_of_plain (plain : ∀ m ∈ n.walk, m.isElement = false) :
    Binding.insert config n = (n, []) := by
  have each : ∀ k ∈ n.walk, Binding.method? config k = none := fun k hk =>
    Binding.method?_of_plain config fun m hm => plain m (Node.mem_walk_trans hm hk)
  have kept : Binding.inserted config n = n := by
    clear each
    induction n using Node.induction with
    | step n ih =>
      have below := ((Node.forall_mem_walk_iff n).mp plain).2
      have parts : n.form.map (Binding.inserted config) = n.form :=
        (Form.map_congr fun c hc => ih c hc (below c hc)).trans (Form.map_id n.form)
      rw [Binding.inserted_of_none (Binding.method?_of_plain config plain), parts,
        Node.mk_place_form]
  refine Prod.ext kept ?_
  rw [Binding.insert_methods]
  exact List.filterMap_eq_nil_iff.mpr each

theorem bound_of_plain (plain : ∀ m ∈ n.walk, m.isElement = false) : bound config n = n := by
  rw [bound, Binding.insert_of_plain config plain, ite_self]

theorem injected_of_plain (plain : ∀ m ∈ n.walk, m.isElement = false) :
    Workspace.injected config n = [] := by
  rw [Workspace.injected, Binding.insert_of_plain config plain, ite_self]

theorem Registry.apply_nothing (used : List Text) : (Registry.mk used []).apply n = n := by
  obtain ⟨place, form⟩ := n
  cases form <;> rfl

end Trees

/-- A run over a program without markup changes nothing and has nothing to report. -/
theorem Workspace.run_lower_plain {program : Node} {place : Place} {body : List Node}
    (root : program = ⟨place, .program body⟩) (plain : ∀ n ∈ program.walk, n.isMarkup = false)
    (l : Lowerer) :
    ∃ (again : Lowered) (after : Lowerer),
      Workspace.lower.run ⟨program, l⟩ = .ok again ⟨program, after⟩ ∧
      again.program = program ∧ again.imports = [] ∧ again.injected = [] ∧
      again.elements = 0 ∧ again.mergeSites = 0 ∧ after.elements = 0 ∧ after.mergeSites = 0 := by
  have names : ∀ n ∈ program.walk, n.isNamespacedName = false :=
    fun n hn => isNamespacedName_of_isMarkup (plain n hn)
  have elements : ∀ n ∈ program.walk, n.isElement = false :=
    fun n hn => isElement_of_isMarkup (plain n hn)
  have sites : ∀ n ∈ program.walk, isMergeSite l.config n = false :=
    fun n hn => isMergeSite_of_not_element l.config (elements n hn)
  have needless : bound l.config program = program := bound_of_plain l.config elements
  obtain ⟨helper, again, after, result, -, imports, tree, lowered, merged⟩ := lower_ok names l
  obtain ⟨injected, counted, countedSites, -⟩ := Workspace.lower_leaves result
  rw [needless] at imports tree lowered merged
  have nothing : again.imports = [] := by
    rw [imports, if_neg]
    simpa using sites
  have kept : again.program = program := by
    rw [tree, nothing, Registry.apply_nothing, pureLowering_of_plain elements]
  have noElement : again.elements = 0 := by
    rw [lowered, List.countP_eq_zero]
    simpa using elements
  have noSite : again.mergeSites = 0 := by
    rw [merged, List.countP_eq_zero]
    simpa using sites
  have ran : ∃ lowered next, l.lower program = .ok (lowered, next) ∧
      Workspace.lower.run ⟨program, l⟩ = .ok lowered ⟨lowered.program, next⟩ := by
    refine Workspace.run_lower (w := ⟨program, l⟩) root ?_ ?_ ?_
    · rw [checkNamespaces, Node.firstBelow_eq_none_iff.mpr names]
    · intro k hk
      rw [canBind, Binding.method?_of_plain l.config fun m hm =>
        elements m (Node.mem_walk_trans hm hk)]
      rfl
    · rw [needless]
      exact fun k hk => canLower_of_not_element l.config (elements k hk)
  obtain ⟨_, _, same, ran⟩ := ran
  rw [result] at same
  cases same
  rw [kept] at ran
  refine ⟨again, after, ran, kept, nothing, ?_, noElement, noSite, ?_, ?_⟩
  · rw [injected, injected_of_plain l.config elements]
  · rw [counted, noElement]
  · rw [countedSites, noSite]

/-- What is left of a parsed program is a program. -/
theorem lowered_program {source name : Text} {program : Node}
    (parsed : Grammar.parse source name = .ok program)
    (plain : ∀ n ∈ program.walk, n.isNamespacedName = false) {l next : Lowerer} {lowered : Lowered}
    (result : l.lower program = .ok (lowered, next)) :
    ∃ place body, lowered.program = ⟨place, .program body⟩ := by
  obtain ⟨helper, _, _, result', -, -, tree, -⟩ := lower_ok plain l
  rw [result] at result'
  cases result'
  obtain ⟨place, body, rfl⟩ := Grammar.parse_program parsed
  rw [tree, bound_program, pureLowering_of_not_element l.config helper rfl]
  exact ⟨_, _, rfl⟩

/-- A second run over what the first has left of a parsed program changes nothing, injects nothing,
imports nothing and counts nothing, whatever lowerer does either run. -/
theorem lower_idempotent {source name : Text} {program : Node}
    (parsed : Grammar.parse source name = .ok program)
    (plain : ∀ n ∈ program.walk, n.isNamespacedName = false) (first : Lowerer) :
    ∃ (lowered : Lowered) (next : Lowerer),
      Workspace.lower.run ⟨program, first⟩ = .ok lowered ⟨lowered.program, next⟩ ∧
      ∀ second : Lowerer, ∃ (again : Lowered) (after : Lowerer),
        Workspace.lower.run ⟨lowered.program, second⟩ = .ok again ⟨lowered.program, after⟩ ∧
        again.program = lowered.program ∧ again.imports = [] ∧ again.injected = [] ∧
        again.elements = 0 ∧ again.mergeSites = 0 ∧ after.elements = 0 ∧ after.mergeSites = 0 := by
  have none : program.walk.find? Node.isNamespacedName = none := by simpa using plain
  obtain ⟨lowered, next, result, ran⟩ :=
    Workspace.run_lower_parsed (w := ⟨program, first⟩) parsed none
  obtain ⟨_, _, result', code⟩ := fits_lowered (Grammar.parse_fits parsed) plain first
  rw [result] at result'
  cases result'
  have markup : ∀ m ∈ lowered.program.walk, m.isMarkup = false :=
    fun m hm => Form.isMarkup_of_isCode (code.forall_isCode (.inl rfl) m hm).1
  obtain ⟨place, body, root⟩ := lowered_program parsed plain result
  exact ⟨lowered, next, ran, Workspace.run_lower_plain root markup⟩

/-- The first run binds a method, lowers an element and imports the helper. -/
def busySource : Text := "(\x7brender(a) \x7breturn <b \x7b...c\x7d d='e'/>\x7d\x7d)"

theorem lower_idempotent_busy :
    ∃ (program : Node) (lowered again : Lowered) (next after : Lowerer),
      Grammar.parse busySource [] = .ok program ∧
      Workspace.lower.run ⟨program, .new {} { verbose := true }⟩ =
        .ok lowered ⟨lowered.program, next⟩ ∧
      lowered.imports.length = 1 ∧ lowered.injected.length = 1 ∧ lowered.elements = 1 ∧
      Workspace.lower.run ⟨lowered.program, .new { grouping := .flat } { verbose := false }⟩ =
        .ok again ⟨lowered.program, after⟩ ∧
      again.imports = [] ∧ again.injected = [] ∧ again.elements = 0 := by
  have checked : ((Grammar.parse busySource []).toOption.any fun program =>
      program.walk.all (!·.isNamespacedName) &&
        match Workspace.lower.run ⟨program, .new {} { verbose := true }⟩ with
        | .ok lowered _ => lowered.imports.length = 1 && lowered.injected.length = 1 &&
          lowered.elements = 1
        | .error .. => false) = true := by decide +kernel
  obtain ⟨program, parsed, checked⟩ := Grammar.ok_of_any checked
  simp only [Bool.and_eq_true, List.all_eq_true, Bool.not_eq_true'] at checked
  obtain ⟨plain, counts⟩ := checked
  obtain ⟨lowered, next, ran, later⟩ :=
    lower_idempotent parsed plain (.new {} { verbose := true })
  obtain ⟨again, after, ranAgain, -, imports, injected, elements, -⟩ :=
    later (.new { grouping := .flat } { verbose := false })
  rw [ran] at counts
  simp only [Bool.and_eq_true, decide_eq_true_eq] at counts
  exact ⟨program, lowered, again, next, after, parsed, ran, counts.1.1, counts.1.2, counts.2,
    ranAgain, imports, injected, elements⟩

end Hyperscript.Lowering
