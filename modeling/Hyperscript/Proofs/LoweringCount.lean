import Hyperscript.Proofs.NamespaceGuard

/-!
# The counts of a lowering

A run counts the elements that it lowers and those whose properties have to be merged. Before it,
bindings are inserted into methods, which brings in no element and changes none in what decides
whether it needs the helper. So the numbers are those of the program as it was read.
-/
namespace Hyperscript

/-- If each tree has as many nodes of a kind as the tree that it comes from, so have they all. -/
theorem Node.countP_flatMap_walk {test : Node → Bool} {f : Node → Node} {ns : List Node}
    (each : ∀ n ∈ ns, (f n).walk.countP test = n.walk.countP test) :
    ((ns.map f).flatMap walk).countP test = (ns.flatMap walk).countP test := by
  induction ns with
  | nil => rfl
  | cons n rest ih =>
    simp only [List.map_cons, List.flatMap_cons, List.countP_append]
    rw [each n List.mem_cons_self, ih fun m hm => each m (List.mem_cons_of_mem n hm)]

namespace Lowering

section Insertion

variable {config : Config} {test : Node → Bool}

/-- A binding has no elements. -/
theorem isElement_binding (config : Config) (m : Method) :
    ∀ k ∈ (m.binding config).walk, k.isElement = false := by
  have all : (m.binding config).walk.all (!·.isElement) = true := by
    rw [Method.binding, Method.factory]
    split <;> rfl
  simpa only [List.all_eq_true, Bool.not_eq_true'] using all

/-- A test that only elements pass. -/
def OfElements (test : Node → Bool) : Prop := ∀ n : Node, n.isElement = false → test n = false

theorem OfElements.countP_walk (only : OfElements test) (place : Place) (form : Form Node)
    (other : (⟨place, form⟩ : Node).isElement = false) :
    (⟨place, form⟩ : Node).walk.countP test = (form.children.flatMap Node.walk).countP test := by
  rw [Node.walk_eq, List.countP_cons, only _ other]
  rfl

theorem OfElements.countP_prepend (only : OfElements test) {statement : Node}
    (none : statement.walk.countP test = 0) (body : Node) :
    (Binding.prepend statement body).walk.countP test = body.walk.countP test := by
  obtain ⟨place, form⟩ := body
  cases form
  case block | program | classBody =>
    rw [Binding.prepend, only.countP_walk _ _ (by rfl), only.countP_walk _ _ (by rfl)]
    simp only [Form.children, List.flatMap_cons, List.countP_append, none, Nat.zero_add]
  all_goals rfl

theorem OfElements.countP_prependTo (only : OfElements test) {statement : Node}
    (none : statement.walk.countP test = 0) (place : Place) (form : Form Node) :
    (⟨place, Binding.prependTo statement form⟩ : Node).walk.countP test =
      (⟨place, form⟩ : Node).walk.countP test := by
  cases form
  case objectMethod | classMethod =>
    rw [Binding.prependTo, only.countP_walk _ _ (by rfl), only.countP_walk _ _ (by rfl)]
    simp only [Form.children, List.flatMap_append, List.flatMap_cons, List.countP_append,
      only.countP_prepend none]
  all_goals rfl

theorem isElement_map (f : Node → Node) (place : Place) (form : Form Node) :
    (⟨place, form.map f⟩ : Node).isElement = (⟨place, form⟩ : Node).isElement := by
  cases form <;> rfl

theorem inserted_of_element {n : Node} (element : n.isElement = true) :
    Binding.inserted config n = ⟨n.place, n.form.map (Binding.inserted config)⟩ := by
  apply Binding.inserted_of_none
  obtain ⟨place, form⟩ := n
  cases form <;> first | rfl | cases element

/-- Insertion keeps the number of the elements that pass a test, if each element passes it after the
insertion as before. -/
theorem OfElements.countP_inserted (only : OfElements test)
    (same : ∀ n : Node, n.isElement = true → test (Binding.inserted config n) = test n) (n : Node) :
    (Binding.inserted config n).walk.countP test = n.walk.countP test := by
  induction n using Node.induction with
  | step n ih =>
    let inner : Node := ⟨n.place, n.form.map (Binding.inserted config)⟩
    have own : test inner = test n := by
      cases element : n.isElement with
      | true => rw [← same n element, inserted_of_element element]
      | false => rw [only n element, only inner ((isElement_map _ _ _).trans element)]
    have inside : inner.walk.countP test = n.walk.countP test := by
      have parts : inner.children = n.children.map (Binding.inserted config) :=
        Form.children_map _ n.form
      rw [Node.walk_eq, Node.walk_eq n, List.countP_cons, List.countP_cons, own, parts,
        Node.countP_flatMap_walk ih]
    cases needed : Binding.method? config n with
    | none => rw [Binding.inserted_of_none needed, inside]
    | some m =>
      have none : (m.binding config).walk.countP test = 0 :=
        List.countP_eq_zero.mpr fun k hk => by
          rw [only k (isElement_binding config m k hk)]
          exact Bool.false_ne_true
      rw [Binding.inserted_of_some needed, only.countP_prependTo none, inside]

/-- A question about the kind and the texts of a node has the same answer after the insertion, if it
does not look into the bodies of methods. -/
theorem inserted_ask {β : Type} (ask : Form Node → β)
    (layer : ∀ form : Form Node, ask (form.map (Binding.inserted config)) = ask form)
    (body : ∀ statement (form : Form Node), ask (Binding.prependTo statement form) = ask form)
    (n : Node) : ask (Binding.inserted config n).form = ask n.form := by
  cases needed : Binding.method? config n with
  | none => rw [Binding.inserted_of_none needed, layer]
  | some m => rw [Binding.inserted_of_some needed, body, layer]

theorem inserted_keepsNames (config : Config) : KeepsNames (Binding.inserted config) where
  ofNode n := by
    cases needed : Binding.method? config n with
    | none =>
      have own := Binding.inserted_of_none needed
      rw [own]
      obtain ⟨place, form⟩ := n
      cases form <;> first | rfl | exact congrArg Attribute.spread own.symm
    | some m =>
      have own := Binding.inserted_of_some needed
      rw [own]
      obtain ⟨place, form⟩ := n
      cases form <;> first | exact congrArg Attribute.spread own.symm | cases needed
  jsxName := inserted_ask jsxName? (fun form => by cases form <;> rfl)
    (fun _ form => by cases form <;> rfl)
  string := inserted_ask stringValue? (fun form => by cases form <;> rfl)
    (fun _ form => by cases form <;> rfl)
  tagName := inserted_ask tagName? (fun form => by cases form <;> rfl)
    (fun _ form => by cases form <;> rfl)

theorem isMergeSite_inserted {n : Node} (element : n.isElement = true) :
    isMergeSite config (Binding.inserted config n) = isMergeSite config n := by
  have keeps := inserted_keepsNames config
  have found := ofNode?_map (Binding.inserted config) n.place n.form fun c _ => keeps.ofNode c
  rw [Node.mk_place_form] at found
  rw [isMergeSite, isMergeSite, inserted_of_element element, found, Option.any_map]
  simp only [keeps.length_groups]

variable (config) in
/-- The insertion keeps the number of the elements, and of those that need the helper. -/
theorem countP_bound (n : Node) :
    (bound config n).walk.countP Node.isElement = n.walk.countP Node.isElement ∧
      (bound config n).walk.countP (isMergeSite config) = n.walk.countP (isMergeSite config) := by
  rw [bound]
  split
  · constructor
    · have only : OfElements Node.isElement := fun _ other => other
      apply only.countP_inserted
      intro n element
      rw [inserted_of_element element, isElement_map, Node.mk_place_form]
    · have only : OfElements (isMergeSite config) := fun n other => by
        rw [isMergeSite, ofNode?_eq_none_iff.mpr other]
        rfl
      exact only.countP_inserted (fun n element => isMergeSite_inserted element) n
  · exact ⟨rfl, rfl⟩

end Insertion

section Groups

variable {rule : PropRule} {tag : Descriptor}

theorem split_eq_nil_iff {pending : List Entry} {attributes : List Attribute} :
    PropGroup.split rule tag pending attributes = [] ↔ pending = [] ∧ attributes = [] := by
  induction attributes generalizing pending with
  | nil => cases pending <;> simp [PropGroup.split, PropGroup.close]
  | cons a rest ih =>
    cases a with
    | spread argument => simp [PropGroup.split]
    | named place name value => simp [PropGroup.split, ih]

/-- There is more than one group if there is a spread and something beside it. -/
theorem one_lt_length_split_iff {pending : List Entry} {attributes : List Attribute} :
    1 < (PropGroup.split rule tag pending attributes).length ↔
      (∃ argument, .spread argument ∈ attributes) ∧
        1 < (PropGroup.close pending).length + attributes.length := by
  induction attributes generalizing pending with
  | nil => cases pending <;> simp [PropGroup.split, PropGroup.close]
  | cons a rest ih =>
    cases a with
    | spread argument =>
      have later : (PropGroup.split rule tag [] rest).length = 0 ↔ rest.length = 0 := by
        simp [split_eq_nil_iff]
      have here : ∃ other, Attribute.spread other ∈ .spread argument :: rest :=
        ⟨argument, List.mem_cons_self⟩
      simp only [PropGroup.split, List.length_append, List.length_cons, here, true_and]
      omega
    | named place name value =>
      have spread : (∃ argument, Attribute.spread argument ∈ .named place name value :: rest) ↔
          ∃ argument, Attribute.spread argument ∈ rest := by
        simp
      have closed :
          (PropGroup.close (pending ++ [Attribute.entry rule tag place name value])).length = 1 := by
        cases pending <;> rfl
      rw [PropGroup.split, ih, closed, spread, List.length_cons]
      refine and_congr_right ?_
      rintro ⟨argument, mem⟩
      have some := List.length_pos_of_mem mem
      omega

/-- An element needs the helper if one of the attributes that are left for it is a spread and there
is another beside it. -/
theorem isMergeSite_iff {config : Config} {n : Node} :
    isMergeSite config n = true ↔ ∃ e, Element.ofNode? n = some e ∧
      (∃ argument, .spread argument ∈ (e.head config.customTag).attributes) ∧
        1 < (e.head config.customTag).attributes.length := by
  rw [isMergeSite, Option.any_eq_true]
  refine exists_congr fun e => and_congr_right fun _ => ?_
  rw [decide_eq_true_eq, Element.groups, Head.groups, PropGroup.ofAttributes,
    one_lt_length_split_iff, PropGroup.close, List.length_nil, Nat.zero_add]

end Groups

/-- The reported numbers are those of the program as it was read: the elements of its walk, and
those among them whose attributes fall into several groups, which is where a spread has another
attribute beside it. There is one import if there is such an element and none otherwise, and the
body of the program grows by the imports and nothing else. -/
theorem lower_counts_program {source name : Text} {program : Node}
    (parsed : Grammar.parse source name = .ok program)
    (plain : ∀ n ∈ program.walk, n.isNamespacedName = false) (l : Lowerer) :
    ∃ (lowered : Lowered) (next : Lowerer) (place : Place) (body rest : List Node),
      Workspace.lower.run ⟨program, l⟩ = .ok lowered ⟨lowered.program, next⟩ ∧
      lowered.elements = program.walk.countP Node.isElement ∧
      lowered.mergeSites = program.walk.countP (isMergeSite l.config) ∧
      (∀ n, isMergeSite l.config n = true ↔ ∃ e, Element.ofNode? n = some e ∧
        (∃ argument, .spread argument ∈ (e.head l.config.customTag).attributes) ∧
          1 < (e.head l.config.customTag).attributes.length) ∧
      next.elements = lowered.elements ∧ next.mergeSites = lowered.mergeSites ∧
      lowered.imports.length = (if 0 < lowered.mergeSites then 1 else 0) ∧
      program = ⟨place, .program body⟩ ∧ lowered.program = ⟨place, .program rest⟩ ∧
      rest.length = body.length + lowered.imports.length := by
  have none : program.walk.find? Node.isNamespacedName = none := by
    simpa only [List.find?_eq_none, Bool.not_eq_true] using plain
  obtain ⟨lowered, next, result, ran⟩ := Workspace.run_lower_parsed (w := ⟨program, l⟩) parsed none
  obtain ⟨helper, same, _, result', -, imports, tree, elements, sites⟩ := lower_ok plain l
  cases result.symm.trans result'
  obtain ⟨-, nextElements, nextSites, -⟩ := Workspace.lower_leaves result
  obtain ⟨place, body, rfl⟩ := Grammar.parse_program parsed
  obtain ⟨allElements, allSites⟩ := countP_bound l.config ⟨place, .program body⟩
  have root : lowered.program = ⟨place, .program (lowered.imports.map Helper.declaration ++
      (body.map (bound l.config)).map (pureLowering l.config helper))⟩ := by
    rw [tree, bound_program, pureLowering_of_not_element l.config helper rfl]
    rfl
  refine ⟨lowered, next, place, body, _, ran, elements.trans allElements, sites.trans allSites,
    fun n => isMergeSite_iff, nextElements, nextSites, ?_, rfl, root, ?_⟩
  · have some : (bound l.config ⟨place, .program body⟩).walk.any (isMergeSite l.config) = true ↔
        0 < lowered.mergeSites := by
      rw [sites, List.countP_pos_iff, List.any_eq_true]
    simp only [imports, some]
    split <;> rfl
  · simp only [List.length_append, List.length_map]
    omega

/-- A method with three elements. The spread of the custom tag is alone once its target is gone. -/
def slotSource : Text :=
  "(\x7brender() \x7breturn <a \x7b...b\x7d c='d'><i/><anyslot is='e' \x7b...f\x7d/></a>\x7d\x7d)"

theorem slotSource_parses :
    ∃ program, Grammar.parse slotSource [] = .ok program ∧
      (∀ n ∈ program.walk, n.isNamespacedName = false) ∧
      program.walk.countP Node.isElement = 3 ∧ program.walk.countP (isMergeSite {}) = 1 := by
  have checked : ((Grammar.parse slotSource []).toOption.any fun program =>
      program.walk.all (!·.isNamespacedName) &&
        (program.walk.countP Node.isElement = 3 : Bool) &&
        (program.walk.countP (isMergeSite {}) = 1 : Bool)) = true := by decide +kernel
  obtain ⟨program, parsed, checked⟩ := Grammar.ok_of_any checked
  simp only [Bool.and_eq_true, List.all_eq_true, Bool.not_eq_true', decide_eq_true_eq] at checked
  exact ⟨program, parsed, checked.1.1, checked.1.2, checked.2⟩

theorem lower_counts_program_slot :
    ∃ program lowered next,
      Grammar.parse slotSource [] = .ok program ∧
      Workspace.lower.run ⟨program, .new {} { verbose := true }⟩ =
        .ok lowered ⟨lowered.program, next⟩ ∧
      lowered.elements = 3 ∧ lowered.mergeSites = 1 ∧ lowered.imports.length = 1 := by
  obtain ⟨program, parsed, plain, three, one⟩ := slotSource_parses
  obtain ⟨lowered, next, _, _, _, ran, elements, sites, -, -, -, imports, -⟩ :=
    lower_counts_program parsed plain (.new {} { verbose := true })
  have single : lowered.mergeSites = 1 := sites.trans one
  rw [single] at imports
  exact ⟨program, lowered, next, parsed, ran, elements.trans three, single, imports⟩

end Lowering

end Hyperscript
