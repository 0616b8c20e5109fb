import Hyperscript.Proofs.LoweredOrigin

/-!
# Scopes of the factory

The calls that elements become refer to the factory by its name. A method that has elements in its
body supplies it there, as its first parameter or by its first statement. An element in the
parameters of a method sees a binding of the method only if the factory is the first of them: what
is inserted into the body does not reach it.
-/
namespace Hyperscript.Lowering

section Trees

variable {config : Config} {helper : Text}

/-- A tree without elements is left as it is. -/
theorem pureLowering_of_plain {n : Node} (plain : ∀ m ∈ n.walk, m.isElement = false) :
    pureLowering config helper n = n := by
  induction n using Node.induction with
  | step n ih =>
    obtain ⟨own, below⟩ := (Node.forall_mem_walk_iff n).mp plain
    have parts : n.form.map (pureLowering config helper) = n.form :=
      (Form.map_congr fun c hc => ih c hc (below c hc)).trans (Form.map_id n.form)
    rw [pureLowering_of_not_element config helper own, parts, Node.mk_place_form]

theorem pureLowering_binding (m : Method) :
    pureLowering config helper (m.binding config) = m.binding config := by
  have code : (m.binding config).Fits (fun _ => True) .absent .code := Node.fits_binding config m
  apply pureLowering_of_plain
  intro k hk
  have own := (code.forall_isCode (.inl rfl) k hk).1
  obtain ⟨place, form⟩ := k
  cases form <;> first | rfl | cases own

theorem identifierName?_pureLowering (n : Node) :
    (pureLowering config helper n).identifierName? = n.identifierName? :=
  pureLowering_ask config helper (fun form => Node.identifierName? ⟨.nowhere, form⟩)
    (fun form => by cases form <;> rfl) (fun _ _ _ _ _ _ _ => rfl) n

theorem identifierName?_bound (n : Node) :
    (bound config n).identifierName? = n.identifierName? := by
  obtain ⟨place, form⟩ := n
  rw [bound]
  split
  · rw [Binding.insert_eq]
    split <;> cases form <;> rfl
  · rfl

variable (config helper)

/-- What a node of a program becomes. -/
def image (n : Node) : Node := pureLowering config helper (bound config n)

variable {config helper}

theorem identifierName?_image (n : Node) :
    (image config helper n).identifierName? = n.identifierName? := by
  rw [image, identifierName?_pureLowering, identifierName?_bound]

theorem ofNode?_pureLowering {k : Node} {m : Method} (found : Method.ofNode? k = some m) :
    Method.ofNode? (pureLowering config helper k) = some
      { m with
        key := pureLowering config helper m.key
        params := m.params.map (pureLowering config helper)
        body := pureLowering config helper m.body } := by
  obtain ⟨place, form⟩ := k
  cases form <;> cases found <;> rw [pureLowering_of_not_element config helper rfl] <;> rfl

/-- A node that is no method only has its parts changed by the insertion of bindings. -/
theorem bound_of_not_method {n : Node} (h : Method.ofNode? n = none) :
    bound config n = ⟨n.place, n.form.map (bound config)⟩ := by
  by_cases binds : config.bindsFactory = true
  · have each : bound config = Binding.inserted config := by
      funext m
      rw [bound, if_pos binds, Binding.inserted]
    rw [each]
    apply Binding.inserted_of_none
    rw [Binding.method?, h]
    rfl
  · have each : bound config = id := by
      funext m
      rw [bound, if_neg binds, id]
    rw [each, Form.map_id, Node.mk_place_form, id]

/-- An element becomes a call of the factory. -/
theorem image_element {e : Node} (h : e.isElement = true) :
    ∃ arguments pretty, image config helper e =
      ⟨e.place, .call (.plain (.identifier config.pragma)) arguments pretty⟩ := by
  obtain ⟨place, form⟩ := e
  cases form <;> simp only [Node.isElement, reduceCtorEq] at h
  rw [image, bound_of_not_method rfl]
  exact ⟨_, _, (pureLowering_compositional config helper).element _ _ rfl⟩

theorem image_program (place : Place) (body : List Node) :
    image config helper ⟨place, .program body⟩ =
      ⟨place, .program (body.map (image config helper))⟩ := by
  rw [image, bound_of_not_method rfl, pureLowering_of_not_element config helper rfl]
  simp [Form.map, image, Function.comp_def]

/-- The first parameter is the factory after the lowering if it was before. -/
theorem receives_of_params {m after : Method} (pragma : Text)
    (params : after.params = m.params.map (image config helper)) :
    after.receives pragma = m.receives pragma := by
  rw [Method.receives, params, List.head?_map, Method.receives]
  cases m.params.head? with
  | none => rfl
  | some p => rw [Option.map_some, Option.bind_some, Option.bind_some, identifierName?_image]

/-- What a method becomes, if bindings are asked for: its parts are changed, and its body starts
with the binding if it needs one. -/
theorem ofNode?_image (binds : config.bindsFactory = true) {k : Node} {m : Method}
    (found : Method.ofNode? k = some m) {place : Place} {statements : List Node}
    (body : m.body = ⟨place, .block statements⟩) :
    Method.ofNode? (image config helper k) = some
      { m with
        key := image config helper m.key
        params := m.params.map (image config helper)
        body := ⟨place, .block ((if m.needsBinding config.pragma then [m.binding config] else []) ++
          statements.map (image config helper))⟩ } := by
  have each : image config helper = pureLowering config helper ∘ Binding.inserted config := by
    funext n
    rw [image, bound, if_pos binds]
    rfl
  have lowered (first : List Node) :
      pureLowering config helper
          ⟨place, .block (first ++ statements.map (Binding.inserted config))⟩ =
        ⟨place, .block (first.map (pureLowering config helper) ++
          statements.map (image config helper))⟩ := by
    rw [pureLowering_of_not_element config helper rfl, each]
    simp [Form.map]
  have start : pureLowering config helper
      (if m.needsBinding config.pragma then
        Binding.prepend (m.binding config) (Binding.inserted config m.body)
      else Binding.inserted config m.body) =
        ⟨place, .block ((if m.needsBinding config.pragma then [m.binding config] else []) ++
          statements.map (image config helper))⟩ := by
    rw [body, Binding.inserted_block]
    split
    · have first := lowered [m.binding config]
      rw [List.map_singleton, pureLowering_binding] at first
      exact first
    · exact lowered []
  rw [← start, each, Function.comp_apply,
    ofNode?_pureLowering (Binding.ofNode?_inserted config found)]
  simp only [List.map_map, Function.comp_apply]

end Trees

section Programs

/-- Imports hold no method. -/
theorem ofNode?_declaration (h : Helper) : ∀ k ∈ h.declaration.walk, Method.ofNode? k = none := by
  rw [Helper.declaration, Helper.specifier]
  split <;> simp [Node.plain, Node.walk_eq, Node.children, Method.ofNode?]

theorem isSome_ofNode?_pureLowering (config : Config) (helper : Text) (n : Node) :
    (Method.ofNode? (pureLowering config helper n)).isSome = (Method.ofNode? n).isSome := by
  have anywhere (m : Node) :
      (Method.ofNode? m).isSome = (Method.ofNode? ⟨.nowhere, m.form⟩).isSome := by
    obtain ⟨place, form⟩ := m
    cases form <;> rfl
  rw [anywhere, anywhere n]
  exact pureLowering_ask config helper (fun form => (Method.ofNode? ⟨.nowhere, form⟩).isSome)
    (fun form => by cases form <;> rfl) (fun _ _ _ _ _ _ _ => rfl) n

/-- A node of a lowered tree is what a node of the tree has become, unless it is of a kind that the
lowering or the insertion of bindings makes. -/
theorem exists_of_mem_walk_image {Literal : Node → Prop} {config : Config} {helper : Text}
    {program k : Node} (fits : program.Fits Literal .plain .code) (made : ¬ IsMade k.form)
    (other : ¬ IsInserted k.form) (h : k ∈ (image config helper program).walk) :
    ∃ source ∈ program.walk, source.isElement = false ∧ k = image config helper source := by
  have origins : HaveOrigins config helper (bound config program) (image config helper program) :=
    haveOrigins_pureLowering (fits.bound config) fun m hm => hm
  obtain ⟨inner, inside, element, rfl⟩ := (origins k h).resolve_left made
  have kept : ¬ IsInserted inner.form := by
    rw [pureLowering_form config helper element] at other
    obtain ⟨place, form⟩ := inner
    cases form <;> exact other
  obtain ⟨source, member, rfl⟩ := exists_of_mem_walk_bound kept inside
  have same : (bound config source).isElement = source.isElement :=
    bound_ask (fun form => Node.isElement ⟨.nowhere, form⟩)
      (fun _ form => by cases form <;> rfl) (fun _ form => by cases form <;> rfl) source
  exact ⟨source, member, same.symm.trans element, rfl⟩

/-- Every method of a lowered program is what a method of the program has become. -/
theorem exists_method_of_lowered {Literal : Node → Prop} {config : Config} {helper : Text}
    {program k : Node} (fits : program.Fits Literal .plain .code)
    (binds : config.bindsFactory = true) (isMethod : (Method.ofNode? k).isSome = true)
    (h : k ∈ (image config helper program).walk) :
    ∃ source ∈ program.walk, (Method.ofNode? source).isSome = true ∧
      k = image config helper source := by
  have kind : ¬ IsMade k.form ∧ ¬ IsInserted k.form := by
    obtain ⟨place, form⟩ := k
    cases form <;> first | exact ⟨id, id⟩ | cases isMethod
  obtain ⟨source, member, -, rfl⟩ := exists_of_mem_walk_image fits kind.1 kind.2 h
  rw [image, isSome_ofNode?_pureLowering, bound, if_pos binds] at isMethod
  exact ⟨source, member, (isSome_ofNode?_inserted config source).symm.trans isMethod, rfl⟩

/-- A method that needs no binding receives the factory, or has no elements in its body. -/
theorem receives_of_needsBinding_eq_false {m : Method} {pragma : Text}
    (needless : m.needsBinding pragma = false) {e : Node} (inside : e ∈ m.body.walk)
    (element : e.isElement = true) : m.receives pragma = true := by
  have contains : m.body.containsElement = true := List.any_eq_true.mpr ⟨e, inside, element⟩
  simpa [Method.needsBinding, contains] using needless

/-- If bindings are asked for, every element becomes a call of the factory, and every method that
has one in its body supplies the factory there: it is the first parameter, or the first statement
binds it. The parameters are those of the method as it was read, so that for an element among them
the method supplies the factory only if it did so before. A lowered program has no other methods. -/
theorem methods_supply_factory {source name : Text} {program : Node}
    (parsed : Grammar.parse source name = .ok program)
    (plain : ∀ n ∈ program.walk, n.isNamespacedName = false) {l : Lowerer}
    (binds : l.config.bindsFactory = true) :
    ∃ (helper : Text) (lowered : Lowered) (next : Lowerer) (place : Place) (body : List Node),
      program = ⟨place, .program body⟩ ∧ l.lower program = .ok (lowered, next) ∧
      lowered.program = ⟨place, .program (lowered.imports.map Helper.declaration ++
        body.map (image l.config helper))⟩ ∧
      (∀ e ∈ program.walk, e.isElement = true → ∃ arguments pretty, image l.config helper e =
        ⟨e.place, .call (.plain (.identifier l.config.pragma)) arguments pretty⟩) ∧
      (∀ k ∈ program.walk, ∀ m, Method.ofNode? k = some m → ∃ after : Method,
        Method.ofNode? (image l.config helper k) = some after ∧
        after.params = m.params.map (image l.config helper) ∧
        after.receives l.config.pragma = m.receives l.config.pragma ∧
        after.statements =
          (if m.needsBinding l.config.pragma then [m.binding l.config] else []) ++
            m.statements.map (image l.config helper) ∧
        ((∃ e ∈ m.body.walk, e.isElement = true) → after.receives l.config.pragma = true ∨
          after.statements.head? = some (m.binding l.config))) ∧
      ∀ k ∈ lowered.program.walk, (Method.ofNode? k).isSome = true →
        ∃ source ∈ program.walk, (Method.ofNode? source).isSome = true ∧
          k = image l.config helper source := by
  obtain ⟨helper, lowered, next, result, -, -, tree, -⟩ := lower_ok plain l
  obtain ⟨place, body, rfl⟩ := Grammar.parse_program parsed
  have fits := Grammar.parse_fits parsed
  rw [← image, image_program, Registry.apply] at tree
  refine ⟨helper, lowered, next, place, body, rfl, result, tree, ?_, ?_, ?_⟩
  · exact fun e _ element => image_element element
  · intro k hk m found
    obtain ⟨blockPlace, statements, block⟩ := Method.body_of_fits fits k hk m found
    have own : m.statements = statements := by rw [Method.statements, block]
    refine ⟨_, ofNode?_image binds found block, rfl, receives_of_params _ rfl, by rw [own]; rfl, ?_⟩
    rintro ⟨e, inside, element⟩
    cases needed : m.needsBinding l.config.pragma with
    | true => exact .inr (by simp [Method.statements])
    | false =>
      have receives := receives_of_needsBinding_eq_false needed inside element
      exact .inl ((receives_of_params _ rfl).trans receives)
  · intro k hk isMethod
    rw [tree] at hk
    rcases Node.mem_walk_iff.mp hk with rfl | ⟨c, hc, below⟩
    · cases isMethod
    · rcases List.mem_append.mp hc with imported | statement
      · obtain ⟨h, -, rfl⟩ := List.mem_map.mp imported
        rw [ofNode?_declaration h k below] at isMethod
        cases isMethod
      · apply exists_method_of_lowered (fits.plain plain) binds isMethod
        rw [image_program]
        exact Node.mem_walk_of_mem_children statement below

theorem methods_supply_factory_render :
    ∃ (program k : Node) (m after : Method) (lowered : Lowered) (next : Lowerer) (helper : Text),
      Grammar.parse renderSource [] = .ok program ∧ k ∈ program.walk ∧
      Method.ofNode? k = some m ∧ m.receives "h" = false ∧
      (Lowerer.new {} { verbose := false }).lower program = .ok (lowered, next) ∧
      Method.ofNode? (image {} helper k) = some after ∧
      after.statements.head? = some (m.binding {}) := by
  let l := Lowerer.new {} { verbose := false }
  have checked : ((Grammar.parse renderSource []).toOption.any fun program =>
      program.walk.all (!·.isNamespacedName) &&
      program.walk.any fun k => (Method.ofNode? k).any fun m =>
        !m.receives "h" && m.body.containsElement) = true := by decide +kernel
  obtain ⟨program, parsed, checked⟩ := Grammar.ok_of_any checked
  simp only [Bool.and_eq_true, List.all_eq_true, Bool.not_eq_true', List.any_eq_true,
    Option.any_eq_true] at checked
  obtain ⟨plain, k, hk, m, found, other, contains⟩ := checked
  obtain ⟨helper, lowered, next, -, -, -, result, -, -, each, -⟩ :=
    methods_supply_factory (l := l) parsed plain rfl
  obtain ⟨after, own, -, same, -, supplies⟩ := each k hk m found
  refine ⟨program, k, m, after, lowered, next, helper, parsed, hk, found, other, result, own, ?_⟩
  refine (supplies (List.any_eq_true.mp contains)).resolve_left ?_
  intro receives
  cases (same.symm.trans receives).symm.trans other

/-- An element in the parameters of a method, and none in its body. -/
def parameterSource : Text := "(\x7brender(x = <a/>) \x7b\x7d\x7d)"

/-- The method supplies no factory for the call that the element becomes. -/
theorem parameter_without_factory :
    ∃ (program : Node) (m after : Method) (lowered : Lowered) (next : Lowerer),
      Grammar.parse parameterSource [] = .ok program ∧
      (∀ n ∈ program.walk, n.isNamespacedName = false) ∧
      (Lowerer.new {} { verbose := false }).lower program = .ok (lowered, next) ∧
      program.walk.filterMap Method.ofNode? = [m] ∧
      (∃ p ∈ m.params, p.containsElement = true) ∧
      lowered.program.walk.filterMap Method.ofNode? = [after] ∧
      after.receives "h" = false ∧ after.statements = [] := by
  let l := Lowerer.new {} { verbose := false }
  have checked : ((Grammar.parse parameterSource []).toOption.any fun program =>
      program.walk.all (!·.isNamespacedName) &&
      (l.lower program).toOption.any fun result =>
        let methods := program.walk.filterMap Method.ofNode?
        let lowered := result.1.program.walk.filterMap Method.ofNode?
        decide (methods.length = 1) && methods.all (·.params.any Node.containsElement) &&
        decide (lowered.length = 1) &&
        lowered.all fun after => !after.receives "h" && after.statements.isEmpty) = true := by
    decide +kernel
  obtain ⟨program, parsed, checked⟩ := Grammar.ok_of_any checked
  rw [Bool.and_eq_true] at checked
  obtain ⟨plain, checked⟩ := checked
  obtain ⟨⟨lowered, next⟩, result, checked⟩ := Grammar.ok_of_any checked
  simp only [Bool.and_eq_true, decide_eq_true_eq] at checked
  obtain ⟨⟨⟨one, inside⟩, single⟩, bare⟩ := checked
  obtain ⟨m, before⟩ := List.length_eq_one_iff.mp one
  obtain ⟨after, later⟩ := List.length_eq_one_iff.mp single
  simp only [before, List.all_cons, List.all_nil, Bool.and_true, List.any_eq_true] at inside
  simp only [later, List.all_cons, List.all_nil, Bool.and_true, Bool.and_eq_true,
    Bool.not_eq_true', List.isEmpty_iff] at bare
  exact ⟨program, m, after, lowered, next, parsed, by simpa using plain, result, before, inside,
    later, bare.1, bare.2⟩

end Programs

end Hyperscript.Lowering
