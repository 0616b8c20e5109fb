import Hyperscript.Lowering.Workspace
import Hyperscript.Proofs.FactoryBinding

/-!
# The guard against namespaced names

Of the steps that a lowering takes on a parsed program, only the first can fail, and it fails before
anything is changed: the later ones ask for nothing of a tree but what the grammar gives it and the
guard lets through.
-/
namespace Hyperscript

namespace Lowering

section Steps

variable {config : Config} {rule : PropRule} {tag : Descriptor}

theorem named_close {entries : List Entry} (named : ∀ e ∈ entries, e.name.isSome = true) :
    ∀ g ∈ PropGroup.close entries, ∀ e ∈ g.entries, e.name.isSome = true := by
  cases entries with
  | nil => exact fun g hg => absurd hg List.not_mem_nil
  | cons e rest =>
    intro g hg
    rw [List.mem_singleton.mp hg]
    exact named

/-- Every entry of a group has a name, if every named attribute has one. -/
theorem named_split {pending : List Entry} {attributes : List Attribute}
    (before : ∀ e ∈ pending, e.name.isSome = true)
    (named : ∀ place name value, .named place name value ∈ attributes →
      (jsxName? name.form).isSome = true) :
    ∀ g ∈ PropGroup.split rule tag pending attributes, ∀ e ∈ g.entries, e.name.isSome = true := by
  induction attributes generalizing pending with
  | nil => exact named_close before
  | cons a rest ih =>
    have others := fun place name value member =>
      named place name value (List.mem_cons_of_mem a member)
    cases a with
    | spread argument =>
      intro g hg
      rcases List.mem_append.mp hg with first | later
      · exact named_close before g first
      · rcases List.mem_cons.mp later with rfl | after
        · exact fun e he => absurd he List.not_mem_nil
        · exact ih (fun e he => absurd he List.not_mem_nil) others g after
    | named place name value =>
      refine ih ?_ others
      intro e he
      rcases List.mem_append.mp he with old | new
      · exact before e old
      · have own := named place name value List.mem_cons_self
        rw [List.mem_singleton.mp new, Attribute.entry, Attribute.classify, Option.isSome_map,
          name?_named]
        exact own

/-- Grouping takes any entries that have names. -/
theorem admits_of_named {g : Grouping} {entries : List Entry}
    (named : ∀ e ∈ entries, e.name.isSome = true) : g.admits entries = true := by
  cases g with
  | buckets => exact List.all_eq_true.mpr named
  | flat => rfl

/-- Without namespaces, the attributes of an element have names or are spread. -/
theorem name_of_fits {Literal : Node → Prop} {a : Node} (fits : a.Fits Literal .plain .attribute) :
    isAttribute a = true ∧ ∀ place name value, Attribute.ofNode a = .named place name value →
      (jsxName? name.form).isSome = true := by
  obtain ⟨place, form⟩ := a
  obtain ⟨plays, -, parts⟩ := Node.fits_mk.mp fits
  cases form
  case jsxAttribute name value =>
    refine ⟨rfl, ?_⟩
    intro _ _ _ same
    cases same
    have own := (parts (.markupName, name) (by simp)).plays
    obtain ⟨_, inside⟩ := name
    cases inside <;> first | rfl | cases own
  case jsxSpreadAttribute argument => exact ⟨rfl, fun _ _ _ same => by cases same⟩
  all_goals cases plays

/-- Every element of a tree without namespaces can be lowered. -/
theorem canLower_of_fits {Literal : Node → Prop} {r : Role} {n : Node}
    (fits : n.Fits Literal .plain r) : ∀ k ∈ n.walk, canLower config k = true := by
  induction fits with
  | @intro r place form plays keeps parts ih =>
    refine (Node.forall_mem_walk_iff _).mpr ⟨?_, ?_⟩
    · cases form
      case jsxElement name attributes children closes =>
        have each (a : Node) (ha : a ∈ attributes) :=
          name_of_fits (parts (.attribute, a) (by simp [ha]))
        simp only [canLower, Bool.and_eq_true, List.all_eq_true]
        refine ⟨fun a ha => (each a ha).1, ?_⟩
        intro g hg
        apply admits_of_named
        refine named_split (fun e he => absurd he List.not_mem_nil) ?_ g hg
        intro place name value member
        obtain ⟨a, ha, same⟩ := List.mem_map.mp (mem_attributes_of_head member)
        exact (each a ha).2 place name value same
      all_goals rfl
    · intro c hc
      obtain ⟨part, member, rfl⟩ := (Form.mem_children_iff r).mp hc
      exact ih part member

/-- Every method of a tree with roles can be bound. -/
theorem canBind_of_fits {Literal : Node → Prop} {markup : Markup} {r : Role} {n : Node}
    (fits : n.Fits Literal markup r) : ∀ k ∈ n.walk, canBind config k = true := by
  intro k hk
  rw [canBind]
  cases needed : Binding.method? config k with
  | none => rfl
  | some m =>
    obtain ⟨found, -⟩ := Option.filter_eq_some_iff.mp needed
    obtain ⟨place, statements, body⟩ := Method.body_of_fits fits k hk m found
    rw [Option.all_some, body]

end Steps

namespace Workspace

variable {α β : Type} {x : Step α} {f : α → Step β} {w after : Workspace}

theorem run_bind_ok {a : α} (h : x.run w = .ok a after) : (x >>= f).run w = (f a).run after := by
  simp only [EStateM.run, bind, EStateM.bind] at h ⊢
  rw [h]

theorem run_bind_error {e : Failure} (h : x.run w = .error e after) :
    (x >>= f).run w = .error e after := by
  simp only [EStateM.run, bind, EStateM.bind] at h ⊢
  rw [h]

theorem run_get_bind {f : Workspace → Step β} : (get >>= f).run w = (f w).run w := rfl

theorem run_require {condition : Bool} (h : condition = true) :
    (require condition).run w = .ok () w := by
  rw [require, if_pos h]
  rfl

theorem run_checkNames_ok (h : checkNamespaces w.program = .ok ()) :
    checkNames.run w = .ok () w := by
  rw [checkNames, run_get_bind, h]
  rfl

theorem run_checkNames_error {e : NamespaceError} (h : checkNamespaces w.program = .error e) :
    checkNames.run w = .error (.refused e) w := by
  rw [checkNames, run_get_bind, h]
  rfl

theorem run_restart : restart.run w = .ok ()
    { w with
      lowerer :=
        { w.lowerer with registry := some (.ofProgram w.program), elements := 0, mergeSites := 0 } } :=
  rfl

/-- The methods that get a binding, if they are asked for. -/
def injected (config : Config) (program : Node) : List Method :=
  if config.bindsFactory then (Binding.insert config program).2 else []

theorem insert_if (config : Config) (program : Node) :
    (if config.bindsFactory then Binding.insert config program else (program, [])) =
      (bound config program, injected config program) := by
  rw [bound, injected]
  split <;> rfl

theorem run_bindMethods (h : ∀ k ∈ w.program.walk, canBind w.lowerer.config k = true) :
    bindMethods.run w = .ok (injected w.lowerer.config w.program)
      { w with program := bound w.lowerer.config w.program } := by
  rw [bindMethods, run_get_bind, injected, bound]
  split
  · rw [run_bind_ok (run_require (List.all_eq_true.mpr h))]
    rfl
  · rfl

theorem run_lowerAll {registry : Registry} (found : w.lowerer.registry = some registry)
    (h : ∀ k ∈ w.program.walk, canLower w.lowerer.config k = true) (log : List LogLine)
    {tree : Node} {done : Progress}
    (ran : (lowerElements w.lowerer.config w.program).run
      { registry, elements := w.lowerer.elements, mergeSites := w.lowerer.mergeSites, log } =
        (tree, done)) :
    (lowerAll log).run w = .ok done.log
      { program := tree
        lowerer :=
          { w.lowerer with
            registry := some done.registry
            elements := done.elements
            mergeSites := done.mergeSites } } := by
  rw [lowerAll, run_get_bind, found]
  dsimp only
  rw [run_bind_ok (run_require (List.all_eq_true.mpr h)), ran]
  rfl

theorem run_importHelpers {registry : Registry} (found : w.lowerer.registry = some registry)
    {body : List Node} (root : w.program.form = .program body) :
    importHelpers.run w =
      .ok registry.helpers { w with program := registry.apply w.program } := by
  rw [importHelpers, run_get_bind, found, root]
  rfl

/-- A run over a program that each step is made for gives what the lowerer gives, and leaves the
lowered program and the next lowerer. -/
theorem run_lower {place : Place} {body : List Node} (root : w.program = ⟨place, .program body⟩)
    (checked : checkNamespaces w.program = .ok ())
    (binds : ∀ k ∈ w.program.walk, canBind w.lowerer.config k = true)
    (lowers : ∀ k ∈ (bound w.lowerer.config w.program).walk, canLower w.lowerer.config k = true) :
    ∃ lowered next, w.lowerer.lower w.program = .ok (lowered, next) ∧
      lower.run w = .ok lowered ⟨lowered.program, next⟩ := by
  obtain ⟨program, l⟩ := w
  dsimp only at root checked binds lowers ⊢
  let methods := injected l.config program
  let start : Progress :=
    { registry := .ofProgram program, log := methods.map (·.logLine l.config.pragma) }
  let helper := start.registry.freshName l.config.mergeAlias
  let done := (bound l.config program).postorder.foldl (Progress.after l.config) start
  have ran : (lowerElements l.config (bound l.config program)).run start =
      (pureLowering l.config helper (bound l.config program), done) :=
    lowerElements_returns l.config helper _ start rfl
  have tree : ∃ statements, (pureLowering l.config helper (bound l.config program)).form =
      .program statements := by
    rw [root, bound_program, pureLowering_of_not_element l.config helper rfl]
    exact ⟨_, rfl⟩
  obtain ⟨statements, form⟩ := tree
  rw [Lowerer.lower, checked, insert_if]
  dsimp only
  rw [ran]
  refine ⟨_, _, rfl, ?_⟩
  rw [lower, run_bind_ok (run_checkNames_ok checked), run_bind_ok run_restart,
    run_bind_ok (run_bindMethods binds), run_get_bind,
    run_bind_ok (run_lowerAll rfl lowers _ ran), run_bind_ok (run_importHelpers rfl form)]
  rfl

/-- What a lowerer has to say of a program is said of what it returns, and the counts that it
returns are its own. -/
theorem lower_leaves {l next : Lowerer} {program : Node} {lowered : Lowered}
    (h : l.lower program = .ok (lowered, next)) :
    lowered.injected = injected l.config program ∧
      next.elements = lowered.elements ∧ next.mergeSites = lowered.mergeSites ∧
      next.diagnostics = (l.diagnostics.infos
        (Lowerer.reports l.config lowered.injected lowered.mergeSites)).1 := by
  rw [Lowerer.lower, insert_if] at h
  cases checked : checkNamespaces program with
  | error e =>
    rw [checked] at h
    cases h
  | ok _ =>
    rw [checked] at h
    cases h
    exact ⟨rfl, rfl, rfl, rfl⟩

/-- The guard stops a run before anything is changed. -/
theorem run_lower_refused {n : Node} (first : w.program.walk.find? Node.isNamespacedName = some n) :
    w.lowerer.lower w.program = .error ⟨n⟩ ∧ lower.run w = .error (.refused ⟨n⟩) w := by
  have refused : checkNamespaces w.program = .error ⟨n⟩ := by
    rw [checkNamespaces, Node.firstBelow_eq_find?, first]
  constructor
  · rw [Lowerer.lower, refused]
    rfl
  · rw [lower, run_bind_error (run_checkNames_error refused)]

/-- What the guard lets through of the parsed programs is lowered to the end. -/
theorem run_lower_parsed {source name : Text} (parsed : Grammar.parse source name = .ok w.program)
    (none : w.program.walk.find? Node.isNamespacedName = none) :
    ∃ lowered next, w.lowerer.lower w.program = .ok (lowered, next) ∧
      lower.run w = .ok lowered ⟨lowered.program, next⟩ := by
  have plain : ∀ n ∈ w.program.walk, n.isNamespacedName = false := by
    simpa only [List.find?_eq_none, Bool.not_eq_true] using none
  have fits := (Grammar.parse_fits parsed).plain plain
  obtain ⟨place, body, root⟩ := Grammar.parse_program parsed
  apply run_lower root
  · rw [checkNamespaces, Node.firstBelow_eq_find?, none]
  · exact canBind_of_fits fits
  · exact canLower_of_fits (fits.bound w.lowerer.config)

end Workspace

/-- A run over a parsed program fails exactly if a namespaced name occurs in it. It fails with the
first such name and nothing else, and leaves the program and the lowerer as they were. -/
theorem refuses_exactly_namespaces {source name : Text} {program : Node}
    (parsed : Grammar.parse source name = .ok program) (l : Lowerer) :
    ((∃ e after, Workspace.lower.run ⟨program, l⟩ = .error (.refused e) after) ↔
      ∃ n ∈ program.walk, n.isNamespacedName = true) ∧
    ∀ failure after, Workspace.lower.run ⟨program, l⟩ = .error failure after ↔
      after = ⟨program, l⟩ ∧
        ∃ n, failure = .refused ⟨n⟩ ∧ program.walk.find? Node.isNamespacedName = some n := by
  cases first : program.walk.find? Node.isNamespacedName with
  | none =>
    obtain ⟨lowered, next, -, ran⟩ := Workspace.run_lower_parsed (w := ⟨program, l⟩) parsed first
    have absent : ¬∃ n ∈ program.walk, n.isNamespacedName = true := by
      simpa using first
    simp only [ran, absent, reduceCtorEq, exists_false, and_false, iff_self, implies_true, true_and]
  | some n =>
    obtain ⟨-, ran⟩ := Workspace.run_lower_refused (w := ⟨program, l⟩) first
    have present : ∃ n ∈ program.walk, n.isNamespacedName = true :=
      ⟨n, List.mem_of_find?_eq_some first, List.find?_some first⟩
    rw [ran]
    refine ⟨⟨fun _ => present, fun _ => ⟨_, _, rfl⟩⟩, ?_⟩
    intro failure after
    constructor
    · rintro ⟨⟩
      exact ⟨rfl, n, rfl, rfl⟩
    · rintro ⟨rfl, _, rfl, ⟨⟩⟩
      rfl

/-- A namespaced name inside an expression inside an attribute. -/
def nestedSource : Text := "<a b=\x7b<c d:e='f'/>\x7d/>"

theorem nestedSource_parses :
    ∃ program n, Grammar.parse nestedSource [] = .ok program ∧
      program.walk.find? Node.isNamespacedName = some n := by
  have checked : ((Grammar.parse nestedSource []).toOption.any fun program =>
      (program.walk.find? Node.isNamespacedName).isSome) = true := by decide +kernel
  obtain ⟨program, parsed, found⟩ := Grammar.ok_of_any checked
  obtain ⟨n, first⟩ := Option.isSome_iff_exists.mp found
  exact ⟨program, n, parsed, first⟩

theorem refuses_exactly_namespaces_nested :
    ∃ program n, Grammar.parse nestedSource [] = .ok program ∧
      program.walk.find? Node.isNamespacedName = some n ∧
      Workspace.lower.run ⟨program, { diagnostics := { verbose := true }, elements := 3 }⟩ =
        .error (.refused ⟨n⟩)
          ⟨program, { diagnostics := { verbose := true }, elements := 3 }⟩ := by
  obtain ⟨program, n, parsed, first⟩ := nestedSource_parses
  obtain ⟨-, errors⟩ := refuses_exactly_namespaces parsed
    { diagnostics := { verbose := true }, elements := 3 }
  exact ⟨program, n, parsed, first, (errors _ _).mpr ⟨rfl, n, rfl, first⟩⟩

end Lowering

end Hyperscript
