import Hyperscript.Proofs.ParsedExpression

/-!
# Parameters of arrow functions

The parameters of an arrow function are parsed as expressions and read as bindings afterwards. The
grammar has rules of its own for declared parameters: a default and a rest stand around a binding
without a default, and the rest of an object is a name. The expressions that look like such a
parameter are read as one, but others are read too: with a default around a default, with a default
in a rest, or with a pattern for the rest of an object. Everything else is refused.
-/
namespace Hyperscript

namespace Grammar

/-- What a pattern is used as. -/
inductive Shape where
  /-- A name, an object or an array. -/
  | binding
  /-- A binding that may have a default. -/
  | parameter
  /-- A parameter, or the rest of a list. -/
  | element
  /-- An entry of an object. -/
  | property
  deriving DecidableEq, Repr

/-- A pattern is declared as one, or it is written as the expression that looks like it. -/
inductive Style where
  | declared
  | expressed
  deriving DecidableEq, Repr

namespace Style

@[grind =] def object : Style → List Node → Form Node
  | declared, properties => .objectPattern properties
  | expressed, properties => .objectExpression properties

@[grind =] def array : Style → List Node → Form Node
  | declared, elements => .arrayPattern elements
  | expressed, elements => .arrayExpression elements

@[grind =] def fallback : Style → Node → Node → Form Node
  | declared, target, value => .assignmentPattern target value
  | expressed, target, value => .assignment "=" target value

@[grind =] def rest : Style → Node → Form Node
  | declared, target => .restElement target
  | expressed, target => .spread target

end Style

/-- The patterns that can be declared. -/
@[grind cases]
inductive IsPattern (style : Style) : Shape → Node → Prop
  | name (place : Place) (name : Text) : IsPattern style .binding ⟨place, .identifier name⟩
  | object (place : Place) {properties : List Node} :
      (∀ p ∈ properties, IsPattern style .property p) →
      IsPattern style .binding ⟨place, style.object properties⟩
  | array (place : Place) {elements : List Node} :
      (∀ e ∈ elements, IsPattern style .element e) →
      IsPattern style .binding ⟨place, style.array elements⟩
  | binding {n : Node} : IsPattern style .binding n → IsPattern style .parameter n
  | fallback (place : Place) {target : Node} (value : Node) : IsPattern style .binding target →
      IsPattern style .parameter ⟨place, style.fallback target value⟩
  | parameter {n : Node} : IsPattern style .parameter n → IsPattern style .element n
  | rest (place : Place) {target : Node} : IsPattern style .binding target →
      IsPattern style .element ⟨place, style.rest target⟩
  | property (place : Place) (key : Node) {value : Node} (computed shorthand : Bool) :
      IsPattern style .parameter value →
      IsPattern style .property ⟨place, .objectProperty key value computed shorthand⟩
  | restName (place : Place) {target : Node} {name : Text} : target.form = .identifier name →
      IsPattern style .property ⟨place, style.rest target⟩

section Layers

variable {style : Style} {shape : Shape} {place : Place}

theorem isPattern_of_binding {n : Node} (h : IsPattern style .binding n)
    (other : shape ≠ .property) : IsPattern style shape n := by
  cases shape with
  | binding => exact h
  | parameter => exact .binding h
  | element => exact .parameter (.binding h)
  | property => exact absurd rfl other

theorem isPattern_name_iff {name : Text} :
    IsPattern style shape ⟨place, .identifier name⟩ ↔ shape ≠ .property := by
  constructor
  · cases style <;> grind
  · exact isPattern_of_binding (.name place name)

theorem isPattern_fallback_iff {target value : Node} :
    IsPattern style shape ⟨place, style.fallback target value⟩ ↔
      (shape = .parameter ∨ shape = .element) ∧ IsPattern style .binding target := by
  constructor
  · cases style <;> grind
  · rintro ⟨rfl | rfl, own⟩
    · exact .fallback place value own
    · exact .parameter (.fallback place value own)

theorem isPattern_rest_iff {target : Node} :
    IsPattern style shape ⟨place, style.rest target⟩ ↔
      shape = .element ∧ IsPattern style .binding target ∨
        shape = .property ∧ ∃ name, target.form = .identifier name := by
  constructor
  · cases style <;> grind
  · rintro (⟨rfl, own⟩ | ⟨rfl, name, own⟩)
    · exact .rest place own
    · exact .restName place own

theorem isPattern_array_iff {elements : List Node} :
    IsPattern style shape ⟨place, style.array elements⟩ ↔
      shape ≠ .property ∧ ∀ e ∈ elements, IsPattern style .element e := by
  constructor
  · cases style <;> grind
  · rintro ⟨other, each⟩
    exact isPattern_of_binding (.array place each) other

theorem isPattern_object_iff {properties : List Node} :
    IsPattern style shape ⟨place, style.object properties⟩ ↔
      shape ≠ .property ∧ ∀ p ∈ properties, IsPattern style .property p := by
  constructor
  · cases style <;> grind
  · rintro ⟨other, each⟩
    exact isPattern_of_binding (.object place each) other

theorem isPattern_property_iff {key value : Node} {computed shorthand : Bool} :
    IsPattern style .property ⟨place, .objectProperty key value computed shorthand⟩ ↔
      IsPattern style .parameter value := by
  constructor
  · cases style <;> grind
  · exact .property place key computed shorthand

end Layers

mutual

/-- The expressions that are read as bindings. -/
inductive IsBindable : Node → Prop
  | name (place : Place) (name : Text) : IsBindable ⟨place, .identifier name⟩
  | fallback (place : Place) {target : Node} (value : Node) : IsBindable target →
      IsBindable ⟨place, .assignment "=" target value⟩
  | rest (place : Place) {target : Node} : IsBindable target → IsBindable ⟨place, .spread target⟩
  | array (place : Place) {elements : List Node} : (∀ e ∈ elements, IsBindable e) →
      IsBindable ⟨place, .arrayExpression elements⟩
  | object (place : Place) {properties : List Node} :
      (∀ p ∈ properties, IsBindableProperty p) → IsBindable ⟨place, .objectExpression properties⟩

/-- The entries of objects that are read as entries of patterns. -/
inductive IsBindableProperty : Node → Prop
  | property (place : Place) (key : Node) {value : Node} (computed shorthand : Bool) :
      IsBindable value → IsBindableProperty ⟨place, .objectProperty key value computed shorthand⟩
  | rest (place : Place) {target : Node} : IsBindable target →
      IsBindableProperty ⟨place, .spread target⟩

end

/-- A reading succeeds where it can, with a result of some kind, and anything else is refused as an
error of the text. -/
def Decides {β : Type} (able : Prop) (made : β → Prop) : Except ParseError β → Prop
  | .ok result => able ∧ made result
  | .error error => ¬ able ∧ error.isRefusal = true

namespace Decides

variable {α β γ : Type} {able able' : Prop} {made : α → Prop} {x : Except ParseError α}

theorem map {made' : β → Prop} (h : Decides able made x) {f : α → β} (same : able' ↔ able)
    (keeps : ∀ a, made a → made' (f a)) : Decides able' made' (x.map f) := by
  cases x with
  | ok a => exact ⟨same.mpr h.1, keeps a h.2⟩
  | error error => exact ⟨fun other => h.1 (same.mp other), h.2⟩

/-- The first of two readings that fails decides how both fail. -/
theorem both {able'' : Prop} {made' : β → Prop} {made'' : γ → Prop} {y : Except ParseError β}
    {f : α → β → γ} (h : Decides able made x) (h' : Decides able' made' y)
    (same : able'' ↔ able ∧ able') (keeps : ∀ a b, made a → made' b → made'' (f a b)) :
    Decides able'' made'' (do let a ← x; let b ← y; return f a b) := by
  cases x with
  | error error => exact ⟨fun other => h.1 (same.mp other).1, h.2⟩
  | ok a =>
    cases y with
    | error error => exact ⟨fun other => h'.1 (same.mp other).2, h'.2⟩
    | ok b => exact ⟨same.mpr ⟨h.1, h'.1⟩, keeps a b h.2 h'.2⟩

end Decides

/-- The pattern can be declared where the expression looks like one that can, and one of them is a
name if the other is. -/
structure Mirrors (e p : Node) : Prop where
  shape : ∀ shape, IsPattern .declared shape p ↔ IsPattern .expressed shape e
  name : (∃ name, p.form = .identifier name) ↔ ∃ name, e.form = .identifier name

/-- The same for rows of parts that have one shape. -/
def MirrorsAll (shape : Shape) (es ps : List Node) : Prop :=
  (∀ p ∈ ps, IsPattern .declared shape p) ↔ ∀ e ∈ es, IsPattern .expressed shape e

namespace Mirrors

variable {place : Place} {e p : Node} {es ps : List Node}

theorem fallback (h : Mirrors e p) (value : Node) :
    Mirrors ⟨place, .assignment "=" e value⟩ ⟨place, .assignmentPattern p value⟩ := by
  refine ⟨fun shape => ?_, by simp⟩
  change IsPattern .declared shape ⟨place, Style.declared.fallback p value⟩ ↔
    IsPattern .expressed shape ⟨place, Style.expressed.fallback e value⟩
  rw [isPattern_fallback_iff, isPattern_fallback_iff, h.shape]

theorem rest (h : Mirrors e p) : Mirrors ⟨place, .spread e⟩ ⟨place, .restElement p⟩ := by
  refine ⟨fun shape => ?_, by simp⟩
  change IsPattern .declared shape ⟨place, Style.declared.rest p⟩ ↔
    IsPattern .expressed shape ⟨place, Style.expressed.rest e⟩
  rw [isPattern_rest_iff, isPattern_rest_iff, h.shape, h.name]

theorem array (h : MirrorsAll .element es ps) :
    Mirrors ⟨place, .arrayExpression es⟩ ⟨place, .arrayPattern ps⟩ := by
  refine ⟨fun shape => ?_, by simp⟩
  change IsPattern .declared shape ⟨place, Style.declared.array ps⟩ ↔
    IsPattern .expressed shape ⟨place, Style.expressed.array es⟩
  rw [isPattern_array_iff, isPattern_array_iff]
  exact and_congr_right fun _ => h

theorem object (h : MirrorsAll .property es ps) :
    Mirrors ⟨place, .objectExpression es⟩ ⟨place, .objectPattern ps⟩ := by
  refine ⟨fun shape => ?_, by simp⟩
  change IsPattern .declared shape ⟨place, Style.declared.object ps⟩ ↔
    IsPattern .expressed shape ⟨place, Style.expressed.object es⟩
  rw [isPattern_object_iff, isPattern_object_iff]
  exact and_congr_right fun _ => h

end Mirrors

theorem MirrorsAll.cons {shape : Shape} {e p : Node} {es ps : List Node}
    (first : IsPattern .declared shape p ↔ IsPattern .expressed shape e)
    (h : MirrorsAll shape es ps) : MirrorsAll shape (e :: es) (p :: ps) := by
  rw [MirrorsAll, List.forall_mem_cons, List.forall_mem_cons, first]
  exact and_congr_right fun _ => h

/-- Reading an expression as a binding succeeds exactly where it can, and the pattern can be declared
exactly where the expression looks like one that can. -/
theorem decides_toPattern (e : Node) :
    Decides (IsBindable e) (Mirrors e) (Build.toPattern e) := by
  induction e using Build.toPattern.induct
    (motive_2 := fun es => Decides (∀ e ∈ es, IsBindableProperty e) (MirrorsAll .property es)
      (Build.toPatternProperties es))
    (motive_3 := fun es => Decides (∀ e ∈ es, IsBindable e) (MirrorsAll .element es)
      (Build.toPatterns es)) with
  | case1 place name =>
    rw [Build.toPattern]
    refine ⟨.name place name, fun shape => ?_, Iff.rfl⟩
    rw [isPattern_name_iff, isPattern_name_iff]
  | case2 place left right ih =>
    rw [Build.toPattern, if_pos rfl]
    refine ih.map ⟨fun h => ?_, .fallback place right⟩ fun p same => same.fallback right
    cases h
    assumption
  | case3 place operator left right other =>
    rw [Build.toPattern, if_neg other]
    refine ⟨fun h => ?_, rfl⟩
    cases h
    exact other rfl
  | case4 place argument ih =>
    rw [Build.toPattern]
    refine ih.map ⟨fun h => ?_, .rest place⟩ fun p same => same.rest
    cases h
    assumption
  | case5 place elements ih =>
    rw [Build.toPattern]
    refine ih.map ⟨fun h => ?_, .array place⟩ fun ps same => .array same
    cases h
    assumption
  | case6 place properties ih =>
    rw [Build.toPattern]
    refine ih.map ⟨fun h => ?_, .object place⟩ fun ps same => .object same
    cases h
    assumption
  | case7 place form name assignment spread array object =>
    rw [Build.toPattern] <;> try assumption
    refine ⟨fun h => ?_, rfl⟩
    cases h with
    | name => exact name _ rfl
    | fallback => exact assignment _ _ _ rfl
    | rest => exact spread _ rfl
    | array => exact array _ rfl
    | object => exact object _ rfl
  | case8 => exact ⟨by simp, by simp [MirrorsAll]⟩
  | case9 place key value computed shorthand rest ih ihs =>
    rw [Build.toPatternProperties]
    refine ih.both ihs ?_ fun p ps same sames => .cons ?_ sames
    · rw [List.forall_mem_cons]
      refine and_congr_left fun _ => ⟨fun h => ?_, .property place key computed shorthand⟩
      cases h
      assumption
    · rw [isPattern_property_iff, isPattern_property_iff, same.shape]
  | case10 place argument rest ih ihs =>
    rw [Build.toPatternProperties]
    refine ih.both ihs ?_ fun p ps same sames => .cons (same.rest.shape .property) sames
    rw [List.forall_mem_cons]
    refine and_congr_left fun _ => ⟨fun h => ?_, .rest place⟩
    cases h
    assumption
  | case11 place form rest property spread =>
    rw [Build.toPatternProperties] <;> try assumption
    refine ⟨fun h => ?_, rfl⟩
    cases h _ List.mem_cons_self with
    | property => exact property _ _ _ _ rfl
    | rest => exact spread _ rfl
  | case12 => exact ⟨by simp, by simp [MirrorsAll]⟩
  | case13 n rest ih ihs =>
    rw [Build.toPatterns]
    exact ih.both ihs List.forall_mem_cons fun p ps same sames => .cons (same.shape .element) sames

section Declarations

/-- The shape of the nodes in the value of a nonterminal. -/
def Nonterminal.shape? : Nonterminal → Option Shape
  | .pattern => some .binding
  | .patternElement | .moreElements | .param => some .element
  | .patternProperty | .moreProperties => some .property
  | _ => none

/-- What the value of a nonterminal is made of, where a pattern depends on it. -/
def Nonterminal.Declares : Nonterminal → List Part → Prop
  | .pattern, value => IsSingle (IsPattern .declared .binding) value
  | .patternElement, value | .param, value => IsSingle (IsPattern .declared .element) value
  | .patternProperty, value => IsSingle (IsPattern .declared .property) value
  | .moreElements, value => ∀ n ∈ Part.compact value, IsPattern .declared .element n
  | .moreProperties, value => ∀ n ∈ Part.compact value, IsPattern .declared .property n
  | .key, value => ∃ part, value = [part]
  | _, _ => True

def Symbol.Declares : Symbol → List Part → Prop
  | .terminal _, value => ∃ t : Token, value = [.token t]
  | .nonterminal a, value => a.Declares value

/-- The parts can be what the slots keep. -/
def SlotsDeclare : List Slot → List Part → Prop
  | [], parts => parts = []
  | .absent :: slots, parts => ∃ rest, parts = .absent :: rest ∧ SlotsDeclare slots rest
  | .skip _ :: slots, parts => SlotsDeclare slots parts
  | .keep s :: slots, parts =>
    ∃ value rest, parts = value ++ rest ∧ s.Declares value ∧ SlotsDeclare slots rest

/-- Only nodes of one shape are kept. -/
def Slot.isOf (shape : Shape) : Slot → Bool
  | .keep (.nonterminal a) => a.shape? = some shape
  | .keep (.terminal _) => false
  | _ => true

variable {a : Nonterminal} {p : Production} {parts value : List Part} {shape : Shape}

theorem compact_of_shape (same : a.shape? = some shape) (h : a.Declares value) :
    ∀ n ∈ Part.compact value, IsPattern .declared shape n := by
  have single {s : Shape} (one : IsSingle (IsPattern .declared s) value) :
      ∀ n ∈ Part.compact value, IsPattern .declared s n := by
    obtain ⟨n, rfl, own⟩ := one
    intro m hm
    cases List.mem_singleton.mp hm
    exact own
  cases a <;> cases same
  case pattern | patternElement | patternProperty | param => exact single h
  all_goals exact h

theorem compact_of_slots {slots : List Slot} (all : slots.all (Slot.isOf shape) = true)
    (row : SlotsDeclare slots parts) : ∀ n ∈ Part.compact parts, IsPattern .declared shape n := by
  induction slots generalizing parts with
  | nil =>
    cases row
    exact fun n hn => absurd hn List.not_mem_nil
  | cons slot slots ih =>
    rw [List.all_cons, Bool.and_eq_true] at all
    cases slot with
    | absent =>
      obtain ⟨rest, rfl, below⟩ := row
      change ∀ n ∈ Part.compact rest, _
      exact ih all.2 below
    | skip => exact ih all.2 row
    | keep s =>
      obtain ⟨first, rest, rfl, own, below⟩ := row
      cases s with
      | terminal => exact absurd all.1 Bool.false_ne_true
      | nonterminal b =>
        rw [Part.compact, List.filterMap_append]
        exact List.forall_mem_append.mpr
          ⟨compact_of_shape (of_decide_eq_true all.1) own, ih all.2 below⟩

theorem pattern_declares (member : p ∈ Nonterminal.pattern.productions)
    (row : SlotsDeclare p.slots parts) (built : p.build parts = .ok value) :
    Nonterminal.pattern.Declares value := by
  have kinds : ∀ q ∈ Nonterminal.pattern.productions, q.action = some .identifier ∨
      q.action = some .objectPattern ∧ q.slots.all (Slot.isOf .property) = true ∨
      q.action = some .arrayPattern ∧ q.slots.all (Slot.isOf .element) = true := by decide
  rcases kinds p member with action | ⟨action, all⟩ | ⟨action, all⟩
  · obtain ⟨part, applied, rfl⟩ := applied_of_build action built
    simp only [Build.apply, Build.onToken] at applied
    split at applied <;> cases applied
    exact ⟨_, rfl, .name _ _⟩
  · obtain ⟨_, ⟨⟩, rfl⟩ := applied_of_build action built
    exact ⟨_, rfl, .object _ (compact_of_slots all row)⟩
  · obtain ⟨_, ⟨⟩, rfl⟩ := applied_of_build action built
    exact ⟨_, rfl, .array _ (compact_of_slots all row)⟩

/-- A parameter and an element of an array have the same rules. -/
theorem element_declares
    (member : p ∈ Nonterminal.patternElement.productions ++ Nonterminal.param.productions)
    (row : SlotsDeclare p.slots parts) (built : p.build parts = .ok value) :
    IsSingle (IsPattern .declared .element) value := by
  have kinds : ∀ q ∈ Nonterminal.patternElement.productions ++ Nonterminal.param.productions,
      q.action = none ∧ q.slots = [.keep (.nonterminal .pattern)] ∨
      q.action = some .assignmentPattern ∧ q.slots = [.keep (.nonterminal .pattern),
        .skip .assign, .keep (.nonterminal Nonterminal.expression)] ∨
      q.action = some .restElement ∧
        q.slots = [.skip .ellipsis, .keep (.nonterminal .pattern)] := by decide
  rcases kinds p member with ⟨action, slots⟩ | ⟨action, slots⟩ | ⟨action, slots⟩
  · rw [slots] at row
    obtain ⟨_, _, rfl, ⟨n, rfl, own⟩, rfl⟩ := row
    rw [Production.build, action] at built
    cases built
    exact ⟨n, rfl, .parameter (.binding own)⟩
  · rw [slots] at row
    obtain ⟨_, _, rfl, ⟨n, rfl, own⟩, rest, _, rfl, -, rfl⟩ := row
    obtain ⟨part, applied, rfl⟩ := applied_of_build action built
    simp only [Build.apply, Build.onTwoNodes] at applied
    split at applied <;> cases applied
    rename_i same
    obtain ⟨target, -⟩ := List.cons.inj same
    cases target
    exact ⟨_, rfl, .parameter (.fallback _ _ own)⟩
  · rw [slots] at row
    obtain ⟨_, _, rfl, ⟨n, rfl, own⟩, rfl⟩ := row
    obtain ⟨_, ⟨⟩, rfl⟩ := applied_of_build action built
    exact ⟨_, rfl, .rest _ own⟩

theorem property_declares (member : p ∈ Nonterminal.patternProperty.productions)
    (row : SlotsDeclare p.slots parts) (built : p.build parts = .ok value) :
    Nonterminal.patternProperty.Declares value := by
  have kinds : ∀ q ∈ Nonterminal.patternProperty.productions,
      q.action = some .shorthand ∨ q.action = some .shorthandDefault ∨
      q.action = some .restName ∨
      q.action = some .property ∧ q.slots = [.keep (.nonterminal .key), .skip .colon,
        .keep (.nonterminal .pattern)] ∨
      q.action = some .propertyDefault ∧ q.slots = [.keep (.nonterminal .key), .skip .colon,
        .keep (.nonterminal .pattern), .skip .assign,
        .keep (.nonterminal Nonterminal.expression)] := by decide
  rcases kinds p member with action | action | action | ⟨action, slots⟩ | ⟨action, slots⟩
  · obtain ⟨part, applied, rfl⟩ := applied_of_build action built
    simp only [Build.apply, Build.onToken] at applied
    split at applied <;> cases applied
    exact ⟨_, rfl, .property _ _ _ _ (.binding (.name _ _))⟩
  · obtain ⟨part, applied, rfl⟩ := applied_of_build action built
    simp only [Build.apply, Build.onTokenNode] at applied
    split at applied <;> cases applied
    exact ⟨_, rfl, .property _ _ _ _ (.fallback _ _ (.name _ _))⟩
  · obtain ⟨part, applied, rfl⟩ := applied_of_build action built
    simp only [Build.apply, Build.onToken] at applied
    split at applied <;> cases applied
    exact ⟨_, rfl, .restName _ rfl⟩
  · rw [slots] at row
    obtain ⟨_, _, rfl, ⟨key, rfl⟩, _, _, rfl, ⟨n, rfl, own⟩, rfl⟩ := row
    obtain ⟨part, applied, rfl⟩ := applied_of_build action built
    simp only [Build.apply, Build.property, List.cons_append, List.nil_append] at applied
    split at applied <;> cases applied
    exact ⟨_, rfl, .property _ _ _ _ (.binding own)⟩
  · rw [slots] at row
    obtain ⟨_, _, rfl, ⟨key, rfl⟩, _, _, rfl, ⟨n, rfl, own⟩, rest, _, rfl, -, rfl⟩ := row
    obtain ⟨part, applied, rfl⟩ := applied_of_build action built
    simp only [Build.apply, Build.propertyDefault] at applied
    split at applied
    · rename_i same
      obtain ⟨target, -⟩ := List.cons.inj (List.cons.inj same).2
      cases target
      split at applied <;> cases applied
      exact ⟨_, rfl, .property _ _ _ _ (.fallback _ _ own)⟩
    · cases applied

/-- Lists hand over what they keep, and nothing else is built of their parts. -/
theorem list_declares
    (plain : ∀ q ∈ a.productions, q.action = none ∧ q.slots.all (Slot.isOf shape) = true)
    (member : p ∈ a.productions) (row : SlotsDeclare p.slots parts)
    (built : p.build parts = .ok value) :
    ∀ n ∈ Part.compact value, IsPattern .declared shape n := by
  obtain ⟨action, all⟩ := plain p member
  rw [Production.build, action] at built
  cases built
  exact compact_of_slots all row

theorem production_declares (member : p ∈ a.productions) (row : SlotsDeclare p.slots parts)
    (built : p.build parts = .ok value) : a.Declares value := by
  cases a
  case pattern => exact pattern_declares member row built
  case patternElement => exact element_declares (List.mem_append_left _ member) row built
  case param => exact element_declares (List.mem_append_right _ member) row built
  case patternProperty => exact property_declares member row built
  case moreElements | moreProperties => exact list_declares (by decide) member row built
  case key =>
    have acts : ∀ q ∈ Nonterminal.key.productions, q.action.isSome = true := by decide
    obtain ⟨action, own⟩ := Option.isSome_iff_exists.mp (acts p member)
    obtain ⟨part, -, rfl⟩ := applied_of_build own built
    exact ⟨part, rfl⟩
  all_goals trivial

/-- Whatever the grammar takes for declared parameters can be declared. -/
theorem Derives.declares {s : Symbol} {word : List Token} {value : List Part}
    (h : Derives s word value) : s.Declares value := by
  induction h using Derives.rec
    (motive_2 := fun slots _ parts _ => SlotsDeclare slots parts) with
  | token t => exact ⟨t, rfl⟩
  | production member _ built row => exact production_declares member row built
  | nil => rfl
  | absent _ below => exact ⟨_, rfl, below⟩
  | skip _ _ below => exact below
  | keep _ _ own below => exact ⟨_, _, rfl, own, below⟩

end Declarations

/-- An expression that looks like a pattern is read as one. -/
theorem IsPattern.isBindable {shape : Shape} {e : Node} (h : IsPattern .expressed shape e) :
    (shape ≠ .property → IsBindable e) ∧ (shape = .property → IsBindableProperty e) := by
  induction h with
  | name place name => exact ⟨fun _ => .name place name, nofun⟩
  | object place _ ih => exact ⟨fun _ => .object place fun p hp => (ih p hp).2 rfl, nofun⟩
  | array place _ ih => exact ⟨fun _ => .array place fun e he => (ih e he).1 nofun, nofun⟩
  | binding _ ih => exact ⟨fun _ => ih.1 nofun, nofun⟩
  | fallback place value _ ih => exact ⟨fun _ => .fallback place value (ih.1 nofun), nofun⟩
  | parameter _ ih => exact ⟨fun _ => ih.1 nofun, nofun⟩
  | rest place _ ih => exact ⟨fun _ => .rest place (ih.1 nofun), nofun⟩
  | property place key computed shorthand _ ih =>
    exact ⟨fun other => absurd rfl other,
      fun _ => .property place key computed shorthand (ih.1 nofun)⟩
  | @restName place target name named =>
    obtain ⟨namePlace, form⟩ := target
    cases named
    exact ⟨fun other => absurd rfl other, fun _ => .rest place (.name namePlace name)⟩

/-- A parameter of an arrow function is read off an expression. This succeeds exactly for the
bindable expressions, among them all that look like a pattern, and every other one is refused as an
error of the text. What is read has a shape exactly where the expression looks like a pattern of that
shape, while whatever the rule of declared parameters takes has the shape of an element. -/
theorem arrow_parameter_isPattern_iff (e : Node) :
    ((∃ p, Build.toPattern e = .ok p) ↔ IsBindable e) ∧
      (∀ shape ≠ .property, IsPattern .expressed shape e → IsBindable e) ∧
      (∀ error, Build.toPattern e = .error error → error.isRefusal = true) ∧
      (∀ p, Build.toPattern e = .ok p →
        ∀ shape, IsPattern .declared shape p ↔ IsPattern .expressed shape e) ∧
      ∀ word value, Derives (.nonterminal .param) word value →
        ∃ p, value = [.node p] ∧ IsPattern .declared .element p := by
  have decides := decides_toPattern e
  have looks : ∀ shape ≠ .property, IsPattern .expressed shape e → IsBindable e :=
    fun shape other h => h.isBindable.1 other
  have declared : ∀ word value, Derives (.nonterminal .param) word value →
      ∃ p, value = [.node p] ∧ IsPattern .declared .element p :=
    fun word value derives => derives.declares
  cases read : Build.toPattern e with
  | ok p =>
    rw [read] at decides
    refine ⟨iff_of_true ⟨p, rfl⟩ decides.1, looks, nofun, ?_, declared⟩
    intro q same
    cases same
    exact decides.2.shape
  | error error =>
    rw [read] at decides
    refine ⟨iff_of_false nofun decides.1, looks, ?_, nofun, declared⟩
    intro other same
    cases same
    exact decides.2

/-- An array of a single rest with a default. -/
def isRestDefault (n : Node) : Bool :=
  match n.form with
  | .arrayPattern [⟨_, .restElement ⟨_, .assignmentPattern ..⟩⟩] => true
  | _ => false

theorem not_isPattern_of_isRestDefault {n : Node} {shape : Shape} (h : isRestDefault n = true) :
    ¬ IsPattern .declared shape n := by
  obtain ⟨place, form⟩ := n
  unfold isRestDefault at h
  split at h
  · rename_i restPlace targetPlace target value same
    cases same
    intro pattern
    change IsPattern .declared shape ⟨place, Style.declared.array _⟩ at pattern
    have rest := (isPattern_array_iff.mp pattern).2 _ List.mem_cons_self
    change IsPattern .declared .element ⟨restPlace, Style.declared.rest _⟩ at rest
    rcases isPattern_rest_iff.mp rest with ⟨-, binding⟩ | ⟨other, -⟩
    · change IsPattern .declared .binding ⟨targetPlace, Style.declared.fallback _ _⟩ at binding
      rcases (isPattern_fallback_iff.mp binding).1 with other | other <;> cases other
    · cases other
  · cases h

/-- The only parameter of an arrow function. -/
def onlyParameter? (n : Node) : Option Node :=
  match n.form with
  | .arrow [p] _ => some p
  | _ => none

theorem form_of_onlyParameter? {n p : Node} (h : onlyParameter? n = some p) :
    ∃ body, n.form = .arrow [p] body := by
  unfold onlyParameter? at h
  split at h
  · rename_i same
    cases h
    exact ⟨_, same⟩
  · cases h

def restDefaultSource : Text := "([...a = 1]) => a"

/-- The same parameter, declared. -/
def declaredRestDefaultSource : Text := "(function ([...a = 1]) \x7b\x7d)"

/-- A rest with a default is a parameter of an arrow function, and of no other function. -/
theorem arrow_parameter_with_rest_default :
    ∃ (program arrow p body : Node),
      parse restDefaultSource [] = .ok program ∧ arrow ∈ program.walk ∧
      arrow.form = .arrow [p] body ∧ ¬ IsPattern .declared .parameter p ∧
      (parse declaredRestDefaultSource []).toOption = none := by
  have checked : ((parse restDefaultSource []).toOption.any fun program =>
      program.walk.any fun arrow => (onlyParameter? arrow).any isRestDefault) = true := by
    decide +kernel
  have refused : (parse declaredRestDefaultSource []).toOption.isNone = true := by
    decide +kernel
  obtain ⟨program, parsed, checked⟩ := ok_of_any checked
  obtain ⟨arrow, member, checked⟩ := List.any_eq_true.mp checked
  obtain ⟨p, found, rest⟩ := (Option.any_eq_true _ _).mp checked
  obtain ⟨body, form⟩ := form_of_onlyParameter? found
  exact ⟨program, arrow, p, body, parsed, member, form, not_isPattern_of_isRestDefault rest,
    Option.isNone_iff_eq_none.mp refused⟩

end Grammar

end Hyperscript
