import Hyperscript.Lowering.Lowerer
import Hyperscript.Proofs.FreshName
import Hyperscript.Proofs.ParsedRole

/-!
# Lowering without a state

A run over a program threads a registry and two counters through the tree. Nothing of them shows in
the result but the local name of the helper, which is the same wherever it is asked for: the tree
that is left is that of a recursion over the nodes, and the state only counts the elements.
-/
namespace Hyperscript.Lowering

namespace Attribute

/-- The attribute with other nodes in place of its own. -/
def map (f : Node → Node) : Attribute → Attribute
  | .named place name value => .named place (f name) (value.map f)
  | .spread argument => .spread (f argument)

end Attribute

namespace PropGroup

/-- The second argument of a call, if the helper goes by the given name. -/
def props (config : Config) (helper : Text) : List PropGroup → Node
  | [] => .plain .null
  | [group] => group.expression config.grouping
  | groups => mergeCall config.grouping groups helper

end PropGroup

namespace Element

/-- The element with other nodes in place of its own. -/
def map (f : Node → Node) (e : Element) : Element :=
  ⟨e.place, f e.name, e.attributes.map (Attribute.map f), e.children.map f⟩

/-- The groups into which spreads divide the attributes. -/
def groups (config : Config) (e : Element) : List PropGroup :=
  (e.head config.customTag).groups config.mustUseProp

/-- The call that an element stands for, if its parts are lowered already. -/
def lowered (config : Config) (helper : Text) (e : Element) : Node :=
  e.call config.pragma (e.head config.customTag).tag
    (PropGroup.props config helper (e.groups config))

end Element

/-- The call that a node stands for if it is an element, and the node itself if it is none. -/
def lowerNode (config : Config) (helper : Text) (n : Node) : Node :=
  match Element.ofNode? n with
  | some e => e.lowered config helper
  | none => n

/-- Lowers every element of a tree, innermost first, given the local name of the helper. -/
def pureLowering (config : Config) (helper : Text) : Node → Node :=
  Node.rebuild fun place form => lowerNode config helper ⟨place, form⟩

/-- The node is an element with more than one group of properties. -/
def isMergeSite (config : Config) (n : Node) : Bool :=
  (Element.ofNode? n).any fun e => 1 < (e.groups config).length

section Equations

variable {n : Node}

theorem ofNode?_eq_none_iff : Element.ofNode? n = none ↔ n.isElement = false := by
  obtain ⟨place, form⟩ := n
  cases form <;> simp [Element.ofNode?, Node.isElement]

theorem ofNode?_map (f : Node → Node) (place : Place) (form : Form Node)
    (attributes : ∀ c ∈ form.children, Attribute.ofNode (f c) = (Attribute.ofNode c).map f) :
    Element.ofNode? ⟨place, form.map f⟩ = (Element.ofNode? ⟨place, form⟩).map (Element.map f) := by
  cases form <;> try rfl
  case jsxElement name own children closes =>
    have same : own.map (Attribute.ofNode ∘ f) = own.map (Attribute.map f ∘ Attribute.ofNode) :=
      List.map_congr_left fun c hc => attributes c (by simp [hc])
    simp [Element.ofNode?, Form.map, Element.map, same]

variable (config : Config) (helper : Text)

theorem pureLowering_eq (n : Node) : pureLowering config helper n =
    lowerNode config helper ⟨n.place, n.form.map (pureLowering config helper)⟩ :=
  Node.fold_eq _ n

/-- A node that is no element keeps its place, its kind and everything that is no node. -/
theorem pureLowering_of_not_element (h : n.isElement = false) :
    pureLowering config helper n = ⟨n.place, n.form.map (pureLowering config helper)⟩ := by
  have other : Element.ofNode? ⟨n.place, n.form.map (pureLowering config helper)⟩ = none := by
    rw [ofNode?_eq_none_iff, ← h]
    obtain ⟨place, form⟩ := n
    cases form <;> rfl
  rw [pureLowering_eq, lowerNode, other]

theorem pureLowering_form (h : n.isElement = false) :
    (pureLowering config helper n).form = n.form.map (pureLowering config helper) := by
  rw [pureLowering_of_not_element config helper h]

/-- An element is lowered to a call, whatever it is made of. -/
theorem pureLowering_isCall (h : n.isElement = true) :
    ∃ callee arguments pretty,
      pureLowering config helper n = ⟨n.place, .call callee arguments pretty⟩ := by
  obtain ⟨place, form⟩ := n
  cases form <;> simp only [Node.isElement, reduceCtorEq] at h
  rw [pureLowering_eq]
  exact ⟨_, _, _, rfl⟩

theorem attribute_pureLowering (n : Node) :
    Attribute.ofNode (pureLowering config helper n) =
      (Attribute.ofNode n).map (pureLowering config helper) := by
  cases element : n.isElement with
  | true =>
    have call := pureLowering_isCall config helper element
    obtain ⟨callee, arguments, pretty, same⟩ := call
    obtain ⟨place, form⟩ := n
    cases form <;> simp only [Node.isElement, reduceCtorEq] at element
    rw [same]
    exact congrArg Attribute.spread same.symm
  | false =>
    rw [pureLowering_of_not_element config helper element]
    obtain ⟨place, form⟩ := n
    cases form <;> first
      | rfl
      | exact congrArg _ (pureLowering_of_not_element config helper element).symm

theorem pureLowering_element {e : Element} (h : Element.ofNode? n = some e) :
    pureLowering config helper n =
      (e.map (pureLowering config helper)).lowered config helper := by
  rw [pureLowering_eq, lowerNode, ofNode?_map _ _ _ fun c _ => attribute_pureLowering config helper c,
    Node.mk_place_form, h]
  rfl

/-- A question about the kind and the texts of a node has the same answer after the lowering, if it
does not tell elements and calls from each other. -/
theorem pureLowering_ask {β : Type} (ask : Form Node → β)
    (layer : ∀ form : Form Node, ask (form.map (pureLowering config helper)) = ask form)
    (calls : ∀ name attributes children closes callee arguments pretty,
      ask (.jsxElement name attributes children closes) = ask (.call callee arguments pretty))
    (n : Node) : ask (pureLowering config helper n).form = ask n.form := by
  cases element : n.isElement with
  | true =>
    obtain ⟨callee, arguments, pretty, same⟩ := pureLowering_isCall config helper element
    obtain ⟨place, form⟩ := n
    cases form <;> simp only [Node.isElement, reduceCtorEq] at element
    rw [same]
    exact (calls ..).symm
  | false => rw [pureLowering_form config helper element, layer]

end Equations

section Groups

/-- The name that a form of markup is. -/
def jsxName? : Form Node → Option Text
  | .jsxIdentifier name => some name
  | _ => none

/-- The value of a string. -/
def stringValue? : Form Node → Option Text
  | .string value _ => some value
  | _ => none

/-- The name by which a tag is looked up, if it has one. -/
def tagName? : Form Node → Option Text
  | .jsxIdentifier name => if name = "this" then none else some name
  | .identifier name => some name
  | .string value _ => some value
  | _ => none

theorem name?_named (place : Place) (name : Node) (value : Option Node) :
    Attribute.name? (.named place name value) = jsxName? name.form := by
  obtain ⟨_, form⟩ := name
  cases form <;> rfl

theorem string?_named (place : Place) (name value : Node) :
    Attribute.string? (.named place name (some value)) = stringValue? value.form := by
  obtain ⟨_, form⟩ := value
  cases form <;> rfl

theorem plainName?_expression (n : Node) :
    Tag.plainName? (Tag.expression false n) = tagName? n.form := by
  obtain ⟨place, form⟩ := n
  cases form <;> try rfl
  case jsxIdentifier name =>
    simp only [Tag.expression, tagName?, Bool.not_false, Bool.true_and, decide_eq_true_eq]
    split
    · rfl
    · split <;> rfl

/-- A map of the nodes of a tree that keeps the names and the strings by which elements and their
attributes are looked up. -/
structure KeepsNames (f : Node → Node) : Prop where
  ofNode : ∀ n : Node, Attribute.ofNode (f n) = (Attribute.ofNode n).map f
  jsxName : ∀ n : Node, jsxName? (f n).form = jsxName? n.form
  string : ∀ n : Node, stringValue? (f n).form = stringValue? n.form
  tagName : ∀ n : Node, tagName? (f n).form = tagName? n.form

theorem pureLowering_keepsNames (config : Config) (helper : Text) :
    KeepsNames (pureLowering config helper) where
  ofNode := attribute_pureLowering config helper
  jsxName := pureLowering_ask config helper jsxName? (fun form => by cases form <;> rfl)
    (fun _ _ _ _ _ _ _ => rfl)
  string := pureLowering_ask config helper stringValue? (fun form => by cases form <;> rfl)
    (fun _ _ _ _ _ _ _ => rfl)
  tagName := pureLowering_ask config helper tagName? (fun form => by cases form <;> rfl)
    (fun _ _ _ _ _ _ _ => rfl)

namespace KeepsNames

variable {f : Node → Node}

theorem name?_map (keeps : KeepsNames f) (a : Attribute) : (a.map f).name? = a.name? := by
  cases a with
  | spread argument => rfl
  | named place name value =>
    rw [Attribute.map, name?_named, name?_named]
    exact keeps.jsxName name

theorem string?_map (keeps : KeepsNames f) (a : Attribute) : (a.map f).string? = a.string? := by
  cases a with
  | spread argument => rfl
  | named place name value =>
    cases value with
    | none => rfl
    | some value =>
      rw [Attribute.map, Option.map_some, string?_named, string?_named]
      exact keeps.string value

theorem plainName?_expression (keeps : KeepsNames f) (n : Node) :
    Tag.plainName? (Tag.expression false (f n)) = Tag.plainName? (Tag.expression false n) := by
  rw [Lowering.plainName?_expression, Lowering.plainName?_expression]
  exact keeps.tagName n

theorem custom?_map (keeps : KeepsNames f) (customTag name : Option Text)
    (attributes : List Attribute) :
    Tag.custom? customTag name (attributes.map (Attribute.map f)) =
      (Tag.custom? customTag name attributes).map fun found =>
        (found.1, found.2.map (Attribute.map f)) := by
  have targets (a : Attribute) : Tag.isTarget (a.map f) = Tag.isTarget a := by
    rw [Tag.isTarget, keeps.name?_map, Tag.isTarget]
  simp only [Tag.custom?]
  split
  · simp only [List.findSome?_map, List.filter_map, Option.map_map, Function.comp_def, targets,
      keeps.string?_map]
  · rfl

/-- The map changes neither the name of an element nor which of its attributes are left for it. -/
theorem head_map (keeps : KeepsNames f) (config : Config) (e : Element) :
    ((e.map f).head config.customTag).name = (e.head config.customTag).name ∧
      ((e.map f).head config.customTag).attributes =
        (e.head config.customTag).attributes.map (Attribute.map f) := by
  simp only [Element.head, Element.map, keeps.plainName?_expression, keeps.custom?_map]
  cases Tag.custom? config.customTag (Tag.plainName? (Tag.expression false e.name))
    e.attributes with
  | some found => exact ⟨rfl, rfl⟩
  | none => cases Tag.plainName? (Tag.expression false e.name) <;> exact ⟨rfl, rfl⟩

end KeepsNames

theorem length_close {first second : List Entry} (h : first.length = second.length) :
    (PropGroup.close first).length = (PropGroup.close second).length := by
  cases first <;> cases second <;> simp_all [PropGroup.close]

/-- How many groups there are depends only on where spreads stand. -/
theorem length_split_map (f : Node → Node) (rule : PropRule) (tag other : Descriptor)
    {first second : List Entry} (attributes : List Attribute)
    (h : first.length = second.length) :
    (PropGroup.split rule tag first (attributes.map (Attribute.map f))).length =
      (PropGroup.split rule other second attributes).length := by
  induction attributes generalizing first second with
  | nil => exact length_close h
  | cons a rest ih =>
    cases a with
    | spread argument =>
      simp only [List.map_cons, Attribute.map, PropGroup.split, List.length_append,
        List.length_cons, length_close h, ih (Eq.refl ([] : List Entry).length)]
    | named place name value =>
      apply ih
      rw [List.length_append, List.length_append, h]
      rfl

theorem KeepsNames.length_groups {f : Node → Node} (keeps : KeepsNames f) (config : Config)
    (e : Element) : ((e.map f).groups config).length = (e.groups config).length := by
  rw [Element.groups, Element.groups, Head.groups, Head.groups, (keeps.head_map config e).2]
  exact length_split_map _ _ _ _ _ rfl

end Groups

section Run

variable (config : Config) (helper : Text)

/-- The registry gives the helper this name, now or when it is asked for it. -/
def Registry.Gives (r : Registry) : Prop :=
  (r.resolve config.mergeModule config.mergeExport config.mergeAlias).1 = helper

/-- The progress after an element that stands at the node, if one does. -/
def Progress.after (p : Progress) (n : Node) : Progress :=
  match Element.ofNode? n with
  | some e => (e.lower config p).2
  | none => p

/-- A helper that has been imported is not imported again. -/
theorem Registry.resolve_resolve (r : Registry) (source exported name : Text) :
    (r.resolve source exported name).2.resolve source exported name =
      r.resolve source exported name := by
  cases found : r.find? source exported with
  | some helper => simp only [Registry.resolve, found]
  | none =>
    let helper : Helper := ⟨source, exported, r.freshName name⟩
    have here : (r.helpers ++ [helper]).find? (·.provides source exported) = some helper := by
      rw [Registry.find?] at found
      rw [List.find?_append, found]
      simp [helper, Helper.provides]
    simp only [Registry.resolve, found]
    rw [Registry.find?, here]

theorem merge_eq (groups : List PropGroup) (r : Registry) :
    PropGroup.merge config groups r =
      (PropGroup.props config (r.resolve config.mergeModule config.mergeExport
          config.mergeAlias).1 groups,
        if 1 < groups.length then
          (r.resolve config.mergeModule config.mergeExport config.mergeAlias).2
        else r) := by
  match groups with
  | [] => rfl
  | [group] => rfl
  | first :: second :: rest => simp [PropGroup.merge, PropGroup.props]

/-- Lowering an element after its parts gives the call of the stateless lowering, and the progress
is the same as if the parts had not been lowered. -/
theorem lower_map {e : Element} {p : Progress} (gives : p.registry.Gives config helper) :
    (e.map (pureLowering config helper)).lower config p =
      ((e.map (pureLowering config helper)).lowered config helper, (e.lower config p).2) := by
  have keeps := pureLowering_keepsNames config helper
  have same := keeps.length_groups config e
  have name := (keeps.head_map config e).1
  rw [Registry.Gives] at gives
  simp only [Element.groups] at same
  simp only [Element.lower, merge_eq, Element.lowered, Element.groups, same, name, gives]
  rfl

theorem Registry.Gives.after {p : Progress} (gives : p.registry.Gives config helper) (n : Node) :
    (p.after config n).registry.Gives config helper := by
  rw [Progress.after]
  split
  · simp only [Element.lower, merge_eq]
    split
    · rw [Registry.Gives, Registry.resolve_resolve]
      exact gives
    · exact gives
  · exact gives

theorem Registry.Gives.foldl {p : Progress} (gives : p.registry.Gives config helper)
    (visited : List Node) :
    (visited.foldl (Progress.after config) p).registry.Gives config helper := by
  induction visited generalizing p with
  | nil => exact gives
  | cons n rest ih => exact ih (gives.after config helper n)

/-- The computation returns the value and leaves the progress of visiting the nodes, wherever the
registry gives the helper its name. -/
def Returns {α : Type} (run : StateM Progress α) (value : α) (visited : List Node) : Prop :=
  ∀ p : Progress, p.registry.Gives config helper →
    run p = (value, visited.foldl (Progress.after config) p)

variable {config helper}

namespace Returns

theorem pure {α : Type} (value : α) : Returns config helper (Pure.pure value) value [] :=
  fun _ _ => rfl

theorem bind {α β : Type} {run : StateM Progress α} {next : α → StateM Progress β} {value : α}
    {result : β} {first second : List Node} (h : Returns config helper run value first)
    (later : Returns config helper (next value) result second) :
    Returns config helper (run >>= next) result (first ++ second) := by
  intro p gives
  have moved := h p gives
  calc (run >>= next) p = next (run p).1 (run p).2 := rfl
    _ = next value (first.foldl (Progress.after config) p) := by rw [moved]
    _ = (result, (first ++ second).foldl (Progress.after config) p) := by
      rw [later _ (gives.foldl config helper first), List.foldl_append]

variable {α β : Type} {run : α → StateM Progress β} {value : α → β} {visited : α → List Node}

theorem list {xs : List α}
    (each : ∀ x ∈ xs, Returns config helper (run x) (value x) (visited x)) :
    Returns config helper (xs.mapM run) (xs.map value) (xs.flatMap visited) := by
  induction xs with
  | nil => exact pure []
  | cons x rest ih =>
    rw [List.mapM_cons, List.flatMap_cons]
    apply bind (each x List.mem_cons_self)
    have others := ih fun y hy => each y (List.mem_cons_of_mem x hy)
    rw [← List.append_nil (rest.flatMap visited)]
    exact bind others (pure _)

theorem option {x : Option α}
    (each : ∀ y ∈ x.toList, Returns config helper (run y) (value y) (visited y)) :
    Returns config helper (x.mapM run) (x.map value) (x.toList.flatMap visited) := by
  cases x with
  | none => exact pure none
  | some y =>
    have own := each y (by simp)
    simp only [Option.mapM_some, Option.toList_some, List.flatMap_cons, List.flatMap_nil,
      map_eq_pure_bind]
    exact bind own (pure _)

/-- The parts of a form are visited in their order. -/
theorem traverse {form : Form α}
    (each : ∀ x ∈ form.children, Returns config helper (run x) (value x) (visited x)) :
    Returns config helper (form.traverse run) (form.map value) (form.children.flatMap visited) := by
  rw [← List.append_nil (form.children.flatMap visited)]
  cases form <;>
    simp only [Form.traverse, Form.map, Form.children, List.flatMap_append, List.flatMap_cons,
      List.flatMap_nil, List.append_assoc, List.nil_append, List.mem_append, List.mem_cons,
      List.not_mem_nil, or_false] at each ⊢ <;>
    repeat
      first
      | exact pure _
      | refine bind (each _ (by simp)) ?_
      | refine bind (list fun x hx => each x (by simp [hx])) ?_
      | refine bind (option fun x hx => each x (by simp [hx])) ?_

end Returns

theorem traverse_map {m : Type → Type} [Monad m] [LawfulMonad m] {α β γ : Type} (f : β → m γ)
    (g : α → β)
    (form : Form α) : (form.map g).traverse f = form.traverse (f ∘ g) := by
  have list (xs : List α) : (xs.map g).mapM f = xs.mapM (f ∘ g) := List.mapM_map
  have option (x : Option α) : (x.map g).mapM f = x.mapM (f ∘ g) := by cases x <;> rfl
  cases form <;> simp only [Form.map, Form.traverse, list, option, Function.comp_apply]

/-- The run over a tree leaves what the stateless lowering leaves, and visits every node once, parts
first. -/
theorem lowerElements_returns (config : Config) (helper : Text) (n : Node) :
    Returns config helper (lowerElements config n) (pureLowering config helper n) n.postorder := by
  induction n using Node.induction with
  | step n ih =>
    have form := Returns.traverse ih
    rw [lowerElements, Node.fold_eq, traverse_map, Node.postorder_eq]
    apply Returns.bind form
    intro p gives
    have own := ofNode?_map _ n.place n.form fun c _ => attribute_pureLowering config helper c
    rw [Node.mk_place_form] at own
    cases element : Element.ofNode? n with
    | some e =>
      rw [element] at own
      rw [pureLowering_element config helper element]
      simp only [own, Option.map_some, List.foldl_cons, List.foldl_nil, Progress.after, element]
      exact lower_map config helper gives
    | none =>
      rw [element] at own
      rw [pureLowering_of_not_element config helper (ofNode?_eq_none_iff.mp element)]
      simp only [own, Option.map_none, List.foldl_cons, List.foldl_nil, Progress.after, element]
      rfl

variable (config) in
theorem after_eq (p : Progress) (n : Node) :
    (p.after config n).elements = (if n.isElement then p.elements + 1 else p.elements) ∧
      (p.after config n).mergeSites =
        (if isMergeSite config n then p.mergeSites + 1 else p.mergeSites) ∧
      (p.after config n).registry = if isMergeSite config n then
        (p.registry.resolve config.mergeModule config.mergeExport config.mergeAlias).2
        else p.registry := by
  cases found : Element.ofNode? n with
  | none =>
    have other := ofNode?_eq_none_iff.mp found
    simp [Progress.after, isMergeSite, found, other]
  | some e =>
    have element : n.isElement = true := by
      by_contra other
      rw [ofNode?_eq_none_iff.mpr (by simpa using other)] at found
      cases found
    by_cases several : 1 < ((e.head config.customTag).groups config.mustUseProp).length
    · simp [Progress.after, isMergeSite, found, element, Element.lower, merge_eq, Element.groups,
        several]
    · simp [Progress.after, isMergeSite, found, element, Element.lower, merge_eq, Element.groups,
        several]

variable (config) in
/-- A run counts elements and merge sites, and imports the helper if there is a merge site. -/
theorem foldl_after (visited : List Node) (p : Progress) :
    (visited.foldl (Progress.after config) p).elements =
        p.elements + visited.countP Node.isElement ∧
      (visited.foldl (Progress.after config) p).mergeSites =
        p.mergeSites + visited.countP (isMergeSite config) ∧
      (visited.foldl (Progress.after config) p).registry =
        if visited.any (isMergeSite config) then
          (p.registry.resolve config.mergeModule config.mergeExport config.mergeAlias).2
        else p.registry := by
  induction visited generalizing p with
  | nil => exact ⟨rfl, rfl, rfl⟩
  | cons n rest ih =>
    obtain ⟨elements, sites, registry⟩ := ih (p.after config n)
    obtain ⟨element, site, own⟩ := after_eq config p n
    refine ⟨?_, ?_, ?_⟩
    · rw [List.foldl_cons, elements, element, List.countP_cons]
      split <;> omega
    · rw [List.foldl_cons, sites, site, List.countP_cons]
      split <;> omega
    · rw [List.foldl_cons, registry, own, List.any_cons]
      cases isMergeSite config n
      · rfl
      · simp only [if_true, Bool.true_or, Registry.resolve_resolve, ite_self]

end Run

section Programs

/-- A tree with the bindings that it needs, if they are asked for. -/
def bound (config : Config) (n : Node) : Node :=
  if config.bindsFactory then (Binding.insert config n).1 else n

theorem bound_program (config : Config) (place : Place) (body : List Node) :
    bound config ⟨place, .program body⟩ = ⟨place, .program (body.map (bound config))⟩ := by
  by_cases binds : config.bindsFactory = true
  · have each : (bound config) = fun n => (n.fold (Binding.layer config)).node := by
      funext n
      rw [bound, if_pos binds, Binding.insert]
    rw [each]
    simp [Node.fold_mk, Form.map, Binding.layer, Binding.method?, Method.ofNode?]
  · have each : bound config = id := by
      funext n
      rw [bound, if_neg binds, id]
    rw [each, List.map_id, id]

theorem isEmptyExpression_pureLowering (config : Config) (helper : Text) (n : Node) :
    Child.isEmptyExpression (pureLowering config helper n) = Child.isEmptyExpression n :=
  pureLowering_ask config helper (fun form => Child.isEmptyExpression ⟨.nowhere, form⟩)
    (fun form => by cases form <;> rfl) (fun _ _ _ _ _ _ _ => rfl) n

/-- A child that is lowered stands for the argument that it stood for before, lowered. -/
theorem argument?_pureLowering (config : Config) (helper : Text) (n : Node) :
    Child.argument? (pureLowering config helper n) =
      (Child.argument? n).map (pureLowering config helper) := by
  cases element : n.isElement with
  | true =>
    obtain ⟨callee, arguments, pretty, same⟩ := pureLowering_isCall config helper element
    obtain ⟨place, form⟩ := n
    cases form <;> simp only [Node.isElement, reduceCtorEq] at element
    rw [same]
    exact congrArg some same.symm
  | false =>
    have own := pureLowering_of_not_element config helper element
    rw [own]
    obtain ⟨place, form⟩ := n
    cases form
    case jsxText value spelling =>
      have kept (text : Text) : pureLowering config helper ⟨place, .string text none⟩ =
          ⟨place, .string text none⟩ := pureLowering_of_not_element config helper rfl
      simp only [Child.argument?, Form.map, Option.map_map, Function.comp_def, kept]
    case jsxExpressionContainer expression =>
      simp only [Child.argument?, Form.map, isEmptyExpression_pureLowering]
      split <;> rfl
    all_goals first | rfl | exact congrArg some own.symm

theorem arguments_pureLowering (config : Config) (helper : Text) (children : List Node) :
    Child.arguments (children.map (pureLowering config helper)) =
      (Child.arguments children).map (pureLowering config helper) := by
  rw [Child.arguments, List.filterMap_map, Child.arguments, List.map_filterMap]
  exact List.filterMap_congr fun n _ => argument?_pureLowering config helper n

/-- What a lowerer leaves of a program without namespaced names. -/
theorem lower_ok {program : Node} (plain : ∀ n ∈ program.walk, n.isNamespacedName = false)
    (l : Lowerer) :
    ∃ (helper : Text) (lowered : Lowered) (next : Lowerer),
      l.lower program = .ok (lowered, next) ∧
      Registry.IsFirstFree (program.walk.filterMap Node.name?) l.config.mergeAlias helper ∧
      lowered.imports =
        (if (bound l.config program).walk.any (isMergeSite l.config) then
          [⟨l.config.mergeModule, l.config.mergeExport, helper⟩] else []) ∧
      lowered.program = (Registry.mk [] lowered.imports).apply
        (pureLowering l.config helper (bound l.config program)) ∧
      lowered.elements = (bound l.config program).walk.countP Node.isElement ∧
      lowered.mergeSites = (bound l.config program).walk.countP (isMergeSite l.config) := by
  let tree := bound l.config program
  let injected := (if l.config.bindsFactory then Binding.insert l.config program
    else (program, [])).2
  let start : Progress :=
    { registry := .ofProgram program, log := injected.map (·.logLine l.config.pragma) }
  let helper := start.registry.freshName l.config.mergeAlias
  have gives : start.registry.Gives l.config helper := rfl
  have checked : checkNamespaces program = .ok () := by
    rw [checkNamespaces, Node.firstBelow_eq_none_iff.mpr plain]
  have inserted : (if l.config.bindsFactory then Binding.insert l.config program
      else (program, [])).1 = tree := by
    simp only [tree, bound]
    split <;> rfl
  have ran : (lowerElements l.config tree).run start =
      (pureLowering l.config helper tree, tree.postorder.foldl (Progress.after l.config) start) :=
    lowerElements_returns l.config helper tree start gives
  let done := tree.postorder.foldl (Progress.after l.config) start
  obtain ⟨lowered, next, result, program_eq, imports_eq, elements_eq, sites_eq⟩ :
      ∃ lowered next, l.lower program = .ok (lowered, next) ∧
        lowered.program = done.registry.apply (pureLowering l.config helper tree) ∧
        lowered.imports = done.registry.helpers ∧ lowered.elements = done.elements ∧
        lowered.mergeSites = done.mergeSites := by
    simp only [Lowerer.lower, checked, inserted]
    rw [ran]
    exact ⟨_, _, rfl, rfl, rfl, rfl, rfl⟩
  obtain ⟨elements, sites, registry⟩ := foldl_after l.config tree.postorder start
  have perm := tree.postorder_perm
  rw [perm.countP_eq, Nat.zero_add] at elements sites
  rw [perm.any_eq] at registry
  refine ⟨helper, lowered, next, result, Registry.freshName_isFirstFree start.registry _, ?_, ?_,
    elements_eq.trans elements, sites_eq.trans sites⟩
  · rw [imports_eq, registry]
    split <;> rfl
  · rw [program_eq, imports_eq]
    rfl

/-- A recursion over the nodes of a tree that lowers each element by itself. -/
structure Compositional (config : Config) (helper : Text) (f : Node → Node) : Prop where
  /-- A node that is no element keeps its place, its kind, its texts and flags, and the order of its
  parts. -/
  other : ∀ n : Node, n.isElement = false → f n = ⟨n.place, n.form.map f⟩
  /-- An element becomes a call of the factory with the tag and the properties of its lowered parts.
  The list of children is there, and the call pretty, if a child stands for an argument. -/
  element : ∀ (n : Node) (e : Element), Element.ofNode? n = some e →
    f n = ⟨n.place,
      .call (.plain (.identifier config.pragma))
        (((e.map f).head config.customTag).tag ::
          PropGroup.props config helper ((e.map f).groups config) ::
          if e.children.any (Child.argument? · |>.isSome) then
            [.plain (.arrayExpression ((Child.arguments e.children).map f))]
          else [])
        (e.children.any (Child.argument? · |>.isSome))⟩

theorem isEmpty_arguments (children : List Node) :
    (Child.arguments children).isEmpty = !children.any (Child.argument? · |>.isSome) := by
  induction children with
  | nil => rfl
  | cons n rest ih =>
    rw [Child.arguments, List.filterMap_cons, List.any_cons]
    cases Child.argument? n with
    | none => exact ih
    | some argument => rfl

theorem pureLowering_compositional (config : Config) (helper : Text) :
    Compositional config helper (pureLowering config helper) where
  other n h := pureLowering_of_not_element config helper h
  element n e h := by
    have place : n.place = e.place := by
      obtain ⟨place, form⟩ := n
      cases form <;> cases h
      rfl
    have empty := isEmpty_arguments e.children
    rw [pureLowering_element config helper h, Element.lowered, Element.call]
    simp only [Element.map, arguments_pureLowering, List.isEmpty_map, empty, place]
    cases e.children.any (Child.argument? · |>.isSome) <;> rfl

/-- The stateful lowering of a parsed program is the stateless one: the import of the helper if some
element needs it, and then the statements, bound and lowered one by one. The helper has the first
name that no identifier of the program has. -/
theorem lower_refines_pureLowering {source name : Text} {program : Node}
    (parsed : Grammar.parse source name = .ok program)
    (plain : ∀ n ∈ program.walk, n.isNamespacedName = false) (l : Lowerer) :
    ∃ (helper : Text) (lowered : Lowered) (next : Lowerer) (place : Place) (body : List Node),
      Registry.IsFirstFree (program.walk.filterMap Node.name?) l.config.mergeAlias helper ∧
      Compositional l.config helper (pureLowering l.config helper) ∧
      program = ⟨place, .program body⟩ ∧
      l.lower program = .ok (lowered, next) ∧
      lowered.imports =
        (if (bound l.config program).walk.any (isMergeSite l.config) then
          [⟨l.config.mergeModule, l.config.mergeExport, helper⟩] else []) ∧
      lowered.program = ⟨place, .program (lowered.imports.map Helper.declaration ++
        (body.map (bound l.config)).map (pureLowering l.config helper))⟩ := by
  obtain ⟨helper, lowered, next, result, free, imports, tree, -, -⟩ := lower_ok plain l
  obtain ⟨place, body, rfl⟩ := Grammar.parse_program parsed
  refine ⟨helper, lowered, next, place, body, free, pureLowering_compositional l.config helper, rfl,
    result, imports, ?_⟩
  rw [tree, bound_program, pureLowering_of_not_element l.config helper rfl]
  rfl

/-- A program with an element that needs the helper. -/
def spreadSource : Text := "<a \x7b...b\x7d c='d'>\x7be\x7d</a>"

theorem spreadSource_parses :
    ∃ program, Grammar.parse spreadSource [] = .ok program ∧
      (∀ n ∈ program.walk, n.isNamespacedName = false) ∧
      (bound {} program).walk.any (isMergeSite {}) = true := by
  have checked : ((Grammar.parse spreadSource []).toOption.any fun program =>
      program.walk.all (!·.isNamespacedName) &&
        (bound {} program).walk.any (isMergeSite {})) = true := by decide +kernel
  obtain ⟨program, parsed, checked⟩ := Grammar.ok_of_any checked
  simp only [Bool.and_eq_true, List.all_eq_true, Bool.not_eq_true'] at checked
  exact ⟨program, parsed, checked⟩

theorem lower_refines_pureLowering_spread :
    ∃ (program : Node) (helper : Text) (lowered : Lowered) (next : Lowerer),
      Grammar.parse spreadSource [] = .ok program ∧
      (Lowerer.new {} { verbose := false }).lower program = .ok (lowered, next) ∧
      lowered.imports = [⟨"babel-helper-vue-jsx-merge-props", "default", helper⟩] ∧
      Registry.IsFirstFree (program.walk.filterMap Node.name?) "_mergeJSXProps" helper := by
  obtain ⟨program, parsed, plain, site⟩ := spreadSource_parses
  obtain ⟨helper, lowered, next, place, body, free, -, -, result, imports, -⟩ :=
    lower_refines_pureLowering parsed plain (Lowerer.new {} { verbose := false })
  refine ⟨program, helper, lowered, next, parsed, result, ?_, free⟩
  rw [imports]
  exact if_pos site

end Programs

end Hyperscript.Lowering
