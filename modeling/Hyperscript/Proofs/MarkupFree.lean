import Hyperscript.Proofs.LoweredElement
import Hyperscript.Proofs.Printable

/-!
# Lowering leaves no markup

Every piece of markup has a role in the element that it belongs to, and the lowering of the element
uses it up: tags become names, members and strings, attributes become entries of objects, and
children become arguments. What is left of a program is code that can be printed.
-/
namespace Hyperscript

namespace Node

open Lowering

variable {Literal : Node → Prop}

/-- Markup without namespaced names is plain. -/
theorem Fits.plain {n : Node} {r : Role} (h : n.Fits Literal .full r)
    (names : ∀ m ∈ n.walk, m.isNamespacedName = false) : n.Fits Literal .plain r := by
  induction h with
  | @intro r place form plays keeps _ ih =>
    have own := names ⟨place, form⟩ (self_mem_walk _)
    refine .intro ?_ keeps ?_
    · cases form <;> first | (cases r <;> exact plays) | cases own
    · intro part member
      have child := (Form.mem_children_iff r).mpr ⟨part, member, rfl⟩
      exact ih part member fun m hm => names m (mem_walk_of_mem_children child hm)

variable {markup : Markup}

theorem fits_binding (config : Config) (m : Method) :
    (m.binding config).Fits Literal markup .code := by
  have factory : (m.factory config).Fits Literal markup .code := by
    rw [Method.factory]
    split <;> simp [Node.plain, fits_mk]
  simp [Method.binding, Node.plain, fits_mk] at factory ⊢
  exact factory

theorem fits_prepend {statement body : Node} (first : statement.Fits Literal markup .code)
    (h : body.Fits Literal markup .code) :
    (Binding.prepend statement body).Fits Literal markup .code := by
  obtain ⟨place, form⟩ := body
  cases form
  case block | program | classBody =>
    obtain ⟨-, -, parts⟩ := fits_mk.mp h
    refine .intro rfl (fun _ => trivial) ?_
    simp only [Form.parts, Form.children, List.map_cons, List.forall_mem_cons]
    exact ⟨first, parts⟩
  all_goals exact h

theorem isBlock_prepend (statement body : Node) :
    (Binding.prepend statement body).isBlock = body.isBlock := by
  obtain ⟨place, form⟩ := body
  cases form <;> rfl

theorem fits_prependTo {statement : Node} {place : Place} {form : Form Node} {r : Role}
    (first : statement.Fits Literal markup .code) (h : Node.Fits Literal markup r ⟨place, form⟩) :
    Node.Fits Literal markup r ⟨place, Binding.prependTo statement form⟩ := by
  obtain ⟨plays, keeps, parts⟩ := fits_mk.mp h
  cases form
  case objectMethod key params body computed =>
    refine .intro (by cases r <;> exact plays) (fun role => ?_) ?_
    · exact (isBlock_prepend statement body).trans (keeps role)
    simp only [Binding.prependTo, Form.parts, Form.children, List.mem_map, List.mem_append,
      List.mem_singleton, forall_exists_index, and_imp, forall_apply_eq_imp_iff₂] at parts ⊢
    rintro c ((rfl | member) | rfl)
    · exact parts c (.inl (.inl rfl))
    · exact parts c (.inl (.inr member))
    · exact fits_prepend first (parts body (.inr rfl))
  case classMethod key params body kind isStatic computed decorators =>
    refine .intro (by cases r <;> exact plays) (fun role => ?_) ?_
    · exact (isBlock_prepend statement body).trans (keeps role)
    simp only [Binding.prependTo, Form.parts, Form.children, List.mem_map, List.mem_append,
      List.mem_singleton, forall_exists_index, and_imp, forall_apply_eq_imp_iff₂] at parts ⊢
    rintro c (((rfl | member) | rfl) | member)
    · exact parts c (.inl (.inl (.inl rfl)))
    · exact parts c (.inl (.inl (.inr member)))
    · exact fits_prepend first (parts body (.inl (.inr rfl)))
    · exact parts c (.inr member)
  all_goals exact h

theorem isBlock_inserted (config : Config) (n : Node) :
    (n.fold (Binding.layer config)).node.isBlock = n.isBlock := by
  obtain ⟨place, form⟩ := n
  simp only [fold_mk, Binding.layer]
  cases form <;> (split <;> rfl)

/-- Bindings are code in front of code. -/
theorem Fits.bound {n : Node} {r : Role} (h : n.Fits Literal markup r) (config : Config) :
    (Lowering.bound config n).Fits Literal markup r := by
  rw [Lowering.bound]
  split
  · rw [Binding.insert]
    induction h with
    | @intro r place form plays keeps _ ih =>
      have inner : Node.Fits Literal markup r
          ⟨place, (form.map (fold (Binding.layer config))).map Binding.Bound.node⟩ := by
        rw [Form.map_map]
        refine .intro ?_ (fun role => ?_) ?_
        · rwa [Form.plays_map]
        · exact keeps_map (fun m block => (isBlock_inserted config m).trans block) (keeps role)
        · rw [Form.parts_map]
          intro part member
          obtain ⟨own, inside, rfl⟩ := List.mem_map.mp member
          exact ih own inside
      simp only [fold_mk, Binding.layer]
      split
      · exact inner
      · exact fits_prependTo (fits_binding config _) inner
  · exact h

/-- The expression that the value of an attribute stands for. -/
theorem fits_value {value : Option Node}
    (h : ∀ v ∈ value.toList, v.Fits Literal markup .attributeValue) :
    (Attribute.expression value).Fits Literal markup .code := by
  cases value with
  | none => simp [Attribute.expression, Node.plain, fits_mk]
  | some v =>
    obtain ⟨place, form⟩ := v
    obtain ⟨plays, -, parts⟩ := fits_mk.mp (h ⟨place, form⟩ (by simp))
    cases form
    case string value spelling => simp [Attribute.expression, fits_mk]
    case jsxExpressionContainer expression =>
      exact parts (.code, expression) (by simp)
    all_goals cases plays

theorem fits_ofNode {n : Node} (h : n.Fits Literal markup .attribute) :
    (Attribute.ofNode n).Made (fun _ => True) (Fits Literal markup .code) := by
  obtain ⟨place, form⟩ := n
  obtain ⟨plays, -, parts⟩ := fits_mk.mp h
  cases form
  case jsxAttribute name value =>
    refine ⟨fun _ _ => trivial, fits_value ?_⟩
    exact fun v hv => parts (.attributeValue, v) (by simpa using hv)
  case jsxSpreadAttribute argument => exact parts (.code, argument) (by simp)
  all_goals cases plays

/-- What is left of the braces of a child is code. -/
theorem fits_content {n : Node} (h : n.Fits Literal markup .content)
    (filled : Child.isEmptyExpression n = false) : n.Fits Literal markup .code := by
  obtain ⟨place, form⟩ := n
  obtain ⟨plays, keeps, parts⟩ := fits_mk.mp h
  refine .intro ?_ (fun _ => keeps (by decide)) ?_
  · cases form <;> first | exact plays | cases filled
  · cases form <;> exact parts

theorem fits_argument {n argument : Node} (h : n.Fits Literal markup .child)
    (found : Child.argument? n = some argument) : argument.Fits Literal markup .code := by
  obtain ⟨place, form⟩ := n
  obtain ⟨plays, keeps, parts⟩ := fits_mk.mp h
  cases form
  case jsxText value spelling =>
    obtain ⟨text, -, rfl⟩ := Option.map_eq_some_iff.mp found
    simp [fits_mk]
  case jsxExpressionContainer expression =>
    simp only [Child.argument?] at found
    split at found <;> cases found
    rename_i filled
    apply fits_content (parts (.content, argument) (by simp))
    simpa using filled
  all_goals first | (cases found; exact .intro plays (fun _ => keeps (by decide)) parts) | cases found

/-- The nodes that a lowering makes are code, if what they are made of is. -/
theorem closed_fits (config : Config) (helper : Text) :
    Closed config helper (fun _ => True) (fun _ => True) (Fits Literal markup .code) where
  identifier place name _ := by simp [fits_mk]
  this place := by simp [fits_mk]
  string place value := by simp [fits_mk]
  null place := by simp [fits_mk]
  member place object property computed first second := by simp [fits_mk, first, second]
  property place key value first second := by simp [fits_mk, first, second]
  object place members each := .intro rfl (fun _ => trivial) (by simpa using each)
  list place items each := .intro rfl (fun _ => trivial) (by simpa using each)
  factory place arguments pretty each := by
    refine .intro rfl (fun _ => trivial) ?_
    simpa [Node.plain, fits_mk] using each
  merge groups _ each := by
    simp only [PropGroup.mergeCall, Node.plain, fits_mk]
    simpa [fits_mk] using each
  bucket _ := trivial
  directive := ⟨trivial, trivial⟩

theorem isBlock_pureLowering (config : Config) (helper : Text) {n : Node} (h : n.isBlock = true) :
    (Lowering.pureLowering config helper n).isBlock = true := by
  obtain ⟨place, form⟩ := n
  cases form <;> simp only [isBlock, reduceCtorEq] at h
  rw [pureLowering_of_not_element config helper rfl]
  rfl

/-- The lowering of a tree keeps every role and leaves no element. -/
theorem Fits.pureLowering {n : Node} {r : Role} (h : n.Fits Literal .plain r) (config : Config)
    (helper : Text) : (Lowering.pureLowering config helper n).Fits Literal .absent r := by
  induction h with
  | @intro r place form plays keeps parts ih =>
    cases element : (Node.mk place form).isElement with
    | false =>
      rw [pureLowering_of_not_element config helper element]
      refine .intro ?_ (fun role => ?_) ?_
      · rw [Form.plays_map]
        cases form <;> first | (cases r <;> exact plays) | cases element
      · exact keeps_map (fun m => isBlock_pureLowering config helper) (keeps role)
      · rw [Form.parts_map]
        intro part member
        obtain ⟨own, inside, rfl⟩ := List.mem_map.mp member
        exact ih own inside
    | true =>
      cases form <;> simp only [isElement, reduceCtorEq] at element
      case jsxElement name attributes children closes =>
      rw [pureLowering_element config helper rfl]
      have made : Element.Made (fun _ => True) (Fits Literal .absent .code)
          (Element.map (Lowering.pureLowering config helper)
            ⟨place, name, attributes.map Attribute.ofNode, children⟩) := by
        refine ⟨(ih (.tag, name) (by simp)).mono fun _ _ => trivial, fun _ _ _ _ => trivial, ?_, ?_⟩
        · intro a ha
          simp only [Element.map, List.map_map, List.mem_map, Function.comp_apply] at ha
          obtain ⟨c, hc, rfl⟩ := ha
          rw [← attribute_pureLowering]
          exact fits_ofNode (ih (.attribute, c) (by simp [hc]))
        · intro argument member
          obtain ⟨m, hm, found⟩ := List.mem_filterMap.mp member
          obtain ⟨c, hc, rfl⟩ := List.mem_map.mp hm
          exact fits_argument (ih (.child, c) (by simp [hc])) found
      have code := (closed_fits config helper).lowered made fun _ => trivial
      cases r
      case code => exact code
      case child => exact code.child
      case content => exact code.content
      all_goals cases plays

end Node

namespace Lowering

variable {Literal : Node → Prop}

theorem fits_declaration (h : Helper) : h.declaration.Fits Literal .absent .code := by
  have specifier : h.specifier.Fits Literal .absent .code := by
    simp only [Helper.specifier]
    split <;> simp [Node.plain, Node.fits_mk]
  simp [Helper.declaration, Node.plain, Node.fits_mk] at specifier ⊢
  exact specifier

theorem fits_apply {r : Registry} {program : Node} (h : program.Fits Literal .absent .code) :
    (r.apply program).Fits Literal .absent .code := by
  obtain ⟨place, form⟩ := program
  cases form
  case program body =>
    obtain ⟨-, -, parts⟩ := Node.fits_mk.mp h
    refine .intro rfl (fun _ => trivial) ?_
    simp only [Form.parts, Form.children, List.map_append, List.mem_append, List.mem_map] at parts ⊢
    rintro part (⟨_, ⟨helper, -, rfl⟩, rfl⟩ | ⟨m, hm, rfl⟩)
    · exact fits_declaration helper
    · exact parts (.code, m) ⟨m, hm, rfl⟩
  all_goals exact h

/-- What a lowerer leaves of a program is code without markup, with the literals of the program. -/
theorem fits_lowered {program : Node} (fits : program.Fits Literal .full .code)
    (plain : ∀ n ∈ program.walk, n.isNamespacedName = false) (l : Lowerer) :
    ∃ (lowered : Lowered) (next : Lowerer), l.lower program = .ok (lowered, next) ∧
      lowered.program.Fits Literal .absent .code := by
  obtain ⟨helper, lowered, next, result, -, -, tree, -⟩ := lower_ok plain l
  refine ⟨lowered, next, result, ?_⟩
  rw [tree]
  exact fits_apply (((fits.plain plain).bound l.config).pureLowering l.config helper)

/-- The lowering of a parsed program without namespaced names succeeds, leaves no node of markup at
any depth, and what it leaves can be printed. -/
theorem lower_leaves_no_markup {source name : Text} {program : Node}
    (parsed : Grammar.parse source name = .ok program)
    (plain : ∀ n ∈ program.walk, n.isNamespacedName = false) (l : Lowerer) :
    ∃ (lowered : Lowered) (next : Lowerer), l.lower program = .ok (lowered, next) ∧
      (∀ m ∈ lowered.program.walk, m.isMarkup = false) ∧
      ∀ (pretty : Bool) (depth : Nat), ∃ text, lowered.program.print pretty depth = .ok text := by
  obtain ⟨lowered, next, result, code⟩ := fits_lowered (Grammar.parse_fits parsed) plain l
  have each := fun m hm => (code.forall_isCode (.inl rfl) m hm).1
  refine ⟨lowered, next, result, ?_, ?_⟩
  · exact fun m hm => Form.isMarkup_of_isCode (each m hm)
  · exact fun pretty depth => Node.print_succeeds each depth

theorem lower_leaves_no_markup_spread :
    ∃ (program : Node) (lowered : Lowered) (next : Lowerer),
      Grammar.parse spreadSource [] = .ok program ∧
      (Lowerer.new {} { verbose := false }).lower program = .ok (lowered, next) ∧
      (∀ m ∈ lowered.program.walk, m.isMarkup = false) ∧
      ∀ (pretty : Bool) (depth : Nat), ∃ text, lowered.program.print pretty depth = .ok text := by
  obtain ⟨program, parsed, plain, -⟩ := spreadSource_parses
  obtain ⟨lowered, next, result, markup, printed⟩ :=
    lower_leaves_no_markup parsed plain (Lowerer.new {} { verbose := false })
  exact ⟨program, lowered, next, parsed, result, markup, printed⟩

end Lowering

end Hyperscript
