import Hyperscript.Proofs.Walk
import Hyperscript.Tree.Printer

/-!
# Roles of nodes

A node is used as code or as a piece of markup, and its role decides the roles of its parts. In a
tree of code where no elements are allowed there is no markup at all, because only an element has
parts that are not code. Outside the values of attributes, a string that keeps its spelling is a
literal of the script.
-/
namespace Hyperscript

/-- What a node is used as. -/
inductive Role where
  /-- A statement, an expression, a binding, or a part of one. -/
  | code
  /-- A name of the script that is written as it stands. -/
  | name
  /-- The name in a tag. -/
  | tag
  /-- The name of an attribute, or what follows a dot in a tag. -/
  | markupName
  | attribute
  | attributeValue
  | child
  /-- What stands between the braces of a child, if anything. -/
  | content
  deriving DecidableEq, Repr

/-- How much markup a tree may hold. -/
inductive Markup where
  /-- Elements, and names with a namespace in them. -/
  | full
  /-- Elements without namespaces. -/
  | plain
  | absent
  deriving DecidableEq, Repr

namespace Markup

@[simp] def hasElements : Markup → Bool
  | .full | .plain => true
  | .absent => false

@[simp] def hasNamespaces : Markup → Bool
  | .full => true
  | .plain | .absent => false

end Markup

namespace Form

attribute [simp] children

variable {α : Type}

/-- The form belongs to markup. -/
@[simp] def isMarkup : Form α → Bool
  | .jsxIdentifier _ | .jsxNamespacedName .. | .jsxMember .. | .jsxEmptyExpression
  | .jsxExpressionContainer _ | .jsxText .. | .jsxAttribute .. | .jsxSpreadAttribute _
  | .jsxElement .. => true
  | _ => false

/-- The form can stand for code. Of markup only an element can, where there may be one. -/
@[simp] def isCode (markup : Markup) : Form α → Bool
  | .bare _ => false
  | .jsxElement .. => markup.hasElements
  | form => !form.isMarkup

/-- The form can play the role. -/
@[simp] def plays (markup : Markup) : Role → Form α → Bool
  | .code, form => form.isCode markup
  | .name, .identifier _ => true
  | .tag, .jsxIdentifier _ | .tag, .jsxMember .. | .markupName, .jsxIdentifier _ => true
  | .tag, .jsxNamespacedName .. | .markupName, .jsxNamespacedName .. => markup.hasNamespaces
  | .attribute, .jsxAttribute .. | .attribute, .jsxSpreadAttribute _ => true
  | .attributeValue, .string .. | .attributeValue, .jsxExpressionContainer _ => true
  | .child, .jsxText .. | .child, .jsxExpressionContainer _ => true
  | .child, form => form.isCode markup
  | .content, .jsxEmptyExpression => true
  | .content, form => form.isCode markup
  | _, _ => false

/-- The parts with their roles, in the order of the fields. -/
@[simp] def parts (r : Role) : Form α → List (Role × α)
  | .functionExpression id params body | .functionDeclaration id params body =>
    id.toList.map (.name, ·) ++ params.map (.code, ·) ++ [(.code, body)]
  | .classExpression id superClass body decorators
  | .classDeclaration id superClass body decorators =>
    id.toList.map (.name, ·) ++ superClass.toList.map (.code, ·) ++ [(.code, body)] ++
      decorators.map (.code, ·)
  | .importSpecifier imported localName => [(.name, imported), (.name, localName)]
  | .importDefault localName => [(.name, localName)]
  | .importNamespace localName => [(.name, localName)]
  | .exportSpecifier exportee exported => [(.name, exportee), (.name, exported)]
  | .jsxNamespacedName space name => [(.markupName, space), (.markupName, name)]
  | .jsxMember object property => [(.tag, object), (.markupName, property)]
  | .jsxExpressionContainer expression =>
    [(if r = .child then .content else .code, expression)]
  | .jsxAttribute name value => (.markupName, name) :: value.toList.map (.attributeValue, ·)
  | .jsxElement name attributes children _ =>
    (.tag, name) :: attributes.map (.attribute, ·) ++ children.map (.child, ·)
  | form => form.children.map (.code, ·)

theorem parts_snd (r : Role) (form : Form α) : (form.parts r).map Prod.snd = form.children := by
  cases form <;> simp [children, Function.comp_def]

/-- Every child has one role or another. -/
theorem mem_children_iff (r : Role) {form : Form α} {c : α} :
    c ∈ form.children ↔ ∃ part ∈ form.parts r, part.2 = c := by
  rw [← parts_snd r, List.mem_map]

theorem isMarkup_of_isCode {form : Form α} (h : form.isCode .absent = true) :
    form.isMarkup = false := by
  cases form <;> first | rfl | cases h

section Map

variable {β : Type} (f : α → β) (form : Form α)

@[simp] theorem isMarkup_map : (form.map f).isMarkup = form.isMarkup := by
  cases form <;> rfl

@[simp] theorem plays_map (markup : Markup) (r : Role) :
    (form.map f).plays markup r = form.plays markup r := by
  cases r <;> cases form <;> rfl

theorem parts_map (r : Role) : (form.map f).parts r = (form.parts r).map (Prod.map id f) := by
  have optional (s : Role) (x : Option α) :
      (x.map f).toList.map (s, ·) = x.toList.map (Prod.map id f ∘ (s, ·)) := by cases x <;> rfl
  have list (s : Role) : (s, ·) ∘ f = Prod.map id f ∘ (s, ·) := rfl
  cases form <;> simp [map, parts, optional, list]

end Map

/-- The parts of code that is no element are code or names. -/
theorem role_of_mem_parts {form : Form α} (plain : form.isMarkup = false) {r : Role}
    {part : Role × α} (member : part ∈ form.parts r) : part.1 = .code ∨ part.1 = .name := by
  cases form <;> simp at plain <;>
    simp only [parts, List.mem_map, List.mem_append, List.mem_cons, List.mem_nil_iff,
      or_false] at member <;> grind

end Form

namespace Node

def isMarkup (n : Node) : Bool := n.form.isMarkup

/-- A string with a spelling is one of the literals, and the body of a method is a block. -/
@[simp] def Keeps (Literal : Node → Prop) : Node → Prop
  | ⟨place, .string value (some spelling)⟩ => Literal ⟨place, .string value (some spelling)⟩
  | ⟨_, .objectMethod _ _ body _⟩ => body.isBlock = true
  | ⟨_, .classMethod _ _ body ..⟩ => body.isBlock = true
  | _ => True

/-- The node plays the role, and so do its parts. The value of an attribute may be spelled as it
likes. -/
inductive Fits (Literal : Node → Prop) (markup : Markup) : Role → Node → Prop
  | intro {r : Role} {place : Place} {form : Form Node} : form.plays markup r = true →
      (r ≠ .attributeValue → Keeps Literal ⟨place, form⟩) →
      (∀ part ∈ form.parts r, Fits Literal markup part.1 part.2) →
      Fits Literal markup r ⟨place, form⟩

variable {Literal : Node → Prop} {markup : Markup} {r : Role}

theorem fits_mk {place : Place} {form : Form Node} :
    Fits Literal markup r ⟨place, form⟩ ↔
      form.plays markup r = true ∧ (r ≠ .attributeValue → Keeps Literal ⟨place, form⟩) ∧
        ∀ part ∈ form.parts r, Fits Literal markup part.1 part.2 := by
  constructor
  · intro h
    cases h with
    | intro plays keeps parts => exact ⟨plays, keeps, parts⟩
  · intro h
    exact .intro h.1 h.2.1 h.2.2

theorem Fits.plays {n : Node} (h : n.Fits Literal markup r) : n.form.plays markup r = true := by
  cases h with
  | intro plays _ _ => exact plays

theorem Fits.keeps {n : Node} (h : n.Fits Literal markup r) (role : r ≠ .attributeValue) :
    n.Keeps Literal := by
  cases h with
  | intro _ keeps _ => exact keeps role

theorem Fits.parts {n : Node} (h : n.Fits Literal markup r) {part : Role × Node}
    (member : part ∈ n.form.parts r) : part.2.Fits Literal markup part.1 := by
  cases h with
  | intro _ _ parts => exact parts part member

/-- Code can stand wherever a child can. -/
theorem Fits.child {n : Node} (h : n.Fits Literal markup .code) : n.Fits Literal markup .child := by
  cases h with
  | @intro _ place form plays keeps parts =>
    refine .intro ?_ (fun _ => keeps nofun) ?_
    · cases form <;> first | exact plays | cases plays
    · cases form <;> first | exact parts | cases plays

/-- Code can stand between the braces of a child. -/
theorem Fits.content {n : Node} (h : n.Fits Literal markup .code) :
    n.Fits Literal markup .content := by
  cases h with
  | @intro _ place form plays keeps parts =>
    refine .intro ?_ (fun _ => keeps nofun) ?_
    · cases form <;> first | exact plays | cases plays
    · cases form <;> exact parts

theorem Fits.isCode {n : Node} (h : n.Fits Literal .absent r) (role : r = .code ∨ r = .name) :
    n.form.isCode .absent = true := by
  have plays := h.plays
  rcases role with rfl | rfl
  · exact plays
  · obtain ⟨place, form⟩ := n
    cases form <;> first | rfl | cases plays

/-- Code without elements is code at any depth, and all its spelled strings are literals. -/
theorem Fits.forall_isCode {n : Node} (h : n.Fits Literal .absent r)
    (role : r = .code ∨ r = .name) :
    ∀ m ∈ n.walk, m.form.isCode .absent = true ∧ m.Keeps Literal := by
  induction n using Node.induction generalizing r with
  | step n ih =>
    rw [forall_mem_walk_iff]
    have own := h.isCode role
    have plain : n.form.isMarkup = false := Form.isMarkup_of_isCode own
    refine ⟨⟨own, h.keeps ?_⟩, ?_⟩
    · rcases role with rfl | rfl <;> nofun
    · intro c hc
      obtain ⟨part, member, rfl⟩ := (Form.mem_children_iff r).mp hc
      exact ih part.2 hc (h.parts member) (Form.role_of_mem_parts plain member)

/-- Parts may be replaced, as long as blocks are replaced by blocks. -/
theorem keeps_map {f : Node → Node} (blocks : ∀ m, m.isBlock = true → (f m).isBlock = true)
    {place : Place} {form : Form Node} (h : Keeps Literal ⟨place, form⟩) :
    Keeps Literal ⟨place, form.map f⟩ := by
  cases form
  case string value spelling => cases spelling <;> exact h
  case objectMethod | classMethod => exact blocks _ h
  all_goals trivial

theorem isBlock_inFile (file : Text) (n : Node) : (n.inFile file).isBlock = n.isBlock := by
  obtain ⟨place, form⟩ := n
  rw [Node.inFile, fold_mk]
  cases form <;> rfl

theorem keeps_elsewhere {Other : Node → Prop} {place other : Place} {form : Form Node}
    (more : Literal ⟨place, form⟩ → Other ⟨other, form⟩) (h : Keeps Literal ⟨place, form⟩) :
    Keeps Other ⟨other, form⟩ := by
  cases form
  case string value spelling =>
    cases spelling with
    | none => trivial
    | some text => exact more h
  all_goals exact h

theorem Fits.mono {Other : Node → Prop} {n : Node} (more : ∀ m, Literal m → Other m)
    (h : n.Fits Literal markup r) : n.Fits Other markup r := by
  induction h with
  | intro plays keeps _ ih => exact .intro plays (fun s => keeps_elsewhere (more _) (keeps s)) ih

/-- Roles have nothing to do with places. -/
theorem Fits.inFile {n : Node} (h : n.Fits Literal markup r) (file : Text)
    (anywhere : ∀ place other form, Literal ⟨place, form⟩ → Literal ⟨other, form⟩) :
    (n.inFile file).Fits Literal markup r := by
  induction h with
  | @intro r place form plays keeps _ ih =>
    rw [Node.inFile, fold_mk]
    refine .intro ?_ ?_ ?_
    · rwa [Form.plays_map]
    · intro role
      apply keeps_map fun m block => (isBlock_inFile file m).trans block
      exact keeps_elsewhere (anywhere _ _ _) (keeps role)
    · rw [Form.parts_map]
      intro part member
      obtain ⟨own, inside, rfl⟩ := List.mem_map.mp member
      exact ih own inside

end Node

end Hyperscript
