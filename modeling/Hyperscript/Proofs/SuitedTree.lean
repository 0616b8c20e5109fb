import Hyperscript.Proofs.ParsedRole
import Hyperscript.Proofs.Opening

/-!
# Layers and the parts they are printed with

A few layers are printed in a way that looks at their parts: a statement of an expression, an arrow
function, a member. `Form.Suits` is what the grammar puts there, and most of what builds nodes adds
no such layer, so what it builds of suited parts is suited.
-/
namespace Hyperscript

open Grammar (IsName)

/-- A name that does not open a declaration. -/
def IsPlainName (w : Text) : Prop := IsName w ∧ w ∉ Text.openingWords

namespace Node

/-- An expression, or the name of one, as it may stand before a dot. -/
def IsOperand (n : Node) : Prop :=
  n.form.IsExpression ∧ ∀ name ∈ n.form.firstName?, IsName name

theorem IsOperand.nameless {n : Node} (own : n.form.IsExpression)
    (unnamed : n.form.firstName? = none) : n.IsOperand :=
  ⟨own, by simp [unnamed]⟩

/-- A function or a class with its body, where a statement may stand. -/
def isDeclaration (n : Node) : Bool :=
  match n.form with
  | .functionDeclaration .. | .classDeclaration .. => true
  | _ => false

end Node

/-- What the grammar puts where a layer has a part that is printed in a special way, if expressions
start with such names. -/
def Form.Suits (Name : Text → Prop) : Form Node → Prop
  | .expressionStatement expression => expression.Leads Name
  | .exportDefault declaration => declaration.isDeclaration = true ∨ declaration.Leads Name
  | .arrow _ body => body.isBlock = true ∨ body.Leads Name
  | .logical operator _ _ => operator ∈ Operator.logical
  | .member object property computed => computed = false →
    object.IsOperand ∧ ∃ name, property.identifierName? = some name ∧ IsName name
  | _ => True

/-- Every layer of the tree has the parts that the grammar puts there. -/
def Node.Suited (n : Node) : Prop := ∀ m ∈ n.walk, m.form.Suits IsPlainName

theorem Node.suited_mk {place : Place} {form : Form Node} :
    Node.Suited ⟨place, form⟩ ↔ form.Suits IsPlainName ∧ ∀ c ∈ form.children, c.Suited :=
  Node.forall_mem_walk_iff _

namespace Node.Leads

variable {Name : Text → Prop} {n c : Node} {least : Nat}

theorem leaf (own : n.form.IsExpression) (names : ∀ name ∈ n.form.firstName?, Name name)
    (leads : n.form.leading? = none) : n.Leads Name :=
  .intro own names fun _ _ other => by rw [leads] at other; cases other

theorem nameless (own : n.form.IsExpression) (unnamed : n.form.firstName? = none)
    (leads : n.form.leading? = none) : n.Leads Name :=
  .leaf own (by simp [unnamed]) leads

theorem operand (own : n.form.IsExpression) (leads : n.form.leading? = some (least, c))
    (first : c.Leads Name) : n.Leads Name := by
  have unnamed : n.form.firstName? = none := by
    obtain ⟨place, form⟩ := n
    cases form <;> first | rfl | cases leads
  refine .intro own (by simp [unnamed]) ?_
  intro _ _ same
  rw [leads] at same
  cases same
  exact first

/-- The place of a node does not matter. -/
theorem of_form {m : Node} (h : n.Leads Name) (same : m.form = n.form) : m.Leads Name := by
  cases h with
  | intro own names below => exact .intro (same ▸ own) (same ▸ names) (same ▸ below)

theorem isOperand (h : n.Leads IsPlainName) : n.IsOperand :=
  ⟨h.isExpression, fun name named => (h.names name named).1⟩

end Node.Leads

theorem Form.params_of_firstName? {params : List Node} {body : Node} {name : Text}
    (h : Form.firstName? (.arrow params body) = some name) :
    ∃ place, params = [⟨place, .identifier name⟩] := by
  simp only [Form.firstName?] at h
  split at h
  · cases ‹Form.arrow params body = _›
  · cases ‹Form.arrow params body = _›
    cases h
    exact ⟨_, rfl⟩
  · cases h

theorem Node.form_of_identifierName? {n : Node} {name : Text} (h : n.identifierName? = some name) :
    n.form = .identifier name := by
  obtain ⟨place, form⟩ := n
  cases form <;> cases h
  rfl

theorem Form.leading?_map {α β : Type} (f : α → β) (form : Form α) :
    (form.map f).leading? = form.leading?.map (Prod.map id f) := by
  cases form
  case update operator argument leading => cases leading <;> rfl
  all_goals rfl

namespace Node

/-- The layers of expressions stay, but for elements, and so do names and bodies. -/
structure KeepsLayers (f : Node → Node) : Prop where
  layer : ∀ n : Node, n.form.IsExpression → n.isElement = false → (f n).form = n.form.map f
  name : ∀ n : Node, (f n).identifierName? = n.identifierName?
  block : ∀ n : Node, (f n).isBlock = n.isBlock
  classBody : ∀ n : Node, (f n).isClassBody = n.isClassBody
  declaration : ∀ n : Node, (f n).isDeclaration = n.isDeclaration

namespace KeepsLayers

variable {f : Node → Node} {form : Form Node}

theorem isExpression (keeps : KeepsLayers f) (h : form.IsExpression) :
    (form.map f).IsExpression := by
  cases form
  case member => exact fun dotted => (keeps.name _).symm ▸ h dotted
  case functionExpression => exact (keeps.block _).trans h
  case classExpression =>
    obtain ⟨body, rfl⟩ := h
    exact ⟨(keeps.classBody _).trans body, rfl⟩
  all_goals exact h

theorem firstName? (keeps : KeepsLayers f) {name : Text} (h : (form.map f).firstName? = some name) :
    form.firstName? = some name := by
  cases form
  case arrow params body =>
    obtain ⟨place, same⟩ := Form.params_of_firstName? h
    obtain ⟨first, rfl, image⟩ := List.map_eq_singleton_iff.mp same
    have own : first.identifierName? = some name := by
      rw [← keeps.name first, image]
      rfl
    obtain ⟨_, form⟩ := first
    cases Node.form_of_identifierName? own
    rfl
  all_goals exact h

section Parts

variable {Name Other : Text → Prop} (keeps : KeepsLayers f)
  (elements : ∀ e : Node, e.isElement = true → (f e).Leads Other)

include keeps elements

theorem leads (names : ∀ name, Name name → Other name) {n : Node} (h : n.Leads Name) :
    (f n).Leads Other := by
  induction h with
  | @intro n own first _ ih =>
    cases element : n.isElement with
    | true => exact elements n element
    | false =>
      have same := keeps.layer n own element
      refine .intro ?_ ?_ ?_
      · exact same ▸ keeps.isExpression own
      · intro name named
        rw [same] at named
        exact names name (first name (keeps.firstName? named))
      · intro least c leads
        rw [same, Form.leading?_map] at leads
        obtain ⟨⟨l, d⟩, found, ⟨⟩⟩ := Option.map_eq_some_iff.mp leads
        exact ih l d found

theorem isOperand (nameless : ∀ e : Node, e.isElement = true → (f e).form.firstName? = none)
    {n : Node} (h : n.IsOperand) : (f n).IsOperand := by
  cases element : n.isElement with
  | true => exact .nameless (elements n element).isExpression (nameless n element)
  | false =>
    rw [IsOperand, keeps.layer n h.1 element]
    exact ⟨keeps.isExpression h.1, fun name named => h.2 name (keeps.firstName? named)⟩

/-- A layer keeps to what it asks for, when its parts are changed. -/
theorem suits (nameless : ∀ e : Node, e.isElement = true → (f e).form.firstName? = none)
    (names : ∀ name, Name name → Other name) (h : form.Suits Name) : (form.map f).Suits Other := by
  cases form
  case expressionStatement => exact keeps.leads elements names h
  case exportDefault declaration =>
    exact h.imp (fun own => (keeps.declaration declaration).trans own) (keeps.leads elements names)
  case arrow params body =>
    exact h.imp (fun own => (keeps.block body).trans own) (keeps.leads elements names)
  case member object property computed =>
    intro dotted
    obtain ⟨operand, name⟩ := h dotted
    exact ⟨keeps.isOperand elements nameless operand, (keeps.name property).symm ▸ name⟩
  all_goals exact h

end Parts

end KeepsLayers

section File

variable (file : Text) {n : Node}

theorem form_inFile (n : Node) : (n.inFile file).form = n.form.map (inFile file) := by
  rw [inFile, fold_eq]
  rfl

theorem keepsLayers_inFile : KeepsLayers (inFile file) where
  layer n _ _ := form_inFile file n
  name n := by
    rw [identifierName?, form_inFile]
    obtain ⟨place, form⟩ := n
    cases form <;> rfl
  block := isBlock_inFile file
  classBody n := by
    rw [isClassBody, form_inFile]
    obtain ⟨place, form⟩ := n
    cases form <;> rfl
  declaration n := by
    rw [isDeclaration, form_inFile]
    obtain ⟨place, form⟩ := n
    cases form <;> rfl

theorem Suited.inFile (h : n.Suited) : (n.inFile file).Suited := by
  have element (e : Node) (h : e.isElement = true) : (e.inFile file).form.IsExpression ∧
      (e.inFile file).form.firstName? = none ∧ (e.inFile file).form.leading? = none := by
    rw [form_inFile]
    obtain ⟨place, form⟩ := e
    cases form <;> simp only [isElement, reduceCtorEq] at h
    exact ⟨trivial, rfl, rfl⟩
  have leads (e : Node) (h : e.isElement = true) : (e.inFile file).Leads IsPlainName :=
    .nameless (element e h).1 (element e h).2.1 (element e h).2.2
  induction n using Node.induction with
  | step n ih =>
    obtain ⟨place, form⟩ := n
    obtain ⟨own, below⟩ := suited_mk.mp h
    rw [Node.inFile, fold_mk, suited_mk, Form.children_map]
    refine ⟨(keepsLayers_inFile file).suits leads (fun e h => (element e h).2.1)
      (fun _ name => name) own, ?_⟩
    intro c hc
    obtain ⟨d, hd, rfl⟩ := List.mem_map.mp hc
    exact ih d hd (below d hd)

end File

end Node

namespace Grammar

namespace Part

/-- The nodes that a part stands for. -/
@[simp] def tops : Part → List Node
  | .node n | .computedKey n => [n]
  | .nodes ns => ns
  | .absent | .token _ | .word _ => []

def Suited (p : Part) : Prop := ∀ n ∈ p.tops, n.Suited

@[simp] theorem suited_node {n : Node} : (Part.node n).Suited ↔ n.Suited := by
  simp [Suited]

@[simp] theorem suited_computedKey {n : Node} : (Part.computedKey n).Suited ↔ n.Suited := by
  simp [Suited]

@[simp] theorem suited_nodes {ns : List Node} : (Part.nodes ns).Suited ↔ ∀ n ∈ ns, n.Suited :=
  Iff.rfl

@[simp] theorem suited_absent : Part.absent.Suited := nofun

@[simp] theorem suited_token (t : Token) : (Part.token t).Suited := nofun

@[simp] theorem suited_word (w : Text) : (Part.word w).Suited := nofun

theorem suited_compact {parts : List Part} (suited : ∀ p ∈ parts, p.Suited) :
    ∀ n ∈ compact parts, n.Suited := by
  intro n hn
  obtain ⟨p, hp, found⟩ := List.mem_filterMap.mp hn
  cases p <;> simp only [node?, Option.some.injEq, reduceCtorEq] at found
  subst found
  exact suited_node.mp (suited _ hp)

theorem suited_list {p : Part} {ns : List Node} (suited : p.Suited) (h : p.list? = some ns) :
    ∀ n ∈ ns, n.Suited := by
  cases p <;> simp only [list?, Option.some.injEq, reduceCtorEq] at h <;> subst h
  · exact fun n hn => absurd hn List.not_mem_nil
  · exact suited

theorem suited_optional {p : Part} {n : Option Node} (suited : p.Suited)
    (h : p.optional? = some n) : ∀ m ∈ n.toList, m.Suited := by
  cases p <;> simp only [optional?, Option.some.injEq, reduceCtorEq] at h <;> subst h
  · exact fun m hm => absurd hm List.not_mem_nil
  · simpa using suited

theorem suited_key {p : Part} {n : Node} {computed : Bool} (suited : p.Suited)
    (h : p.key? = some (n, computed)) : n.Suited := by
  cases p <;> simp only [key?, Option.some.injEq, Prod.mk.injEq, reduceCtorEq] at h
  · exact h.1 ▸ suited_node.mp suited
  · exact h.1 ▸ suited_computedKey.mp suited

end Part

/-- Actions that make a layer which asks for something in particular. -/
@[simp] def Action.isParticular : Action → Bool
  | .expressionStatement | .exportDefault | .decoratedExportDefault | .arrowFunction | .logical
  | .member | .decoratorMember => .true
  | _ => .false

namespace Build

variable {parts : List Part} {part : Part}

attribute [local simp] Node.suited_mk Form.Suits identifier jsxIdentifier Node.plain

theorem suited_string (t : Token) (n : Node) (h : string t = .ok n) : n.Suited := by
  simp only [string] at h
  split at h <;> cases h
  simp

theorem suited_number (t : Token) (n : Node) (h : number t = .ok n) : n.Suited := by
  simp only [number] at h
  split at h <;> cases h
  simp

theorem suited_jsxText (t : Token) (n : Node) (h : jsxText t = .ok n) : n.Suited := by
  simp only [jsxText] at h
  split at h <;> cases h
  simp

theorem suited_jsxString (t : Token) (n : Node) (h : jsxString t = .ok n) : n.Suited := by
  simp only [jsxString] at h
  split at h <;> cases h
  simp

theorem suited_onToken {make : Token → Except ParseError Node}
    (each : ∀ t n, make t = .ok n → n.Suited)
    (h : (onToken fun t => (make t).map .node) parts = .ok part) : part.Suited := by
  simp only [onToken] at h
  split at h
  · obtain ⟨n, found, rfl⟩ := ok_of_map h
    exact Part.suited_node.mpr (each _ n found)
  · cases h

theorem suited_asDeclaration {n : Node} (h : n.Suited) : (asDeclaration n).Suited := by
  obtain ⟨place, form⟩ := n
  cases form <;> first | exact h | simpa [asDeclaration] using h

/-- A layer is suited wherever it stands. -/
theorem suited_place {place other : Place} {form : Form Node} (h : Node.Suited ⟨place, form⟩) :
    Node.Suited ⟨other, form⟩ := Node.suited_mk.mpr (Node.suited_mk.mp h)

theorem suited_decorate {decorators : List Node} {n : Node} (above : ∀ d ∈ decorators, d.Suited)
    (h : n.Suited) : (decorate decorators n).Suited := by
  have own := suited_asDeclaration h
  simp only [decorate]
  generalize asDeclaration n = declaration at own
  obtain ⟨place, form⟩ := declaration
  split
  · rename_i same
    dsimp only at same
    subst same
    simp only [Node.suited_mk, Form.Suits, Form.children, true_and, List.mem_append] at own ⊢
    grind
  · exact suited_place own

theorem suited_decorated {n : Node} (suited : ∀ p ∈ parts, p.Suited)
    (h : decorated? parts = some n) : n.Suited := by
  simp only [decorated?] at h
  split at h
  · rename_i last
    cases h
    refine suited_decorate ?_ (Part.suited_node.mp (suited _ (List.mem_of_getLast? last)))
    intro d hd
    exact Part.suited_compact (fun p hp => suited p (List.dropLast_subset parts hp)) d
      (List.mem_filter.mp hd).1
  · cases h

theorem suited_leadingDecorators (suited : ∀ p ∈ parts, p.Suited) (count : Nat) :
    ∀ n ∈ leadingDecorators count parts, n.Suited := by
  intro n hn
  exact Part.suited_compact (fun p hp => suited p (List.mem_of_mem_take hp)) n
    (List.mem_filter.mp hn).1

theorem suited_element {name : Node} {ns : List Node} (tag : name.Suited)
    (each : ∀ n ∈ ns, n.Suited) (closes : Bool) : (element name ns closes).Suited := by
  simp only [element, Node.suited_mk, Form.Suits, Form.children, true_and, List.mem_append,
    List.mem_cons, List.not_mem_nil, or_false, List.mem_filter]
  grind

theorem suited_toPatterns {ns patterns : List Node}
    (each : ∀ n ∈ ns, ∀ p, toPattern n = .ok p → p.Suited)
    (h : toPatterns ns = .ok patterns) : ∀ p ∈ patterns, p.Suited := by
  induction ns generalizing patterns with
  | nil =>
    cases h
    exact fun p hp => absurd hp List.not_mem_nil
  | cons n rest ih =>
    obtain ⟨first, found, h⟩ := ok_of_bind h
    obtain ⟨others, foundOthers, h⟩ := ok_of_bind h
    cases h
    refine List.forall_mem_cons.mpr ⟨each n List.mem_cons_self first found, ?_⟩
    exact ih (fun m hm => each m (List.mem_cons_of_mem n hm)) foundOthers

theorem suited_toPatternProperties {ns patterns : List Node} (suited : ∀ n ∈ ns, n.Suited)
    (each : ∀ n ∈ ns, ∀ c ∈ n.children, ∀ p, toPattern c = .ok p → p.Suited)
    (h : toPatternProperties ns = .ok patterns) : ∀ p ∈ patterns, p.Suited := by
  induction ns generalizing patterns with
  | nil =>
    cases h
    exact fun p hp => absurd hp List.not_mem_nil
  | cons n rest ih =>
    have later {others : List Node} (found : toPatternProperties rest = .ok others) :=
      ih (fun m hm => suited m (List.mem_cons_of_mem n hm))
        (fun m hm => each m (List.mem_cons_of_mem n hm)) found
    obtain ⟨place, form⟩ := n
    have own := suited ⟨place, form⟩ List.mem_cons_self
    have below := each ⟨place, form⟩ List.mem_cons_self
    cases form <;> simp only [toPatternProperties, reduceCtorEq] at h
    case objectProperty key value computed shorthand =>
      obtain ⟨pattern, found, h⟩ := ok_of_bind h
      obtain ⟨others, foundOthers, h⟩ := ok_of_bind h
      cases h
      have inner := below value (by simp [Node.children]) pattern found
      exact List.forall_mem_cons.mpr ⟨by simp_all, later foundOthers⟩
    case spread argument =>
      obtain ⟨pattern, found, h⟩ := ok_of_bind h
      obtain ⟨others, foundOthers, h⟩ := ok_of_bind h
      cases h
      have inner := below argument (by simp [Node.children]) pattern found
      exact List.forall_mem_cons.mpr ⟨by simp_all, later foundOthers⟩

/-- Bindings that are read off expressions are made of the parts of these. -/
theorem suited_toPattern {n pattern : Node} (suited : n.Suited)
    (h : toPattern n = .ok pattern) : pattern.Suited := by
  induction n using Node.walkInduction generalizing pattern with
  | step n ih =>
    obtain ⟨place, form⟩ := n
    have parts := (Node.suited_mk.mp suited).2
    have below {c p : Node} (hc : c ∈ form.children) (found : toPattern c = .ok p) : p.Suited :=
      ih c hc c (Node.self_mem_walk c) (parts c hc) found
    cases form <;> simp only [toPattern, reduceCtorEq] at h
    case identifier =>
      cases h
      exact suited
    case assignment operator left right =>
      split at h
      · obtain ⟨target, found, rfl⟩ := ok_of_map h
        have inner := below (by simp) found
        simp_all
      · cases h
    case spread argument =>
      obtain ⟨target, found, rfl⟩ := ok_of_map h
      have inner := below (by simp) found
      simp_all
    case arrayExpression elements =>
      obtain ⟨patterns, found, rfl⟩ := ok_of_map h
      have inner := suited_toPatterns (fun m hm p found => below hm found) found
      simp_all
    case objectExpression properties =>
      obtain ⟨patterns, found, rfl⟩ := ok_of_map h
      have inner := suited_toPatternProperties parts (fun m hm c hc p found =>
        ih m hm c (Node.mem_walk_of_mem_children hc c.self_mem_walk)
          (fun k hk => parts m hm k (Node.mem_walk_of_mem_children hc hk)) found) found
      simp_all

/-- What an action makes of suited parts is suited, if the layer on top is. -/
theorem suited_apply {action : Action} (suited : ∀ p ∈ parts, p.Suited)
    (h : apply action parts = .ok part)
    (own : action.isParticular = true → ∀ n ∈ part.tops, n.form.Suits IsPlainName) :
    part.Suited := by
  cases action <;> simp only [apply] at h
  case throwStatement | restElement | spread | computedKey | container | jsxSpreadAttribute =>
    simp only [onNode] at h
    split at h <;> cases h
    simp_all
  case program | block | exportSpecifiers | objectPattern | arrayPattern | array | object
      | classBody | nodes =>
    cases h
    simpa [listNode] using Part.suited_compact suited
  case assignmentPattern | computedMember | member =>
    simp only [onTwoNodes] at h
    split at h <;> cases h
    simp_all
  case conditional =>
    simp only [onThreeNodes] at h
    split at h <;> cases h
    simp_all
  case unary | updateLeading | shorthandDefault =>
    simp only [onTokenNode] at h
    split at h <;> cases h
    simp_all
  case decoratorMember | updateTrailing | jsxMember =>
    simp only [onNodeToken] at h
    split at h <;> cases h
    simp_all
  case logical | binary =>
    simp only [onOperator] at h
    split at h <;> cases h
    simp_all
  case importSpecifier | exportSpecifier =>
    simp only [onRenaming] at h
    split at h <;> cases h <;> simp_all
  case identifier | this | true | false | null | template | arrowName | shorthand | restName | word
      | importDefault | importNamespace | jsxIdentifier =>
    simp only [onToken] at h
    split at h <;> cases h
    simp_all
  case string => exact suited_onToken suited_string h
  case number => exact suited_onToken suited_number h
  case jsxText => exact suited_onToken suited_jsxText h
  case jsxString => exact suited_onToken suited_jsxString h
  case importBare =>
    simp only [onToken] at h
    split at h
    · obtain ⟨n, found, rfl⟩ := ok_of_map h
      simpa using suited_string _ n found
    · cases h
  case importFrom =>
    simp only [importFrom] at h
    split at h
    · obtain ⟨n, found, rfl⟩ := ok_of_map h
      have literal := suited_string _ n found
      simp_all [or_imp]
    · cases h
  case importClause =>
    cases h
    intro n hn
    obtain ⟨p, hp, inside⟩ := List.mem_flatMap.mp hn
    cases found : p.list? with
    | none => simp [found] at inside
    | some ns => exact Part.suited_list (suited p hp) found n (by simpa [found] using inside)
  case jsxAttribute | declarator =>
    simp only [onNodeOptional] at h
    split at h
    · rename_i last
      split at h <;> cases h
      rename_i found
      have others := Part.suited_optional (suited last (by simp)) found
      simp_all
    · cases h
  case expressionStatement =>
    simp only [onNode] at h
    split at h <;> cases h
    rename_i n
    have inner : n.Suited := Part.suited_node.mp (suited _ (List.mem_singleton_self _))
    simp only [asStatement] at own ⊢
    split
    · exact Part.suited_node.mpr (suited_asDeclaration inner)
    · exact Part.suited_node.mpr (suited_asDeclaration inner)
    · simp_all
  case exportDefault | exportNamed =>
    simp only [onNode] at h
    split at h <;> cases h
    have inner := suited_asDeclaration (Part.suited_node.mp (suited _ (List.mem_singleton_self _)))
    simp_all
  case decoratedClass | decoratedExportDefault | decoratedExportNamed =>
    simp only [onDecorated] at h
    split at h <;> cases h
    rename_i found
    have inner := suited_decorated suited found
    simp_all
  case returnStatement =>
    simp only [returnStatement] at h
    split at h <;> cases h <;> simp_all
  case ifStatement =>
    simp only [ifStatement] at h
    split at h
    · rename_i last
      split at h <;> cases h
      rename_i found
      have others := Part.suited_optional (suited last (by simp)) found
      simp_all
    · cases h
  case variableList =>
    simp only [variableList] at h
    split at h <;> cases h
    have rest := Part.suited_compact fun p hp => suited p (List.mem_cons_of_mem _ hp)
    simp_all
  case decorator =>
    simp only [decorator] at h
    split at h <;> cases h <;> simp_all
  case property =>
    simp only [property] at h
    split at h
    · rename_i first value
      split at h <;> cases h
      rename_i found
      have key := Part.suited_key (suited first (by simp)) found
      simp_all
    · cases h
  case propertyDefault =>
    simp only [propertyDefault] at h
    split at h
    · rename_i first target fallback
      split at h <;> cases h
      rename_i found
      have key := Part.suited_key (suited first (by simp)) found
      simp_all
    · cases h
  case assign =>
    simp only [assign] at h
    split at h <;> cases h
    simp_all
  case call =>
    simp only [call] at h
    split at h <;> cases h
    simp_all
  case arrowFunction =>
    simp only [arrowFunction] at h
    split at h <;> cases h
    simp_all [or_imp, forall_and]
  case newExpression =>
    simp only [newExpression] at h
    split at h
    · rename_i last
      split at h <;> cases h
      rename_i found
      have arguments := Part.suited_list (suited last (by simp)) found
      simp_all
    · cases h
  case objectMethod =>
    simp only [objectMethod] at h
    split at h
    · rename_i first second body
      split at h <;> cases h
      rename_i foundKey foundParams
      have key := Part.suited_key (suited first (by simp)) foundKey
      have params := Part.suited_list (suited second (by simp)) foundParams
      simp_all [or_imp, forall_and]
    · cases h
  case functionExpression =>
    simp only [functionExpression] at h
    split at h
    · rename_i first second body
      split at h <;> cases h
      rename_i name _ _ foundParams
      have params := Part.suited_list (suited second (by simp)) foundParams
      cases name <;> simp_all [or_imp, forall_and]
    · cases h
  case classExpression =>
    simp only [classExpression] at h
    split at h
    · rename_i first second body
      split at h <;> cases h
      rename_i name _ _ foundClass
      have superClass := Part.suited_optional (suited second (by simp)) foundClass
      cases name <;> simp_all [or_imp, forall_and]
    · cases h
  case classMethod =>
    simp only [classMethod] at h
    have above := suited_leadingDecorators suited 5
    have row : ∀ p ∈ parts.drop (parts.length - 5), p.Suited := fun p hp =>
      suited p (List.mem_of_mem_drop hp)
    split at h
    · rename_i first accessor third fourth _ same
      rw [same] at row
      split at h <;> cases h
      rename_i foundKey foundParams
      have key := Part.suited_key (row third (by simp)) foundKey
      have params := Part.suited_list (row fourth (by simp)) foundParams
      simp_all [or_imp, forall_and]
    · cases h
  case classProperty =>
    simp only [classProperty] at h
    have above := suited_leadingDecorators suited 3
    have row : ∀ p ∈ parts.drop (parts.length - 3), p.Suited := fun p hp =>
      suited p (List.mem_of_mem_drop hp)
    split at h
    · rename_i first second last same
      rw [same] at row
      split at h <;> cases h
      rename_i foundKey foundValue
      have key := Part.suited_key (row second (by simp)) foundKey
      have value := Part.suited_optional (row last (by simp)) foundValue
      simp_all [or_imp, forall_and]
    · cases h
  case arrowEmpty | emptyMember | emptyContainer =>
    cases h
    simp
  case arrowList =>
    obtain ⟨patterns, found, rfl⟩ := ok_of_map h
    exact suited_toPatterns
      (fun n hn p => suited_toPattern (Part.suited_compact suited n hn)) found
  case pairedElement =>
    simp only [paired] at h
    split at h
    · rename_i name rest
      split at h
      · obtain ⟨n, found, rfl⟩ := ok_of_map h
        rw [pairedElement] at found
        split at found <;> cases found
        refine Part.suited_node.mpr (suited_element ?_ ?_ _)
        · exact Part.suited_node.mp (suited _ List.mem_cons_self)
        · exact Part.suited_compact fun p hp =>
            suited p (List.mem_cons_of_mem _ (List.dropLast_subset rest hp))
      · cases h
    · cases h
  case selfClosingElement =>
    simp only [selfClosing] at h
    split at h <;> cases h
    refine Part.suited_node.mpr (suited_element ?_ ?_ _)
    · exact Part.suited_node.mp (suited _ List.mem_cons_self)
    · exact Part.suited_compact fun p hp => suited p (List.mem_cons_of_mem _ hp)
  case jsxNamespacedName =>
    simp only [jsxNamespacedName] at h
    split at h <;> cases h
    simp

end Build

end Grammar

end Hyperscript
