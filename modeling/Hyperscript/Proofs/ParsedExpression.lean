import Hyperscript.Proofs.ReservedWord
import Hyperscript.Proofs.SuitedTree

/-!
# Expressions in parsed trees

Wherever the grammar asks for an expression, a parsed tree has one, and no expression starts with a
name that is spelled like a word that opens a declaration. What the value of a nonterminal is, as far
as a layer above it depends on that, is proved production by production; a tree that is made of such
values is suited.
-/
namespace Hyperscript

open Grammar (IsName)

namespace Grammar

/-- The value is a single node with the property. -/
def IsSingle (P : Node → Prop) (value : List Part) : Prop := ∃ n, value = [.node n] ∧ P n

/-- What the value of a nonterminal is made of, where a layer above it depends on that. -/
def Nonterminal.Makes : Nonterminal → List Part → Prop
  | .chain .., value | .array, value | .object, value | .arrowFunction, value
  | .functionExpression, value | .classExpression, value | .newExpression, value
  | .element, value => IsSingle (Node.Leads IsPlainName) value
  | .newCallee, value | .decoratorTarget, value => IsSingle Node.IsOperand value
  | .propertyName, value =>
    IsSingle (fun n => ∃ name, n.identifierName? = some name ∧ IsName name) value
  | .block, value => IsSingle (fun n => n.isBlock = true) value
  | .classBody, value => IsSingle (fun n => n.isClassBody = true) value
  | .arrowBody, value => IsSingle (fun n => n.isBlock = true ∨ n.Leads IsPlainName) value
  | .arrowParams, value => ∃ ps, value = [.nodes ps] ∧
    ∀ place name, ps = [⟨place, .identifier name⟩] → IsPlainName name
  | _, _ => True

/-- The value can be that of the symbol. -/
def Symbol.Makes : Symbol → List Part → Prop
  | .terminal k, value => ∃ t : Token, t.kind = k ∧ t.IsRead ∧ value = [.token t]
  | .nonterminal a, value => (∀ p ∈ value, p.Suited) ∧ a.Makes value

/-- The parts can be what the slots keep. -/
def SlotsMake : List Slot → List Part → Prop
  | [], parts => parts = []
  | .absent :: slots, parts => ∃ rest, parts = .absent :: rest ∧ SlotsMake slots rest
  | .skip _ :: slots, parts => SlotsMake slots parts
  | .keep s :: slots, parts =>
    ∃ value rest, parts = value ++ rest ∧ s.Makes value ∧ SlotsMake slots rest

theorem SlotsMake.suited {slots : List Slot} {parts : List Part} (h : SlotsMake slots parts) :
    ∀ p ∈ parts, p.Suited := by
  induction slots generalizing parts with
  | nil =>
    cases h
    exact fun p hp => absurd hp List.not_mem_nil
  | cons slot slots ih =>
    cases slot with
    | absent =>
      obtain ⟨rest, rfl, below⟩ := h
      exact List.forall_mem_cons.mpr ⟨Part.suited_absent, ih below⟩
    | skip => exact ih h
    | keep s =>
      obtain ⟨value, rest, rfl, own, below⟩ := h
      refine List.forall_mem_append.mpr ⟨?_, ih below⟩
      cases s with
      | terminal =>
        obtain ⟨t, -, -, rfl⟩ := own
        simp
      | nonterminal => exact own.1

section Productions

variable {a : Nonterminal} {p : Production} {parts value : List Part}

/-- An expression on top of a suited tree. -/
abbrev MakesExpression : List Part → Prop :=
  IsSingle fun n => n.Leads IsPlainName ∧ n.form.Suits IsPlainName

theorem makes_pass {b : Nonterminal} (expression : b.Makes = IsSingle (Node.Leads IsPlainName))
    (row : SlotsMake [.keep (.nonterminal b)] parts) : MakesExpression parts := by
  obtain ⟨_, _, rfl, ⟨suited, own⟩, rfl⟩ := row
  rw [expression] at own
  obtain ⟨n, rfl, leads⟩ := own
  have tree := Part.suited_node.mp (suited _ (List.mem_singleton_self _))
  exact ⟨n, rfl, leads, tree n n.self_mem_walk⟩

/-- The productions of operators with an operand on each side. -/
theorem mem_leftAssociative {brace : Bool} {action : Action} {level tighter : Level}
    {operators : List Terminal}
    (h : p ∈ (leftAssociative brace action level tighter operators).flatMap
      (Alternative.productions a)) :
    p = ⟨a, [.keep (.nonterminal (.chain brace tighter))], none⟩ ∨
      ∃ k ∈ operators, p = ⟨a, [.keep (.nonterminal (.chain brace level)), .keep (.terminal k),
        .keep (.nonterminal (.chain true tighter))], some action⟩ := by
  simp [leftAssociative, passes, builds, Alternative.productions, Piece.consecutive,
    Piece.oneOf, Piece.keep] at h
  rcases h with rfl | ⟨k, member, rfl⟩
  · exact .inl rfl
  · exact .inr ⟨k, member, rfl⟩

/-- The spelling of an operator is what its terminal is spelled like. -/
theorem mem_of_spellings {t : Token} {operators : List Terminal} {words : List Text}
    (spelled : ∀ k ∈ operators, ∃ w ∈ words, (k, w) ∈ Terminal.spellings) (read : t.IsRead)
    {k : Terminal} (kind : t.kind = k) (member : k ∈ operators) : t.text ∈ words := by
  obtain ⟨w, known, fixed⟩ := spelled k member
  exact read.2 w (kind ▸ fixed) ▸ known

theorem makes_infix {brace : Bool} {action : Action} {level tighter : Level}
    {operators : List Terminal}
    (made : ∀ left right : Node, ∀ t : Token, t.IsRead → t.kind ∈ operators →
      left.Leads IsPlainName → ∃ n, Build.apply action [.node left, .token t, .node right] =
        .ok (.node n) ∧ n.Leads IsPlainName ∧ n.form.Suits IsPlainName)
    (member : p ∈ (leftAssociative brace action level tighter operators).flatMap
      (Alternative.productions a)) (row : SlotsMake p.slots parts)
    (built : p.build parts = .ok value) : MakesExpression value := by
  rcases mem_leftAssociative member with rfl | ⟨k, known, rfl⟩
  · cases built
    exact makes_pass rfl row
  · obtain ⟨_, _, rfl, ⟨-, left, rfl, leads⟩, _, _, rfl, ⟨t, kind, read, rfl⟩, _, _, rfl,
      ⟨-, right, rfl, -⟩, rfl⟩ := row
    obtain ⟨n, applied, own⟩ := made left right t read (kind ▸ known) leads
    obtain ⟨part, applied', rfl⟩ := ok_of_map built
    cases applied.symm.trans applied'
    exact ⟨n, rfl, own⟩

theorem makes_binary {left right : Node} {t : Token} (leads : left.Leads IsPlainName) :
    ∃ n, Build.apply .binary [.node left, .token t, .node right] = .ok (.node n) ∧
      n.Leads IsPlainName ∧ n.form.Suits IsPlainName :=
  ⟨_, rfl, .operand trivial rfl leads, trivial⟩

theorem makes_logical {operators : List Terminal}
    (spelled : ∀ k ∈ operators, ∃ w ∈ Operator.logical, (k, w) ∈ Terminal.spellings)
    {left right : Node} {t : Token} (read : t.IsRead) (known : t.kind ∈ operators)
    (leads : left.Leads IsPlainName) :
    ∃ n, Build.apply .logical [.node left, .token t, .node right] = .ok (.node n) ∧
      n.Leads IsPlainName ∧ n.form.Suits IsPlainName :=
  ⟨_, rfl, .operand trivial rfl leads, mem_of_spellings spelled read rfl known⟩

theorem isName_of_isRead {t : Token} (read : t.IsRead) (kind : t.kind = .name) :
    IsName t.text := by
  obtain ⟨whole, found, same⟩ := read.1 Scan.name (by simp [kind, Scan.classes])
  exact same ▸ Scan.isName_take found

theorem isPlainName_of_free {t : Token} (read : t.IsRead) (kind : t.kind = .name)
    (free : ¬ t.IsReserved) : IsPlainName t.text :=
  ⟨isName_of_isRead read kind, fun word => free ⟨kind, word⟩⟩

theorem isEnclosed_of_isRead {t : Token} (read : t.IsRead)
    (kind : t.kind = .string ∨ t.kind = .template) : IsEnclosed t.text := by
  rcases kind with kind | kind
  · obtain ⟨whole, found, same⟩ := read.1 Scan.string (by simp [kind, Scan.classes])
    exact same ▸ Scan.isEnclosed_string found
  · obtain ⟨whole, found, same⟩ := read.1 Scan.template (by simp [kind, Scan.classes])
    exact same ▸ Scan.isEnclosed_take (by decide) found

theorem isNumber_of_isRead {t : Token} (read : t.IsRead) (kind : t.kind = .number) :
    IsNumber t.text := by
  obtain ⟨whole, found, same⟩ := read.1 Scan.number (by simp [kind, Scan.classes])
  exact same ▸ Scan.isNumber_take found

theorem primary_makes {brace : Bool}
    (member : p ∈ (Nonterminal.chain brace .primary).productions) (row : SlotsMake p.slots parts)
    (built : p.build parts = .ok value)
    (free : p.isNaming = true → ∀ t, parts = [.token t] → ¬ t.IsReserved) :
    MakesExpression value := by
  cases brace with
  | true =>
    simp only [Nonterminal.productions, alternatives, chainAlternatives, passes,
      Alternative.productions, Piece.consecutive, Piece.keep, if_true, List.flatMap_cons,
      List.flatMap_nil, List.map_cons, List.map_nil, List.append_nil, List.cons_append,
      List.nil_append, List.mem_cons, List.not_mem_nil, or_false] at member
    rcases member with rfl | rfl
    · cases built
      exact makes_pass rfl row
    · cases built
      exact makes_pass rfl row
  | false =>
    simp only [Nonterminal.productions, alternatives, chainAlternatives, builds, passes, token,
      Alternative.productions, Piece.consecutive, Piece.keep, Piece.skip, Bool.false_eq_true,
      if_false, List.flatMap_cons, List.flatMap_nil, List.map_cons, List.map_nil, List.append_nil,
      List.cons_append, List.nil_append, List.mem_cons, List.not_mem_nil, or_false] at member
    rcases member with rfl | rfl | rfl | rfl | rfl | rfl | rfl | rfl | rfl | rfl | rfl | rfl |
      rfl | rfl
    -- the last six hand on what they read
    rotate_left 8
    all_goals try
      cases built
      exact makes_pass rfl row
    all_goals obtain ⟨_, _, rfl, ⟨t, kind, read, rfl⟩, rfl⟩ := row
    · cases built
      refine ⟨_, rfl, .leaf trivial ?_ rfl, trivial⟩
      rintro name ⟨⟩
      exact isPlainName_of_free read kind (free rfl t rfl)
    · cases built
      exact ⟨_, rfl, .nameless trivial rfl rfl, trivial⟩
    · cases built
      exact ⟨_, rfl, .nameless trivial rfl rfl, trivial⟩
    · cases built
      exact ⟨_, rfl, .nameless trivial rfl rfl, trivial⟩
    · cases built
      exact ⟨_, rfl, .nameless trivial rfl rfl, trivial⟩
    · obtain ⟨part, applied, rfl⟩ := ok_of_map built
      obtain ⟨n, found, rfl⟩ := ok_of_map (applied : (Build.string t).map Part.node = .ok part)
      simp only [Build.string] at found
      split at found <;> cases found
      exact ⟨_, rfl, .nameless ⟨_, rfl, isEnclosed_of_isRead read (.inl kind)⟩ rfl rfl, trivial⟩
    · obtain ⟨part, applied, rfl⟩ := ok_of_map built
      obtain ⟨n, found, rfl⟩ := ok_of_map (applied : (Build.number t).map Part.node = .ok part)
      simp only [Build.number] at found
      split at found <;> cases found
      exact ⟨_, rfl, .nameless ⟨_, rfl, isNumber_of_isRead read kind⟩ rfl rfl, trivial⟩
    · cases built
      exact ⟨_, rfl, .nameless (isEnclosed_of_isRead read (.inr kind)) rfl rfl, trivial⟩

theorem chain_makes {brace : Bool} {level : Level}
    (member : p ∈ (Nonterminal.chain brace level).productions) (row : SlotsMake p.slots parts)
    (built : p.build parts = .ok value)
    (free : p.isNaming = true → ∀ t, parts = [.token t] → ¬ t.IsReserved) :
    MakesExpression value := by
  cases level
  case equality | relational | additive | multiplicative =>
    exact makes_infix (fun _ _ _ _ _ => makes_binary) member row built
  case logicalOr | logicalAnd =>
    refine makes_infix (fun _ _ _ read known => makes_logical ?_ read known) member row built
    decide
  case primary => exact primary_makes member row built free
  all_goals
    simp only [Nonterminal.productions, alternatives, chainAlternatives, builds, passes,
      Alternative.productions, Piece.consecutive, Piece.oneOf, Piece.keep, Piece.skip,
      List.flatMap_cons, List.flatMap_nil, List.map_cons, List.map_nil, List.append_nil,
      List.cons_append, List.nil_append, List.mem_cons, List.not_mem_nil, or_false] at member
  case assign =>
    rcases member with rfl | rfl | rfl
    · cases built
      exact makes_pass rfl row
    · obtain ⟨_, rest, rfl, ⟨-, left, rfl, leads⟩, -⟩ := row
      obtain ⟨part, applied, rfl⟩ := ok_of_map built
      simp only [Build.apply, Build.assign] at applied
      split at applied <;> cases applied
      rename_i same
      cases same
      exact ⟨_, rfl, .operand trivial rfl leads, trivial⟩
    · cases built
      exact makes_pass rfl row
  case conditional =>
    rcases member with rfl | rfl
    · cases built
      exact makes_pass rfl row
    · obtain ⟨_, _, rfl, ⟨-, test, rfl, leads⟩, _, _, rfl, ⟨-, first, rfl, -⟩, _, _, rfl,
        ⟨-, second, rfl, -⟩, rfl⟩ := row
      cases built
      exact ⟨_, rfl, .operand trivial rfl leads, trivial⟩
  case unary =>
    have spelled : ∀ k ∈ [Terminal.bang, .minus, .plus, .tilde, .typeofWord, .voidWord,
        .deleteWord], ∃ w ∈ Operator.unary, (k, w) ∈ Terminal.spellings := by decide
    have marks : ∀ k ∈ [Terminal.increment, .decrement],
        ∃ w ∈ Operator.update, (k, w) ∈ Terminal.spellings := by decide
    rcases member with rfl | rfl | rfl | rfl | rfl | rfl | rfl | rfl | rfl | rfl
    · cases built
      exact makes_pass rfl row
    all_goals
      obtain ⟨_, _, rfl, ⟨t, kind, read, rfl⟩, _, _, rfl, ⟨-, argument, rfl, -⟩, rfl⟩ := row
      cases built
      refine ⟨_, rfl, .nameless ?_ rfl rfl, trivial⟩
    all_goals first
      | exact mem_of_spellings spelled read kind (by decide)
      | exact mem_of_spellings marks read kind (by decide)
  case postfixed =>
    have marks : ∀ k ∈ [Terminal.increment, .decrement],
        ∃ w ∈ Operator.update, (k, w) ∈ Terminal.spellings := by decide
    rcases member with rfl | rfl | rfl
    · cases built
      exact makes_pass rfl row
    all_goals
      obtain ⟨_, _, rfl, ⟨-, argument, rfl, leads⟩, _, _, rfl, ⟨t, kind, read, rfl⟩, rfl⟩ := row
      cases built
      refine ⟨_, rfl, .operand ?_ rfl leads, trivial⟩
      exact mem_of_spellings marks read kind (by decide)
  case callMember =>
    rcases member with rfl | rfl | rfl | rfl
    · cases built
      exact makes_pass rfl row
    · obtain ⟨_, _, rfl, ⟨-, object, rfl, leads⟩, _, _, rfl, ⟨-, property, rfl, name⟩, rfl⟩ := row
      cases built
      exact ⟨_, rfl, .operand (fun _ => name) rfl leads, fun _ => ⟨leads.isOperand, name⟩⟩
    · obtain ⟨_, _, rfl, ⟨-, object, rfl, leads⟩, _, _, rfl, ⟨-, property, rfl, -⟩, rfl⟩ := row
      cases built
      have bracketed {P : Prop} (dotted : true = false) : P := by cases dotted
      exact ⟨_, rfl, .operand bracketed rfl leads, bracketed⟩
    · obtain ⟨_, rest, rfl, ⟨-, callee, rfl, leads⟩, -⟩ := row
      obtain ⟨part, applied, rfl⟩ := ok_of_map built
      simp only [Build.apply, Build.call] at applied
      split at applied <;> cases applied
      rename_i same
      cases same
      exact ⟨_, rfl, .operand trivial rfl leads, trivial⟩

/-- The last of the parts are a value of the last symbol. -/
theorem SlotsMake.last {slots : List Slot} {s : Symbol} (h : SlotsMake slots parts)
    (last : slots.getLast? = some (.keep s)) :
    ∃ before own, parts = before ++ own ∧ s.Makes own := by
  induction slots generalizing parts with
  | nil => cases last
  | cons slot slots ih =>
    cases slots with
    | nil =>
      cases last
      obtain ⟨own, _, rfl, makes, rfl⟩ := h
      exact ⟨[], own, List.append_nil own, makes⟩
    | cons next slots =>
      rw [List.getLast?_cons_cons] at last
      cases slot with
      | absent =>
        obtain ⟨rest, rfl, below⟩ := h
        obtain ⟨before, own, rfl, makes⟩ := ih below last
        exact ⟨.absent :: before, own, rfl, makes⟩
      | skip => exact ih h last
      | keep =>
        obtain ⟨first, rest, rfl, -, below⟩ := h
        obtain ⟨before, own, rfl, makes⟩ := ih below last
        exact ⟨first ++ before, own, (List.append_assoc ..).symm, makes⟩

/-- The parts are handed to the action, which builds one part of them. -/
theorem applied_of_build {action : Action} (own : p.action = some action)
    (built : p.build parts = .ok value) :
    ∃ part, Build.apply action parts = .ok part ∧ value = [part] := by
  rw [Production.build, own] at built
  obtain ⟨part, applied, rfl⟩ := ok_of_map built
  exact ⟨part, applied, rfl⟩

/-- What a nonterminal makes whose productions share an action. -/
theorem applied_of_action (action : Action)
    (all : ∀ q ∈ a.productions, q.action = some action)
    (member : p ∈ a.productions) (built : p.build parts = .ok value) :
    ∃ part, Build.apply action parts = .ok part ∧ value = [part] :=
  applied_of_build (all p member) built

theorem object_makes (member : p ∈ Nonterminal.object.productions)
    (built : p.build parts = .ok value) : MakesExpression value := by
  obtain ⟨_, ⟨⟩, rfl⟩ := applied_of_action .object (by decide) member built
  exact ⟨_, rfl, .nameless trivial rfl rfl, trivial⟩

theorem array_makes (member : p ∈ Nonterminal.array.productions)
    (built : p.build parts = .ok value) : MakesExpression value := by
  obtain ⟨_, ⟨⟩, rfl⟩ := applied_of_action .array (by decide) member built
  exact ⟨_, rfl, .nameless trivial rfl rfl, trivial⟩

theorem newExpression_makes (member : p ∈ Nonterminal.newExpression.productions)
    (built : p.build parts = .ok value) : MakesExpression value := by
  obtain ⟨part, applied, rfl⟩ := applied_of_action .newExpression (by decide) member built
  simp only [Build.apply, Build.newExpression] at applied
  split at applied
  · split at applied <;> cases applied
    exact ⟨_, rfl, .nameless trivial rfl rfl, trivial⟩
  · cases applied

/-- With or without a closing tag, an element is built. -/
theorem element_of_applied {action : Action} {part : Part}
    (acts : action = .pairedElement ∨ action = .selfClosingElement)
    (applied : Build.apply action parts = .ok part) :
    ∃ name ns closes, part = .node (Build.element name ns closes) := by
  rcases acts with rfl | rfl
  · simp only [Build.apply, Build.paired] at applied
    split at applied
    · split at applied
      · obtain ⟨n, found, rfl⟩ := ok_of_map applied
        rw [Build.pairedElement] at found
        split at found <;> cases found
        exact ⟨_, _, _, rfl⟩
      · cases applied
    · cases applied
  · simp only [Build.apply, Build.selfClosing] at applied
    split at applied <;> cases applied
    exact ⟨_, _, _, rfl⟩

theorem element_makes (member : p ∈ Nonterminal.element.productions)
    (built : p.build parts = .ok value) : MakesExpression value := by
  have actions : ∀ q ∈ Nonterminal.element.productions,
      q.action = some .pairedElement ∨ q.action = some .selfClosingElement := by decide
  rcases actions p member with action | action
  · obtain ⟨part, applied, rfl⟩ := applied_of_build action built
    obtain ⟨name, ns, closes, rfl⟩ := element_of_applied (.inl rfl) applied
    exact ⟨_, rfl, .nameless trivial rfl rfl, trivial⟩
  · obtain ⟨part, applied, rfl⟩ := applied_of_build action built
    obtain ⟨name, ns, closes, rfl⟩ := element_of_applied (.inr rfl) applied
    exact ⟨_, rfl, .nameless trivial rfl rfl, trivial⟩

theorem functionExpression_makes (member : p ∈ Nonterminal.functionExpression.productions)
    (row : SlotsMake p.slots parts) (built : p.build parts = .ok value) : MakesExpression value := by
  have ends : ∀ q ∈ Nonterminal.functionExpression.productions,
      q.slots.getLast? = some (.keep (.nonterminal .block)) := by decide
  obtain ⟨before, _, rfl, -, body, rfl, block⟩ := row.last (ends p member)
  obtain ⟨part, applied, rfl⟩ := applied_of_action .functionExpression (by decide) member built
  simp only [Build.apply, Build.functionExpression] at applied
  split at applied
  · rename_i same
    have last := congrArg List.getLast? same
    rw [List.getLast?_concat] at last
    cases last
    split at applied <;> cases applied
    exact ⟨_, rfl, .nameless block rfl rfl, trivial⟩
  · cases applied

theorem classExpression_makes (member : p ∈ Nonterminal.classExpression.productions)
    (row : SlotsMake p.slots parts) (built : p.build parts = .ok value) : MakesExpression value := by
  have ends : ∀ q ∈ Nonterminal.classExpression.productions,
      q.slots.getLast? = some (.keep (.nonterminal .classBody)) := by decide
  obtain ⟨before, _, rfl, -, body, rfl, block⟩ := row.last (ends p member)
  obtain ⟨part, applied, rfl⟩ := applied_of_action .classExpression (by decide) member built
  simp only [Build.apply, Build.classExpression] at applied
  split at applied
  · rename_i same
    have last := congrArg List.getLast? same
    rw [List.getLast?_concat] at last
    cases last
    split at applied <;> cases applied
    exact ⟨_, rfl, .nameless ⟨block, rfl⟩ rfl rfl, trivial⟩
  · cases applied

theorem arrowFunction_makes (member : p ∈ Nonterminal.arrowFunction.productions)
    (row : SlotsMake p.slots parts) (built : p.build parts = .ok value) : MakesExpression value := by
  simp only [Nonterminal.productions, alternatives, builds, Alternative.productions,
    Piece.consecutive, Piece.keep, Piece.skip, List.flatMap_cons, List.flatMap_nil, List.map_cons,
    List.map_nil, List.append_nil, List.cons_append, List.nil_append, List.mem_singleton] at member
  subst member
  obtain ⟨_, _, rfl, ⟨-, params, rfl, names⟩, _, _, rfl, ⟨-, body, rfl, own⟩, rfl⟩ := row
  cases built
  refine ⟨_, rfl, .leaf trivial ?_ rfl, own⟩
  intro name named
  obtain ⟨place, same⟩ := Form.params_of_firstName? named
  exact names place name same

theorem propertyName_makes (member : p ∈ Nonterminal.propertyName.productions)
    (row : SlotsMake p.slots parts) (built : p.build parts = .ok value) :
    Nonterminal.propertyName.Makes value := by
  simp only [Nonterminal.productions, alternatives, builds, token, Alternative.productions,
    Piece.consecutive, Piece.keep, List.flatMap_cons, List.flatMap_nil, List.map_cons, List.map_nil,
    List.append_nil, List.mem_singleton] at member
  subst member
  obtain ⟨_, _, rfl, ⟨t, kind, read, rfl⟩, rfl⟩ := row
  cases built
  exact ⟨_, rfl, _, rfl, isName_of_isRead read kind⟩

theorem newCallee_makes (member : p ∈ Nonterminal.newCallee.productions)
    (row : SlotsMake p.slots parts) (built : p.build parts = .ok value) :
    IsSingle (fun n => n.IsOperand ∧ n.form.Suits IsPlainName) value := by
  simp only [Nonterminal.productions, alternatives, builds, token, Alternative.productions,
    Piece.consecutive, Piece.keep, Piece.skip, List.flatMap_cons, List.flatMap_nil, List.map_cons,
    List.map_nil, List.append_nil, List.cons_append, List.nil_append, List.mem_cons,
    List.not_mem_nil, or_false] at member
  rcases member with rfl | rfl | rfl
  · obtain ⟨_, _, rfl, ⟨t, kind, read, rfl⟩, rfl⟩ := row
    cases built
    refine ⟨_, rfl, ⟨trivial, ?_⟩, trivial⟩
    rintro name ⟨⟩
    exact isName_of_isRead read kind
  · obtain ⟨_, _, rfl, ⟨t, kind, read, rfl⟩, rfl⟩ := row
    cases built
    exact ⟨_, rfl, .nameless trivial rfl, trivial⟩
  · obtain ⟨_, _, rfl, ⟨-, object, rfl, operand⟩, _, _, rfl, ⟨-, property, rfl, name⟩, rfl⟩ := row
    cases built
    exact ⟨_, rfl, .nameless (fun _ => name) rfl, fun _ => ⟨operand, name⟩⟩

theorem decoratorTarget_makes (member : p ∈ Nonterminal.decoratorTarget.productions)
    (row : SlotsMake p.slots parts) (built : p.build parts = .ok value) :
    IsSingle (fun n => n.IsOperand ∧ n.form.Suits IsPlainName) value := by
  simp only [Nonterminal.productions, alternatives, builds, token, Alternative.productions,
    Piece.consecutive, Piece.keep, Piece.skip, List.flatMap_cons, List.flatMap_nil, List.map_cons,
    List.map_nil, List.append_nil, List.cons_append, List.nil_append, List.mem_cons,
    List.not_mem_nil, or_false] at member
  rcases member with rfl | rfl
  · obtain ⟨_, _, rfl, ⟨t, kind, read, rfl⟩, rfl⟩ := row
    cases built
    refine ⟨_, rfl, ⟨trivial, ?_⟩, trivial⟩
    rintro name ⟨⟩
    exact isName_of_isRead read kind
  · obtain ⟨_, _, rfl, ⟨-, object, rfl, operand⟩, _, _, rfl, ⟨t, kind, read, rfl⟩, rfl⟩ := row
    cases built
    have name : ∃ name, (Build.identifier t).identifierName? = some name ∧ IsName name :=
      ⟨_, rfl, isName_of_isRead read kind⟩
    exact ⟨_, rfl, .nameless (fun _ => name) rfl, fun _ => ⟨operand, name⟩⟩

theorem block_makes (member : p ∈ Nonterminal.block.productions)
    (built : p.build parts = .ok value) : Nonterminal.block.Makes value := by
  obtain ⟨_, ⟨⟩, rfl⟩ := applied_of_action .block (by decide) member built
  exact ⟨_, rfl, rfl⟩

theorem classBody_makes (member : p ∈ Nonterminal.classBody.productions)
    (built : p.build parts = .ok value) : Nonterminal.classBody.Makes value := by
  obtain ⟨_, ⟨⟩, rfl⟩ := applied_of_action .classBody (by decide) member built
  exact ⟨_, rfl, rfl⟩

theorem arrowBody_makes (member : p ∈ Nonterminal.arrowBody.productions)
    (row : SlotsMake p.slots parts) (built : p.build parts = .ok value) :
    Nonterminal.arrowBody.Makes value := by
  simp only [Nonterminal.productions, alternatives, passes, Alternative.productions,
    Piece.consecutive, Piece.keep, List.flatMap_cons, List.flatMap_nil, List.map_cons, List.map_nil,
    List.append_nil, List.cons_append, List.nil_append, List.mem_cons, List.not_mem_nil, or_false]
    at member
  rcases member with rfl | rfl
  · obtain ⟨_, _, rfl, ⟨-, n, rfl, block⟩, rfl⟩ := row
    cases built
    exact ⟨n, rfl, .inl block⟩
  · obtain ⟨_, _, rfl, ⟨-, n, rfl, leads⟩, rfl⟩ := row
    cases built
    exact ⟨n, rfl, .inr leads⟩

/-- A binding that is a name is read off that name. -/
theorem eq_of_toPattern {n : Node} {place : Place} {name : Text}
    (h : Build.toPattern n = .ok ⟨place, .identifier name⟩) : n = ⟨place, .identifier name⟩ := by
  obtain ⟨own, form⟩ := n
  cases form <;> simp only [Build.toPattern, reduceCtorEq] at h
  case identifier =>
    cases h
    rfl
  case assignment =>
    split at h
    · obtain ⟨_, -, same⟩ := ok_of_map h
      cases same
    · cases h
  all_goals
    obtain ⟨_, -, same⟩ := ok_of_map h
    cases same

/-- A list in parentheses is a name only if the first expression in it is. -/
theorem arrowList_makes {n : Node} {more : List Part} {part : Part} (leads : n.Leads IsPlainName)
    (applied : Build.apply .arrowList (.node n :: more) = .ok part) :
    Nonterminal.arrowParams.Makes [part] := by
  obtain ⟨patterns, found, rfl⟩ := ok_of_map applied
  refine ⟨patterns, rfl, ?_⟩
  rintro place name rfl
  obtain ⟨first, own, found⟩ := ok_of_bind found
  obtain ⟨others, -, found⟩ := ok_of_bind found
  cases found
  rw [eq_of_toPattern own] at leads
  exact leads.names name rfl

theorem arrowParams_makes (member : p ∈ Nonterminal.arrowParams.productions)
    (row : SlotsMake p.slots parts) (built : p.build parts = .ok value)
    (free : p.isNaming = true → ∀ t, parts = [.token t] → ¬ t.IsReserved) :
    Nonterminal.arrowParams.Makes value := by
  simp only [Nonterminal.productions, alternatives, builds, token, Alternative.productions,
    Piece.optional, Piece.consecutive, Piece.keep, Piece.skip, List.flatMap_cons, List.flatMap_nil,
    List.map_cons, List.map_nil, List.append_nil, List.cons_append, List.nil_append, List.mem_cons,
    List.not_mem_nil, or_false] at member
  rcases member with rfl | rfl | rfl | rfl
  · obtain ⟨_, _, rfl, ⟨t, kind, read, rfl⟩, rfl⟩ := row
    cases built
    refine ⟨_, rfl, ?_⟩
    rintro place name ⟨⟩
    exact isPlainName_of_free read kind (free rfl t rfl)
  · cases built
    refine ⟨_, rfl, ?_⟩
    rintro place name ⟨⟩
  all_goals
    obtain ⟨_, rest, rfl, ⟨-, n, rfl, leads⟩, -⟩ := row
    obtain ⟨part, applied, rfl⟩ := ok_of_map built
    exact arrowList_makes leads applied

/-- The layers on top of the value have the parts that they ask for. -/
def Topped (value : List Part) : Prop :=
  ∀ part ∈ value, ∀ n ∈ part.tops, n.form.Suits IsPlainName

theorem topped_of_single {P : Node → Prop}
    (h : IsSingle (fun n => P n ∧ n.form.Suits IsPlainName) value) : Topped value := by
  obtain ⟨n, rfl, -, suits⟩ := h
  intro part hp m hm
  cases List.mem_singleton.mp hp
  cases List.mem_singleton.mp hm
  exact suits

theorem IsSingle.weaken {P Q : Node → Prop} (h : IsSingle (fun n => P n ∧ Q n) value) :
    IsSingle P value := by
  obtain ⟨n, rfl, own, -⟩ := h
  exact ⟨n, rfl, own⟩

/-- What is built of suited parts is suited, if the action asks for nothing or gets it. -/
theorem suited_build (row : SlotsMake p.slots parts) (built : p.build parts = .ok value)
    (top : p.action.any Action.isParticular = true → Topped value) :
    ∀ part ∈ value, part.Suited := by
  have suited := row.suited
  cases same : p.action with
  | none =>
    rw [Production.build, same] at built
    cases built
    exact suited
  | some action =>
    rw [Production.build, same] at built
    rw [same] at top
    obtain ⟨part, applied, rfl⟩ := ok_of_map built
    simp only [List.mem_singleton, forall_eq]
    exact Build.suited_apply suited applied fun own => top own part (List.mem_singleton_self part)

theorem eq_or_isDeclaration_asDeclaration (n : Node) :
    Build.asDeclaration n = n ∨ (Build.asDeclaration n).isDeclaration = true := by
  obtain ⟨place, form⟩ := n
  cases form <;> first | exact .inl rfl | exact .inr rfl

theorem form_eq_or_isDeclaration_decorate (decorators : List Node) (n : Node) :
    (Build.decorate decorators n).form = n.form ∨
      (Build.decorate decorators n).isDeclaration = true := by
  obtain ⟨place, form⟩ := n
  cases form <;> first | exact .inl rfl | exact .inr rfl

/-- What a slot skips hands nothing over. -/
theorem SlotsMake.handed {slots : List Slot} (h : SlotsMake slots parts) :
    SlotsMake (slots.filter fun slot => !slot.isSkip) parts := by
  induction slots generalizing parts with
  | nil => exact h
  | cons slot slots ih =>
    cases slot with
    | absent =>
      obtain ⟨rest, rfl, below⟩ := h
      exact ⟨rest, rfl, ih below⟩
    | skip => exact ih h
    | keep =>
      obtain ⟨value, rest, rfl, own, below⟩ := h
      exact ⟨value, rest, rfl, own, ih below⟩

/-- The single expression that a row hands over. -/
theorem SlotsMake.expression {slots : List Slot} (brace : Bool) (h : SlotsMake slots parts)
    (only : slots.filter (fun slot => !slot.isSkip) =
      [.keep (.nonterminal (.chain brace .assign))]) :
    ∃ n, parts = [.node n] ∧ n.Leads IsPlainName := by
  have row := h.handed
  rw [only] at row
  obtain ⟨_, _, rfl, ⟨-, n, rfl, leads⟩, rfl⟩ := row
  exact ⟨n, rfl, leads⟩

theorem expressionStatement_makes (member : p ∈ Nonterminal.expressionStatement.productions)
    (row : SlotsMake p.slots parts) (built : p.build parts = .ok value) : Topped value := by
  have only : ∀ q ∈ Nonterminal.expressionStatement.productions,
      q.slots.filter (fun slot => !slot.isSkip) =
        [.keep (.nonterminal (.chain .false .assign))] := by decide
  obtain ⟨n, rfl, leads⟩ := row.expression .false (only p member)
  obtain ⟨_, ⟨⟩, rfl⟩ := applied_of_action .expressionStatement (by decide) member built
  refine topped_of_single (P := fun _ => True) ⟨_, rfl, trivial, ?_⟩
  obtain ⟨place, form⟩ := n
  simp only [Build.asStatement]
  split
  · trivial
  · trivial
  · exact leads

theorem exportDeclaration_makes (member : p ∈ Nonterminal.exportDeclaration.productions)
    (row : SlotsMake p.slots parts) (built : p.build parts = .ok value)
    (own : p.action.any Action.isParticular = true) : Topped value := by
  have only : ∀ q ∈ Nonterminal.exportDeclaration.productions,
      q.action.any Action.isParticular = true → q.action = some .exportDefault ∧
        q.slots.filter (fun slot => !slot.isSkip) =
          [.keep (.nonterminal (.chain .true .assign))] := by decide
  obtain ⟨action, only⟩ := only p member own
  obtain ⟨n, rfl, leads⟩ := row.expression .true only
  rw [Production.build, action] at built
  obtain ⟨_, ⟨⟩, rfl⟩ := ok_of_map built
  refine topped_of_single (P := fun _ => True) ⟨_, rfl, trivial, ?_⟩
  rcases eq_or_isDeclaration_asDeclaration n with same | declaration
  · exact .inr (same.symm ▸ leads)
  · exact .inl declaration

theorem decoratedDeclaration_makes (member : p ∈ Nonterminal.decoratedDeclaration.productions)
    (row : SlotsMake p.slots parts) (built : p.build parts = .ok value)
    (own : p.action.any Action.isParticular = true) : Topped value := by
  have ends : ∀ q ∈ Nonterminal.decoratedDeclaration.productions,
      q.slots.getLast? = some (.keep (.nonterminal .classExpression)) := by decide
  have only : ∀ q ∈ Nonterminal.decoratedDeclaration.productions,
      q.action.any Action.isParticular = true → q.action = some .decoratedExportDefault := by
    decide
  obtain ⟨before, _, rfl, -, n, rfl, leads⟩ := row.last (ends p member)
  rw [Production.build, only p member own] at built
  obtain ⟨part, applied, rfl⟩ := ok_of_map built
  simp only [Build.apply, Build.onDecorated, Build.decorated?, List.getLast?_concat] at applied
  cases applied
  refine topped_of_single (P := fun _ => True) ⟨_, rfl, trivial, ?_⟩
  rcases form_eq_or_isDeclaration_decorate _ n with same | declaration
  · exact .inr (leads.of_form same)
  · exact .inl declaration

/-- What a production makes of suited parts is suited and is what its left side asks for. -/
theorem production_makes (member : p ∈ a.productions) (row : SlotsMake p.slots parts)
    (built : p.build parts = .ok value)
    (free : p.isNaming = true → ∀ t, parts = [.token t] → ¬ t.IsReserved) :
    Symbol.Makes (.nonterminal a) value := by
  have expression (made : MakesExpression value) :
      (∀ part ∈ value, part.Suited) ∧ IsSingle (Node.Leads IsPlainName) value :=
    ⟨suited_build row built fun _ => topped_of_single made, made.weaken⟩
  have operand (made : IsSingle (fun n => n.IsOperand ∧ n.form.Suits IsPlainName) value) :
      (∀ part ∈ value, part.Suited) ∧ IsSingle Node.IsOperand value :=
    ⟨suited_build row built fun _ => topped_of_single made, made.weaken⟩
  have plain (none : ∀ q ∈ a.productions, q.action.any Action.isParticular = false) :
      ∀ part ∈ value, part.Suited :=
    suited_build row built fun own => by rw [none p member] at own; cases own
  cases a
  case chain => exact expression (chain_makes member row built free)
  case array => exact expression (array_makes member built)
  case object => exact expression (object_makes member built)
  case arrowFunction => exact expression (arrowFunction_makes member row built)
  case functionExpression => exact expression (functionExpression_makes member row built)
  case classExpression => exact expression (classExpression_makes member row built)
  case newExpression => exact expression (newExpression_makes member built)
  case element => exact expression (element_makes member built)
  case newCallee => exact operand (newCallee_makes member row built)
  case decoratorTarget => exact operand (decoratorTarget_makes member row built)
  case propertyName => exact ⟨plain (by decide), propertyName_makes member row built⟩
  case block => exact ⟨plain (by decide), block_makes member built⟩
  case classBody => exact ⟨plain (by decide), classBody_makes member built⟩
  case arrowBody => exact ⟨plain (by decide), arrowBody_makes member row built⟩
  case arrowParams => exact ⟨plain (by decide), arrowParams_makes member row built free⟩
  case expressionStatement =>
    exact ⟨suited_build row built fun _ => expressionStatement_makes member row built, trivial⟩
  case exportDeclaration =>
    exact ⟨suited_build row built (exportDeclaration_makes member row built), trivial⟩
  case decoratedDeclaration =>
    exact ⟨suited_build row built (decoratedDeclaration_makes member row built), trivial⟩
  all_goals exact ⟨plain (by decide), trivial⟩

end Productions

theorem Parses.makes {s : Symbol} {value : List Part} (h : Parses s value) : s.Makes value := by
  induction h using Parses.rec (motive_2 := fun slots parts _ => SlotsMake slots parts) with
  | token read => exact ⟨_, rfl, read, rfl⟩
  | production member _ built free row => exact production_makes member row built free
  | nil => rfl
  | absent _ below => exact ⟨_, rfl, below⟩
  | skip _ below => exact below
  | keep _ _ own below => exact ⟨_, _, rfl, own, below⟩

/-- The layers of a parsed tree have the parts that they are printed with. -/
theorem parse_suited {source name : Text} {n : Node} (h : parse source name = .ok n) :
    n.Suited := by
  obtain ⟨tree, read, rfl⟩ := ok_of_map h
  have suited : tree.Suited :=
    Part.suited_node.mp ((parseTree_parses read).makes.1 _ (List.mem_singleton_self _))
  split
  · exact suited
  · exact suited.inFile name

end Grammar

end Hyperscript
