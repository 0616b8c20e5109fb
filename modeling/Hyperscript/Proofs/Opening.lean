import Hyperscript.Proofs.Derivation
import Hyperscript.Proofs.LiteralSpelling
import Hyperscript.Proofs.RoundTrip

/-!
# How printed expressions start

A statement that starts with a brace is a block, and one that starts with one of two words is a
declaration. What an operator, a call or a member starts with is what its first operand starts with,
unless precedence puts the operand into parentheses. So the start of a printed expression is found
at the end of a path of first operands.
-/
namespace Hyperscript

/-- What a reader takes for the start of a block or of a declaration. -/
inductive Opening where
  | brace | functionWord | classWord | other
  deriving DecidableEq, Repr

namespace Text

open Grammar (Scan.name Scan.isNameStart Scan.isNamePart)

/-- How a text starts: with a brace, or with a word that is not part of a longer name. -/
def opening (t : Text) : Opening :=
  if t.head? = some (CodePoint.ofChar '\x7b') then .brace
  else if t.take (Scan.name t) = "function" then .functionWord
  else if t.take (Scan.name t) = "class" then .classWord
  else .other

theorem opening_eq_brace_iff {t : Text} :
    t.opening = .brace ↔ t.head? = some (CodePoint.ofChar '\x7b') := by
  rw [opening]
  split
  · simp_all
  · split <;> (try split) <;> simp_all

/-- No name goes on here, and no brace stands here. -/
def Breaks (rest : Text) : Prop :=
  rest.head?.all (fun c => !Scan.isNamePart c && decide (c ≠ CodePoint.ofChar '\x7b')) = true

instance (rest : Text) : Decidable rest.Breaks := inferInstanceAs (Decidable (_ = true))

theorem Breaks.head {rest : Text} (h : rest.Breaks) :
    ∀ c ∈ rest.head?, Scan.isNamePart c = false ∧ c ≠ CodePoint.ofChar '\x7b' := by
  intro c hc
  rw [Breaks, Option.mem_def.mp hc] at h
  simpa using h

theorem Breaks.append {w : Text} (h : w.Breaks) (some : w ≠ []) (rest : Text) :
    (w ++ rest).Breaks := by
  cases w with
  | nil => exact absurd rfl some
  | cons c w => exact h

theorem name_append {t rest : Text} (h : rest.Breaks) : Scan.name (t ++ rest) = Scan.name t := by
  have stop : ∀ c ∈ rest.head?, Scan.isNamePart c = false := fun c hc => (h.head c hc).1
  cases t with
  | nil =>
    cases rest with
    | nil => rfl
    | cons c rest =>
      have start : Scan.isNameStart c ≠ true := by
        intro start
        have part := Grammar.Scan.isNamePart_of_isNameStart start
        rw [stop c rfl] at part
        cases part
      rw [List.nil_append, Scan.name, Grammar.Scan.headed, if_neg start]
      rfl
  | cons c t =>
    rw [List.cons_append, Scan.name, Grammar.Scan.headed, Grammar.Scan.run_append stop]
    rfl

/-- What stands behind a text does not change how it starts, if it breaks off what was there. -/
theorem opening_append {t rest : Text} (h : rest.Breaks) : (t ++ rest).opening = t.opening := by
  have first : (t ++ rest).head? = some (CodePoint.ofChar '\x7b') ↔
      t.head? = some (CodePoint.ofChar '\x7b') := by
    cases t with
    | nil => exact ⟨fun same => absurd rfl (h.head _ same).2, nofun⟩
    | cons c t => rfl
  rw [opening, name_append h, List.take_append_of_le_length (Grammar.Scan.name_le_length t)]
  simp only [first, opening]

theorem run_append_of_lt {p : CodePoint → Bool} {t : Text} (h : Grammar.Scan.run p t < t.length)
    (rest : Text) : Grammar.Scan.run p (t ++ rest) = Grammar.Scan.run p t := by
  induction t with
  | nil => exact absurd h (Nat.not_lt_zero _)
  | cons c t ih =>
    simp only [Grammar.Scan.run, List.cons_append, List.takeWhile_cons] at ih h ⊢
    split
    · rename_i part
      rw [if_pos part] at h
      exact congrArg (· + 1) (ih (Nat.lt_of_succ_lt_succ h))
    · rfl

/-- A text that goes on behind its first name starts like itself, whatever stands behind it. -/
theorem opening_append_of_lt {w : Text} (h : Scan.name w < w.length) (rest : Text) :
    (w ++ rest).opening = w.opening := by
  cases w with
  | nil => exact absurd h (Nat.not_lt_zero _)
  | cons c t =>
    have same : Scan.name (c :: t ++ rest) = Scan.name (c :: t) := by
      rw [List.cons_append]
      simp only [Scan.name, Grammar.Scan.headed, List.length_cons] at h ⊢
      split
      · rename_i start
        rw [if_pos start] at h
        rw [run_append_of_lt (Nat.lt_of_succ_lt_succ h)]
      · rfl
    rw [opening, same, List.take_append_of_le_length (Nat.le_of_lt h)]
    rfl

theorem opening_of_head {c : CodePoint} {t : Text} (first : t.head? = some c)
    (start : Scan.isNameStart c = false) (brace : c ≠ CodePoint.ofChar '\x7b') :
    t.opening = .other := by
  obtain ⟨rest, rfl⟩ := List.head?_eq_some_iff.mp first
  have name : Scan.name [c] = 0 := by rw [Scan.name, Grammar.Scan.headed, start]; rfl
  have alone : opening [c] = .other := by simp [opening, name, brace, ofString]
  rw [← List.singleton_append, opening_append_of_lt (by simp [name]), alone]

theorem opening_of_isEnclosed {t : Text} (h : Grammar.IsEnclosed t) : t.opening = .other := by
  obtain ⟨quote, known, inside, rfl⟩ := h
  have each : (Grammar.quotes.all fun c =>
      !Scan.isNameStart c && decide (c ≠ CodePoint.ofChar '\x7b')) = true := by decide
  have own := List.all_eq_true.mp each quote known
  rw [Bool.and_eq_true, Bool.not_eq_true', decide_eq_true_eq] at own
  exact opening_of_head rfl own.1 own.2

/-- Digits of any script start no name. -/
theorem isNameStart_of_isDecimal {c : CodePoint} (h : c.isDecimal = true) :
    Scan.isNameStart c = false ∧ c ≠ CodePoint.ofChar '\x7b' := by
  by_cases ascii : c.val < 128
  · refine CodePoint.of_ascii (P := fun c => c.isDecimal = true →
      Scan.isNameStart c = false ∧ c ≠ CodePoint.ofChar '\x7b') ?_ c ascii h
    decide +kernel
  · refine ⟨Bool.eq_false_iff.mpr fun start => ?_, ?_⟩
    · exact ascii (Grammar.Scan.val_lt_of_isNamePart (Grammar.Scan.isNamePart_of_isNameStart start))
    · rintro rfl
      exact ascii (by decide)

theorem opening_of_isNumber {t : Text} (h : Grammar.IsNumber t) : t.opening = .other := by
  obtain ⟨some, whole⟩ := h
  obtain ⟨c, rest, rfl⟩ := List.exists_cons_of_ne_nil some
  have digit : c.isDecimal = true := by
    apply Bool.not_eq_false _ |>.mp
    intro other
    rw [Grammar.Scan.number_of_not_decimal other] at whole
    cases whole
  exact opening_of_head rfl (isNameStart_of_isDecimal digit).1 (isNameStart_of_isDecimal digit).2

/-- The words that start a declaration. -/
def openingWords : List Text := ["function", "class"]

/-- A name is no opening, unless it is one of the words. -/
theorem opening_of_isName {w : Text} (h : Grammar.IsName w) (free : w ∉ openingWords) :
    w.opening = .other := by
  obtain ⟨c, more, same, start, -⟩ := h.cases
  have brace : w.head? ≠ some (CodePoint.ofChar '\x7b') := by
    rw [same]
    rintro ⟨⟩
    exact absurd start (by decide)
  simp only [openingWords, List.mem_cons, List.not_mem_nil, or_false, not_or] at free
  rw [opening, h.2, List.take_length, if_neg brace, if_neg free.1, if_neg free.2]

end Text

/-- Operators bind tighter than a conditional and looser than a sign. -/
theorem Precedence.ofOperator_bounds (operator : Text) :
    4 ≤ ofOperator operator ∧ ofOperator operator ≤ 14 := by
  rw [ofOperator]
  cases found : operators.find? fun entry => Text.ofString entry.1 = operator with
  | none => decide
  | some entry =>
    have each : ∀ e ∈ operators, 4 ≤ e.2 ∧ e.2 ≤ 14 := by decide
    exact each entry (List.mem_of_find?_eq_some found)

namespace Node

def isClassBody (n : Node) : Bool :=
  match n.form with
  | .classBody _ => true
  | _ => false

end Node

namespace Form

variable {α : Type}

/-- The operand that the printed form starts with, and how tightly it has to bind. -/
def leading? : Form α → Option (Nat × α)
  | .member object _ _ => some (Precedence.call, object)
  | .call callee _ _ => some (Precedence.call, callee)
  | .update _ argument false => some (Precedence.postfixed, argument)
  | .binary operator left _ | .logical operator left _ =>
    some (Precedence.ofOperator operator, left)
  | .conditional test _ _ => some (Precedence.conditional + 1, test)
  | .assignment _ left _ => some (Precedence.call, left)
  | _ => none

/-- The name that the printed form of an expression starts with, if it starts with its own. -/
def firstName? : Form Node → Option Text
  | .identifier name => some name
  | .arrow [⟨_, .identifier name⟩] _ => some name
  | _ => none

/-- A layer that the grammar gives to an expression, with the operators, literals and bodies that
it can have there. -/
def IsExpression : Form Node → Prop
  | .identifier _ | .this | .boolean _ | .null | .arrayExpression _ | .objectExpression _
  | .new .. | .call .. | .binary .. | .logical .. | .conditional .. | .assignment .. | .arrow ..
  | .jsxElement .. => True
  | .member _ property computed =>
    computed = false → ∃ name, property.identifierName? = some name ∧ Grammar.IsName name
  | .unary operator _ => operator ∈ Operator.unary
  | .update operator _ _ => operator ∈ Operator.update
  | .functionExpression _ _ body => body.isBlock = true
  | .classExpression _ _ body decorators => body.isClassBody = true ∧ decorators = []
  | .string _ spelling => ∃ t, spelling = some t ∧ Grammar.IsEnclosed t
  | .number _ spelling => ∃ t, spelling = some t ∧ Grammar.IsNumber t
  | .template raw => Grammar.IsEnclosed raw
  | _ => False

end Form

namespace Node

open Layout

/-- What the printed form opens. An operand in parentheses opens nothing. -/
def opening : Node → Opening
  | ⟨_, .objectExpression _⟩ => .brace
  | ⟨_, .functionExpression ..⟩ => .functionWord
  | ⟨_, .classExpression ..⟩ => .classWord
  | ⟨_, .member object _ _⟩ => if object.precedence < Precedence.call then .other else opening object
  | ⟨_, .call callee _ _⟩ => if callee.precedence < Precedence.call then .other else opening callee
  | ⟨_, .update _ argument false⟩ =>
    if argument.precedence < Precedence.postfixed then .other else opening argument
  | ⟨_, .binary operator left _⟩ | ⟨_, .logical operator left _⟩ =>
    if left.precedence < Precedence.ofOperator operator then .other else opening left
  | ⟨_, .conditional test _ _⟩ =>
    if test.precedence < Precedence.conditional + 1 then .other else opening test
  | ⟨_, .assignment _ left _⟩ => if left.precedence < Precedence.call then .other else opening left
  | _ => .other

theorem opening_of_leading {n c : Node} {least : Nat} (h : n.form.leading? = some (least, c)) :
    n.opening = (if c.precedence < least then .other else c.opening) ∧
      n.startsLikeDeclaration = c.startsLikeDeclaration := by
  obtain ⟨place, form⟩ := n
  cases form
  case update operator argument leading =>
    cases leading <;> cases h
    rw [opening, startsLikeDeclaration]
    exact ⟨rfl, rfl⟩
  all_goals
    cases h
    try rw [opening, startsLikeDeclaration]
    try exact ⟨rfl, rfl⟩

/-- What the printer does not guard opens nothing. -/
theorem opening_of_startsLikeDeclaration {n : Node} (h : n.startsLikeDeclaration = false) :
    n.opening = .other := by
  fun_induction opening n <;> simp_all [startsLikeDeclaration]

theorem opening_of_isDeclarationLike {n : Node} (leads : n.form.leading? = none)
    (h : n.isDeclarationLike = false) : n.opening = .other := by
  fun_cases opening n <;> simp_all [isDeclarationLike, Form.leading?]

section Print

variable {pretty : Bool} {depth : Nat} {n c : Node} {least : Nat} {text : Text}

/-- The printed form starts with the first operand, and what comes next does not carry it on. -/
theorem print_leading (leads : n.form.leading? = some (least, c))
    (marks : ∀ operator argument leading, n.form = .update operator argument leading →
      operator ∈ Operator.update)
    (printed : n.print pretty depth = .ok text) :
    ∃ start rest, c.print pretty depth = .ok start ∧ text = c.operand least start ++ rest ∧
      rest.Breaks := by
  have breaks (w rest : Text) (h : w.Breaks ∧ w ≠ []) : (w ++ rest).Breaks := h.1.append h.2 rest
  obtain ⟨place, form⟩ := n
  cases form <;> simp only [Form.leading?, reduceCtorEq, Option.some.injEq, Prod.mk.injEq] at leads
  case member object property computed =>
    obtain ⟨rfl, rfl⟩ := leads
    rw [print] at printed
    obtain ⟨start, own, printed⟩ := Grammar.ok_of_bind printed
    obtain ⟨right, -, printed⟩ := Grammar.ok_of_bind printed
    cases computed <;> cases printed
    · exact ⟨start, _, own, List.append_assoc _ _ _, breaks "." right (by decide)⟩
    · refine ⟨start, _, own, ?_, breaks "[" (right ++ "]") (by decide)⟩
      simp only [List.append_assoc, if_true]
  case call callee arguments spacious =>
    obtain ⟨rfl, rfl⟩ := leads
    rw [print] at printed
    obtain ⟨start, own, printed⟩ := Grammar.ok_of_bind printed
    split at printed
    · obtain ⟨items, -, printed⟩ := Grammar.ok_of_bind printed
      cases printed
      refine ⟨start, _, own, rfl, ?_⟩
      simp only [lines, List.append_assoc]
      exact breaks "(" _ (by decide)
    · obtain ⟨items, -, printed⟩ := Grammar.ok_of_bind printed
      cases printed
      refine ⟨start, _, own, ?_, breaks "(" (commas items ++ ")") (by decide)⟩
      simp only [List.append_assoc]
  case update operator argument leading =>
    cases leading <;> cases leads
    rw [print] at printed
    obtain ⟨start, own, printed⟩ := Grammar.ok_of_bind printed
    cases printed
    refine ⟨start, operator, own, rfl, ?_⟩
    have each : ∀ w ∈ Operator.update, w.Breaks := by decide
    exact each operator (marks operator _ false rfl)
  case binary operator left right | logical operator left right =>
    obtain ⟨rfl, rfl⟩ := leads
    rw [print] at printed
    obtain ⟨start, own, printed⟩ := Grammar.ok_of_bind printed
    obtain ⟨second, -, printed⟩ := Grammar.ok_of_bind printed
    cases printed
    simp only [List.append_assoc]
    exact ⟨start, _, own, rfl, breaks " " _ (by decide)⟩
  case conditional test consequent alternate =>
    obtain ⟨rfl, rfl⟩ := leads
    rw [print] at printed
    obtain ⟨start, own, printed⟩ := Grammar.ok_of_bind printed
    obtain ⟨first, -, printed⟩ := Grammar.ok_of_bind printed
    obtain ⟨second, -, printed⟩ := Grammar.ok_of_bind printed
    cases printed
    simp only [List.append_assoc]
    exact ⟨start, _, own, rfl, breaks " ? " _ (by decide)⟩
  case assignment operator left right =>
    obtain ⟨rfl, rfl⟩ := leads
    rw [print] at printed
    obtain ⟨start, own, printed⟩ := Grammar.ok_of_bind printed
    obtain ⟨value, -, printed⟩ := Grammar.ok_of_bind printed
    cases printed
    simp only [List.append_assoc]
    exact ⟨start, _, own, rfl, breaks " " _ (by decide)⟩

theorem opening_unaryText {operator : Text} (known : operator ∈ Operator.unary) (argument : Text) :
    (unaryText operator argument).opening = .other := by
  have each : ∀ w ∈ Operator.unary, w.opening = .other ∧
      (wordOperators.contains w = true ∨ Grammar.Scan.name w < w.length) := by decide
  obtain ⟨own, kind⟩ := each operator known
  rw [unaryText]
  split
  · rw [List.append_assoc, Text.opening_append (Text.Breaks.append (by decide) (by decide) _), own]
  · rename_i sign
    simp only [Bool.or_eq_true, not_or] at sign
    rw [Text.opening_append_of_lt (kind.resolve_left sign.1), own]

/-- An arrow function is a parameter, or parameters in parentheses, and the body. -/
theorem print_arrow {place : Place} {params : List Node} {body : Node}
    (printed : print pretty depth ⟨place, .arrow params body⟩ = .ok text) :
    ∃ head inner, body.print pretty depth = .ok inner ∧
      text = head ++ " => " ++ body.arrowBody inner ∧
      (Form.firstName? (.arrow params body) = some head ∨
        head.head? = some (CodePoint.ofChar '(')) := by
  by_cases single : ∃ p name, params = [⟨p, .identifier name⟩]
  · obtain ⟨p, name, rfl⟩ := single
    rw [print] at printed
    obtain ⟨inner, own, printed⟩ := Grammar.ok_of_bind printed
    cases printed
    exact ⟨name, inner, own, rfl, .inl rfl⟩
  · rw [print] at printed
    · obtain ⟨items, -, printed⟩ := Grammar.ok_of_bind printed
      obtain ⟨inner, own, printed⟩ := Grammar.ok_of_bind printed
      cases printed
      refine ⟨"(" ++ commas items ++ ")", inner, own, ?_, .inr rfl⟩
      simp only [List.append_assoc]
      rfl
    · exact fun p name same => single ⟨p, name, same⟩

/-- An object, a function or a class starts with its brace or its word. -/
theorem print_declarationLike (own : n.form.IsExpression) (h : n.isDeclarationLike = true)
    (printed : n.print pretty depth = .ok text) : text.opening = n.opening := by
  obtain ⟨place, form⟩ := n
  cases form <;> simp only [isDeclarationLike, Bool.false_eq_true] at h
  case objectExpression properties =>
    have starts (w rest : Text) (h : w.opening = .brace ∧ Grammar.Scan.name w < w.length) :
        (w ++ rest).opening = .brace := (Text.opening_append_of_lt h.2 rest).trans h.1
    rw [opening]
    rw [print] at printed
    obtain ⟨items, -, printed⟩ := Grammar.ok_of_bind printed
    split at printed
    · cases printed
      decide
    · dsimp only at printed
      split at printed
      · obtain ⟨members, -, printed⟩ := Grammar.ok_of_bind printed
        cases printed
        simp only [lines, List.append_assoc]
        exact starts "\x7b" _ (by decide)
      · cases printed
        simp only [List.append_assoc]
        exact starts "\x7b " _ (by decide)
  case functionExpression id params body =>
    rw [opening]
    rw [print] at printed
    obtain ⟨items, -, printed⟩ := Grammar.ok_of_bind printed
    obtain ⟨block, -, printed⟩ := Grammar.ok_of_bind printed
    cases printed
    simp only [functionText, List.append_assoc]
    rw [Text.opening_append]
    · decide
    · cases id with
      | none => exact Text.Breaks.append (w := "(") (by decide) (by decide) _
      | some name =>
        simp only [optionalName, List.append_assoc]
        exact Text.Breaks.append (by decide) (by decide) _
  case classExpression id superClass body decorators =>
    obtain ⟨-, rfl⟩ := own
    rw [opening]
    rw [print] at printed
    obtain ⟨above, none, printed⟩ := Grammar.ok_of_bind printed
    cases none
    obtain ⟨parent, -, printed⟩ := Grammar.ok_of_bind printed
    obtain ⟨members, -, printed⟩ := Grammar.ok_of_bind printed
    cases printed
    have empty : Text.ofString "" = [] := rfl
    simp only [classText, Layout.decorators, empty, List.flatMap_nil, List.nil_append,
      List.append_assoc]
    rw [Text.opening_append]
    · decide
    · cases id with
      | some name =>
        simp only [optionalName, List.append_assoc]
        exact Text.Breaks.append (by decide) (by decide) _
      | none =>
        cases parent with
        | some t =>
          simp only [optionalName, List.nil_append, List.append_assoc]
          exact Text.Breaks.append (w := " extends ") (by decide) (by decide) _
        | none =>
          simp only [optionalName, List.nil_append]
          exact Text.Breaks.append (w := " ") (by decide) (by decide) _

/-- An expression without a first operand starts with a sign, a word or a name of its own. -/
theorem print_opening (leads : n.form.leading? = none) (own : n.form.IsExpression)
    (names : ∀ name ∈ n.form.firstName?, name.opening = .other)
    (printed : n.print pretty depth = .ok text) : text.opening = n.opening := by
  have starts (w rest : Text) (h : w.opening = .other ∧ Grammar.Scan.name w < w.length) :
      (w ++ rest).opening = .other := (Text.opening_append_of_lt h.2 rest).trans h.1
  cases plain : n.isDeclarationLike with
  | true => exact print_declarationLike own plain printed
  | false =>
    rw [opening_of_isDeclarationLike leads plain]
    obtain ⟨place, form⟩ := n
    cases form <;> (try exact absurd own id) <;> (try cases leads; done) <;> (try cases plain; done)
    case identifier =>
      rw [print] at printed
      cases printed
      exact names _ rfl
    case this =>
      rw [print] at printed
      cases printed
      decide
    case null =>
      rw [print] at printed
      cases printed
      decide
    case boolean value =>
      rw [print] at printed
      cases printed
      cases value <;> decide
    case string =>
      obtain ⟨spelled, rfl, enclosed⟩ := own
      rw [print] at printed
      cases printed
      exact Text.opening_of_isEnclosed enclosed
    case number =>
      obtain ⟨spelled, rfl, number⟩ := own
      rw [print] at printed
      cases printed
      exact Text.opening_of_isNumber number
    case template =>
      rw [print] at printed
      cases printed
      exact Text.opening_of_isEnclosed own
    case arrayExpression =>
      rw [print] at printed
      obtain ⟨items, -, printed⟩ := Grammar.ok_of_bind printed
      cases printed
      rw [List.append_assoc]
      exact starts "[" _ (by decide)
    case new =>
      rw [print] at printed
      obtain ⟨callee, -, printed⟩ := Grammar.ok_of_bind printed
      obtain ⟨items, -, printed⟩ := Grammar.ok_of_bind printed
      cases printed
      simp only [List.append_assoc]
      exact starts "new " _ (by decide)
    case unary =>
      rw [print] at printed
      obtain ⟨argument, -, printed⟩ := Grammar.ok_of_bind printed
      cases printed
      exact opening_unaryText own _
    case update operator argument leading =>
      cases leading
      · cases leads
      rw [print, if_pos rfl] at printed
      obtain ⟨argument, -, printed⟩ := Grammar.ok_of_bind printed
      cases printed
      have each : ∀ w ∈ Operator.update, w.opening = .other ∧ Grammar.Scan.name w < w.length := by
        decide
      exact starts operator _ (each operator own)
    case arrow params body =>
      obtain ⟨head, inner, -, rfl, first⟩ := print_arrow printed
      rw [List.append_assoc]
      rcases first with name | list
      · rw [Text.opening_append (Text.Breaks.append (by decide) (by decide) _)]
        exact names head name
      · obtain ⟨rest, rfl⟩ := List.head?_eq_some_iff.mp list
        exact starts "(" _ (by decide)
    case jsxElement =>
      rw [print_unprintable rfl] at printed
      cases printed

theorem opening_parenthesize (needed : Bool) (t : Text) :
    (parenthesize needed t).opening = if needed then .other else t.opening := by
  cases needed with
  | false => rfl
  | true =>
    rw [parenthesize, if_pos rfl, if_pos rfl, List.append_assoc,
      Text.opening_append_of_lt (by decide)]
    decide

end Print

/-- On the path of first operands there are expressions only, and a name at its end is one of
these. -/
inductive Leads (Name : Text → Prop) : Node → Prop
  | intro {n : Node} : n.form.IsExpression → (∀ name ∈ n.form.firstName?, Name name) →
      (∀ least c, n.form.leading? = some (least, c) → Leads Name c) → Leads Name n

namespace Leads

variable {Name Other : Text → Prop} {n : Node}

theorem isExpression (h : n.Leads Name) : n.form.IsExpression := by
  cases h with
  | intro own _ _ => exact own

theorem names (h : n.Leads Name) : ∀ name ∈ n.form.firstName?, Name name := by
  cases h with
  | intro _ names _ => exact names

/-- The printed form of an expression opens what the node does. -/
theorem opening_print (h : n.Leads fun name => name.opening = .other) {pretty : Bool} {depth : Nat}
    {text : Text} (printed : n.print pretty depth = .ok text) : text.opening = n.opening := by
  induction h generalizing text with
  | @intro n own names _ ih =>
    cases leads : n.form.leading? with
    | none => exact print_opening leads own names printed
    | some found =>
      obtain ⟨least, c⟩ := found
      have marks (operator : Text) (argument : Node) (leading : Bool)
          (same : n.form = .update operator argument leading) : operator ∈ Operator.update := by
        rwa [same] at own
      obtain ⟨start, rest, first, rfl, breaks⟩ := print_leading leads marks printed
      rw [Text.opening_append breaks, (opening_of_leading leads).1, operand, opening_parenthesize,
        ih least c leads first]
      simp only [decide_eq_true_eq]

end Leads

end Node

end Hyperscript
