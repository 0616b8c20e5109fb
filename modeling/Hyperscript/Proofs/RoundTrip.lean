import Hyperscript.Proofs.StatementText
import Hyperscript.Proofs.Printable

/-!
# Printing and parsing again

Every expression built from names, literals, arrays, operators, members and calls survives being
printed and parsed: the precedence table of the printer and the chain of levels of the grammar
agree, and so do the spaces of the printer and the lexer.
-/
namespace Hyperscript

namespace Operator

def unary : List Text := ["!", "-", "+", "~", "typeof", "void", "delete"]

def update : List Text := ["++", "--"]

def binary : List Text :=
  ["==", "!=", "===", "!==", "<", ">", "<=", ">=", "instanceof", "in", "+", "-", "*", "/", "%"]

def logical : List Text := ["||", "??", "&&"]

def assignment : List Text := ["=", "+=", "-=", "*=", "/=", "%=", "||=", "&&=", "??="]

end Operator

open Grammar

/-- A name or `this`, followed by any number of dotted names. -/
inductive DottedName : Node → Prop
  | identifier {place : Place} {name : Text} :
      IsFreeName name → DottedName ⟨place, .identifier name⟩
  | this {place : Place} : DottedName ⟨place, .this⟩
  | member {place namePlace : Place} {object : Node} {name : Text} : DottedName object →
      IsName name → DottedName ⟨place, .member object ⟨namePlace, .identifier name⟩ false⟩

/-- An increment or decrement behind its operand. -/
def Node.isTrailingUpdate (n : Node) : Bool :=
  match n.form with
  | .update _ _ leading => !leading
  | _ => false

/-- The expressions without markup, functions, classes, objects, templates and spreads, whose
numbers are spelled and whose other strings are not. -/
inductive PlainExpression : Node → Prop
  | identifier {place : Place} {name : Text} :
      IsFreeName name → PlainExpression ⟨place, .identifier name⟩
  | this {place : Place} : PlainExpression ⟨place, .this⟩
  | boolean {place : Place} {value : Bool} : PlainExpression ⟨place, .boolean value⟩
  | null {place : Place} : PlainExpression ⟨place, .null⟩
  | number {place : Place} {value : Number} {raw : Text} : raw ≠ [] →
      Scan.number raw = raw.length → Number.read raw = .ok value →
      PlainExpression ⟨place, .number value (some raw)⟩
  | string {place : Place} {value : Text} : PlainExpression ⟨place, .string value none⟩
  | array {place : Place} {elements : List Node} : (∀ n ∈ elements, PlainExpression n) →
      PlainExpression ⟨place, .arrayExpression elements⟩
  | unary {place : Place} {operator : Text} {argument : Node} : operator ∈ Operator.unary →
      PlainExpression argument → PlainExpression ⟨place, .unary operator argument⟩
  | leadingUpdate {place : Place} {operator : Text} {argument : Node} :
      operator ∈ Operator.update → PlainExpression argument →
      PlainExpression ⟨place, .update operator argument true⟩
  | trailingUpdate {place : Place} {operator : Text} {argument : Node} :
      operator ∈ Operator.update → PlainExpression argument → argument.isTrailingUpdate = false →
      PlainExpression ⟨place, .update operator argument false⟩
  | binary {place : Place} {operator : Text} {left right : Node} : operator ∈ Operator.binary →
      PlainExpression left → PlainExpression right →
      PlainExpression ⟨place, .binary operator left right⟩
  | logical {place : Place} {operator : Text} {left right : Node} : operator ∈ Operator.logical →
      PlainExpression left → PlainExpression right →
      PlainExpression ⟨place, .logical operator left right⟩
  | conditional {place : Place} {test consequent alternate : Node} : PlainExpression test →
      PlainExpression consequent → PlainExpression alternate →
      PlainExpression ⟨place, .conditional test consequent alternate⟩
  | assignment {place : Place} {operator : Text} {left right : Node} :
      operator ∈ Operator.assignment → PlainExpression left → PlainExpression right →
      PlainExpression ⟨place, .assignment operator left right⟩
  | member {place namePlace : Place} {object : Node} {name : Text} : PlainExpression object →
      IsName name → PlainExpression ⟨place, .member object ⟨namePlace, .identifier name⟩ false⟩
  | computed {place : Place} {object property : Node} : PlainExpression object →
      PlainExpression property → PlainExpression ⟨place, .member object property true⟩
  | call {place : Place} {callee : Node} {arguments : List Node} {spacious : Bool} :
      PlainExpression callee → (∀ n ∈ arguments, PlainExpression n) →
      PlainExpression ⟨place, .call callee arguments spacious⟩
  | new {place : Place} {callee : Node} {arguments : List Node} : DottedName callee →
      (∀ n ∈ arguments, PlainExpression n) → PlainExpression ⟨place, .new callee arguments⟩

namespace Text

/-- What carries on an expression that stands before it. -/
def carriers : List CodePoint := ["(", "[", "+", "-"].flatMap ofString

/-- What a text starts with, if it carries on an expression before it. -/
def carrier? (t : Text) : Option CodePoint := t.head?.filter carriers.contains

/-- The same, or the brace that opens a block. -/
def sign? (t : Text) : Option CodePoint :=
  t.head?.filter (CodePoint.ofChar '\x7b' :: carriers).contains

theorem carrier?_ne_brace (t : Text) : t.carrier? ≠ some (CodePoint.ofChar '\x7b') := by
  intro same
  have mem := (Option.filter_eq_some_iff.mp same).2
  exact absurd mem (by decide)

theorem sign?_of_head {c : CodePoint} {t : Text} (h : t.head? = some c)
    (plain : c ∉ CodePoint.ofChar '\x7b' :: carriers) : t.sign? = none := by
  rw [sign?, h, Option.filter_some_eq_none]
  simpa using plain

end Text

namespace Node

/-- The sign of an operand, which may stand in parentheses. -/
def guardedSign? (loose : Bool) (sign : Option CodePoint) : Option CodePoint :=
  if loose then some (CodePoint.ofChar '(') else sign

/-- The sign that the printed form starts with. -/
def sign? : Node → Option CodePoint
  | ⟨_, .objectExpression _⟩ => some (CodePoint.ofChar '\x7b')
  | ⟨_, .arrayExpression _⟩ => some (CodePoint.ofChar '[')
  | ⟨_, .arrow [⟨_, .identifier _⟩] _⟩ => none
  | ⟨_, .arrow ..⟩ => some (CodePoint.ofChar '(')
  | ⟨_, .unary operator _⟩ | ⟨_, .update operator _ true⟩ => operator.carrier?
  | ⟨_, .update _ argument false⟩ =>
    guardedSign? (argument.precedence < Precedence.postfixed) (sign? argument)
  | ⟨_, .member object _ _⟩ => guardedSign? (object.precedence < Precedence.call) (sign? object)
  | ⟨_, .call callee _ _⟩ => guardedSign? (callee.precedence < Precedence.call) (sign? callee)
  | ⟨_, .binary operator left _⟩ | ⟨_, .logical operator left _⟩ =>
    guardedSign? (left.precedence < Precedence.ofOperator operator) (sign? left)
  | ⟨_, .conditional test _ _⟩ =>
    guardedSign? (test.precedence < Precedence.conditional + 1) (sign? test)
  | ⟨_, .assignment _ left _⟩ => guardedSign? (left.precedence < Precedence.call) (sign? left)
  | _ => none

/-- What the printer does not guard starts with no brace. -/
theorem sign?_of_startsLikeDeclaration {n : Node} (h : n.startsLikeDeclaration = false) :
    n.sign? ≠ some (CodePoint.ofChar '\x7b') := by
  have paren : CodePoint.ofChar '(' ≠ CodePoint.ofChar '\x7b' := by decide
  have bracket : CodePoint.ofChar '[' ≠ CodePoint.ofChar '\x7b' := by decide
  have guarded (loose : Bool) (sign : Option CodePoint)
      (plain : sign ≠ some (CodePoint.ofChar '\x7b')) :
      guardedSign? loose sign ≠ some (CodePoint.ofChar '\x7b') := by
    cases loose with
    | false => exact plain
    | true => simp [guardedSign?, paren]
  fun_induction sign? n <;> first
    | exact guarded _ _ (by simp_all [startsLikeDeclaration])
    | simp_all [startsLikeDeclaration, Text.carrier?_ne_brace]

end Node

/-- However an expression is printed, the text denotes it at the level of its precedence. Where a
brace would open a block, the text must not start with one. -/
def Node.Restorable (n : Node) : Prop :=
  ∀ pretty depth, ∃ text, n.print pretty depth = .ok text ∧ text.sign? = n.sign? ∧
    ∀ brace, (brace = false → n.sign? ≠ some (CodePoint.ofChar '\x7b')) →
      Denotes (.nonterminal (.chain brace (Precedence.level n.precedence))) text (IsNode n)

/-- However the node is printed, the text denotes it as the symbol. -/
def Node.Restores (x : Symbol) (n : Node) : Prop :=
  ∀ pretty depth, ∃ text, n.print pretty depth = .ok text ∧ Denotes x text (IsNode n)

/-- The same for an item of a list that is printed as an operand. -/
def Node.RestoresItem (item : Nonterminal) (least : Nat) (n : Node) : Prop :=
  ∀ pretty depth, ∃ text, n.print pretty depth = .ok text ∧ DenotesItem item n (n.operand least text)

theorem Node.printAll_items {item : Nonterminal} {least : Nat} {ns : List Node}
    (each : ∀ n ∈ ns, n.RestoresItem item least) (pretty : Bool) (depth : Nat) :
    ∃ texts, Node.printAll pretty depth least ns = .ok texts ∧ DenoteItems item ns texts := by
  induction ns with
  | nil => exact ⟨[], rfl, .nil⟩
  | cons n ns ih =>
    obtain ⟨text, printed, denotes⟩ := each n List.mem_cons_self pretty depth
    obtain ⟨texts, printedAll, items⟩ := ih fun m mem => each m (List.mem_cons_of_mem n mem)
    refine ⟨n.operand least text :: texts, ?_, .cons denotes items⟩
    rw [Node.printAll, printed, printedAll]
    rfl

namespace Grammar

theorem Opened.sign?_append {text : Text} (h : Opened text) (rest : Text) :
    (text ++ rest).sign? = text.sign? := by
  obtain ⟨c, more, rfl, -⟩ := h
  rfl

end Grammar

namespace Node.Restorable

variable {n : Node}

/-- The same for an operand that has to bind so tight. -/
theorem operand (h : n.Restorable) (least : Nat) (pretty : Bool) (depth : Nat) :
    ∃ text, n.print pretty depth = .ok text ∧
      (n.operand least text).sign? = guardedSign? (n.precedence < least) n.sign? ∧
      ∀ brace, (brace = false →
        guardedSign? (n.precedence < least) n.sign? ≠ some (CodePoint.ofChar '\x7b')) →
        Denotes (.nonterminal (.chain brace (Precedence.level least))) (n.operand least text)
          (IsNode n) := by
  obtain ⟨text, printed, sign, denotes⟩ := h pretty depth
  refine ⟨text, printed, ?_⟩
  rw [Node.operand, Layout.parenthesize, guardedSign?]
  split
  · refine ⟨rfl, fun brace _ => .parenthesized ((denotes true nofun).lift ?_) brace _⟩
    exact Nat.zero_le _
  · rename_i tight
    refine ⟨sign, fun brace start => (denotes brace start).lift (Precedence.level_mono ?_)⟩
    simpa using tight

/-- An operand that may be looser than anything but a list of expressions. -/
theorem expression (h : n.Restorable) (pretty : Bool) (depth : Nat) :
    ∃ text, n.print pretty depth = .ok text ∧
      Denotes (.nonterminal .expression) (n.operand Precedence.assignment text) (IsNode n) := by
  obtain ⟨text, printed, -, denotes⟩ := h.operand Precedence.assignment pretty depth
  exact ⟨text, printed, denotes true nofun⟩

/-- An item of a list, which may be an assignment. -/
theorem item {item : Nonterminal} (h : n.Restorable) (mem : 0 ∈ core item)
    (found : item.productions[0]? =
      some ⟨item, [.keep (.nonterminal Nonterminal.expression)], none⟩)
    (open_ : barred item 0 = []) : n.RestoresItem item Precedence.assignment := by
  intro pretty depth
  obtain ⟨text, printed, denotes⟩ := h.expression pretty depth
  exact ⟨text, printed, .of_denotes (.pass mem found open_ denotes)⟩

section Leaves

variable {place : Place}

/-- An expression that is a single word. -/
theorem leaf {form : Form Node} {w : Text}
    (print_eq : ∀ pretty depth, Node.print pretty depth ⟨place, form⟩ = .ok w)
    (sign : w.sign? = Node.sign? ⟨place, form⟩)
    (denotes : ∀ brace l, Denotes (.nonterminal (.chain brace l)) w (IsNode ⟨place, form⟩)) :
    Restorable ⟨place, form⟩ :=
  fun pretty depth => ⟨w, print_eq pretty depth, sign, fun brace _ => denotes brace _⟩

theorem sign?_of_isName {w : Text} (h : IsName w) : w.sign? = none := by
  obtain ⟨c, more, rfl, start, -⟩ := h.cases
  refine Text.sign?_of_head rfl fun mem => ?_
  have all : (CodePoint.ofChar '\x7b' :: Text.carriers).all (!Scan.isNameStart ·) = true := by
    decide
  have other := List.all_eq_true.mp all c mem
  rw [start] at other
  cases other

theorem identifier {name : Text} (h : IsFreeName name) :
    Restorable ⟨place, .identifier name⟩ :=
  leaf (fun _ _ => by rw [Node.print]; rfl) (sign?_of_isName h.1) fun _ l => denotes_identifier h l

theorem this : Restorable ⟨place, .this⟩ :=
  leaf (w := "this") (fun _ _ => by rw [Node.print]; rfl) rfl fun _ l =>
    denotes_fixedWord (i := 1) (k := .thisWord) (by decide) (by decide) (by decide) rfl
      (fun _ => rfl) rfl l

theorem boolean {value : Bool} : Restorable ⟨place, .boolean value⟩ := by
  cases value with
  | true =>
    exact leaf (w := "true") (fun _ _ => by rw [Node.print]; rfl) rfl fun _ l =>
      denotes_fixedWord (i := 2) (k := .trueWord) (by decide) (by decide) (by decide) rfl
        (fun _ => rfl) rfl l
  | false =>
    exact leaf (w := "false") (fun _ _ => by rw [Node.print]; rfl) rfl fun _ l =>
      denotes_fixedWord (i := 3) (k := .falseWord) (by decide) (by decide) (by decide) rfl
        (fun _ => rfl) rfl l

theorem null : Restorable ⟨place, .null⟩ :=
  leaf (w := "null") (fun _ _ => by rw [Node.print]; rfl) rfl fun _ l =>
    denotes_fixedWord (i := 4) (k := .nullWord) (by decide) (by decide) (by decide) rfl
      (fun _ => rfl) rfl l

theorem number {value : Number} {raw : Text} (nonempty : raw ≠ [])
    (whole : Scan.number raw = raw.length) (read : Number.read raw = .ok value) :
    Restorable ⟨place, .number value (some raw)⟩ := by
  refine leaf (w := raw) (fun _ _ => by rw [Node.print]; rfl) ?_ fun _ l =>
    denotes_number nonempty whole read l
  obtain ⟨c, more, rfl⟩ := List.exists_cons_of_ne_nil nonempty
  refine Text.sign?_of_head rfl fun mem => ?_
  have all : (CodePoint.ofChar '\x7b' :: Text.carriers).all (!CodePoint.isDecimal ·) = true := by
    decide
  have other := List.all_eq_true.mp all c mem
  rw [Scan.number_of_not_decimal (by simpa using other)] at whole
  cases whole

theorem string {value : Text} {spelling : Option Text}
    (isToken : Scan.IsStringToken (spelling.getD value.quote))
    (read : Text.unescape (spelling.getD value.quote) = .ok value) :
    Restorable ⟨place, .string value spelling⟩ := by
  refine leaf (fun _ _ => by rw [Node.print]; rfl) ?_ fun _ l => denotes_string rfl isToken read l
  generalize spelling.getD value.quote = w at isToken
  cases isToken with
  | @intro quote inside opens _ =>
    refine Text.sign?_of_head rfl ?_
    rcases opens with rfl | rfl <;> decide

theorem unspelledString {value : Text} : Restorable ⟨place, .string value none⟩ :=
  string (Scan.isString_iff.mp (Scan.isString_quote value)) (Text.unescape_quote value)

theorem template {raw : Text} (nonempty : raw ≠ []) (whole : Scan.template raw = raw.length) :
    Restorable ⟨place, .template raw⟩ := by
  refine leaf (w := raw) (fun _ _ => by rw [Node.print]; rfl) ?_ fun _ l =>
    denotes_template nonempty whole l
  obtain ⟨c, more, rfl⟩ := List.exists_cons_of_ne_nil nonempty
  refine Text.sign?_of_head rfl fun mem => ?_
  have other : c ≠ 0x60 := by
    rintro rfl
    exact absurd mem (by decide)
  simp [Scan.template, Scan.quoted, other] at whole

end Leaves

section Operators

variable {place : Place} {operator : Text} {left right argument test consequent alternate : Node}

/-- What the printer and the grammar have to agree on for an operator between operands. -/
def Agrees (action : Action) (operator : Text) : Prop :=
  ∃ e ∈ Terminal.spellings, e.2 = operator ∧
    IsInfix action e.1 (Precedence.level (Precedence.ofOperator operator))
      (Precedence.level (Precedence.ofOperator operator + 1))

instance (action : Action) (operator : Text) : Decidable (Agrees action operator) :=
  inferInstanceAs (Decidable (∃ e ∈ _, _))

theorem agrees_binary : ∀ operator ∈ Operator.binary, Agrees .binary operator := by
  decide +kernel

theorem agrees_logical : ∀ operator ∈ Operator.logical, Agrees .logical operator := by
  decide +kernel

theorem between (form : Text → Node → Node → Form Node) {action : Action}
    (agrees : Agrees action operator)
    (print_eq : ∀ pretty depth, Node.print pretty depth ⟨place, form operator left right⟩ = (do
      let first ← left.print pretty depth
      let second ← right.print pretty depth
      let level := Precedence.ofOperator operator
      return left.operand level first ++ " " ++ operator ++ " " ++
        right.operand (level + 1) second))
    (precedence : Node.precedence ⟨place, form operator left right⟩ =
      Precedence.ofOperator operator)
    (sign : Node.sign? ⟨place, form operator left right⟩ =
      guardedSign? (left.precedence < Precedence.ofOperator operator) left.sign?)
    (apply_eq : ∀ (m₁ m₂ : Node) (t : Token),
      Build.apply action [.node m₁, .token t, .node m₂] = .ok (.node ⟨m₁.place, form t.text m₁ m₂⟩))
    (alike : ∀ m₁ m₂ : Node, m₁.unplaced = left.asRead → m₂.unplaced = right.asRead →
      (form operator m₁ m₂).map Node.unplaced =
        ((form operator left right).map Node.asRead).asRead)
    (hl : left.Restorable) (hr : right.Restorable) :
    Restorable ⟨place, form operator left right⟩ := by
  obtain ⟨⟨k, w⟩, mem, rfl, isInfix⟩ := agrees
  intro pretty depth
  obtain ⟨text, printed, start, denotes⟩ := hl.operand (Precedence.ofOperator w) pretty depth
  obtain ⟨text', printed', -, denotes'⟩ := hr.operand (Precedence.ofOperator w + 1) pretty depth
  rw [sign, precedence, print_eq, printed, printed']
  refine ⟨_, rfl, ?_, fun brace plain =>
    denotes_infix form isInfix mem apply_eq alike (denotes brace plain) (denotes' true nofun)⟩
  rw [← start, List.append_assoc, List.append_assoc, List.append_assoc]
  exact (denotes true nofun).opened.sign?_append _

theorem binary (mem : operator ∈ Operator.binary) (hl : left.Restorable) (hr : right.Restorable) :
    Restorable ⟨place, .binary operator left right⟩ :=
  between .binary (agrees_binary operator mem) (fun _ _ => by rw [Node.print]) rfl
    (by rw [Node.sign?]) (fun _ _ _ => rfl)
    (fun _ _ same same' => by simp [Form.map, Form.asRead, same, same']) hl hr

theorem logical (mem : operator ∈ Operator.logical) (hl : left.Restorable)
    (hr : right.Restorable) : Restorable ⟨place, .logical operator left right⟩ :=
  between .logical (agrees_logical operator mem) (fun _ _ => by rw [Node.print]) rfl
    (by rw [Node.sign?]) (fun _ _ _ => rfl)
    (fun _ _ same same' => by simp [Form.map, Form.asRead, same, same']) hl hr

theorem conditional (ht : test.Restorable) (hc : consequent.Restorable)
    (ha : alternate.Restorable) : Restorable ⟨place, .conditional test consequent alternate⟩ := by
  intro pretty depth
  obtain ⟨text, printed, start, denotes⟩ := ht.operand (Precedence.conditional + 1) pretty depth
  obtain ⟨text', printed', denotes'⟩ := hc.expression pretty depth
  obtain ⟨text'', printed'', denotes''⟩ := ha.expression pretty depth
  rw [Node.print, printed, printed', printed'', Node.sign?]
  refine ⟨_, rfl, ?_, fun brace plain => denotes_conditional (denotes brace plain) denotes' denotes''⟩
  rw [← start, List.append_assoc, List.append_assoc, List.append_assoc]
  exact (denotes true nofun).opened.sign?_append _

theorem assignMark : ∀ operator ∈ Operator.assignment,
    ∃ e ∈ Terminal.spellings, e.2 = operator ∧ e.1 ∈ assignMarks := by
  decide +kernel

theorem assignment (mem : operator ∈ Operator.assignment) (hl : left.Restorable)
    (hr : right.Restorable) : Restorable ⟨place, .assignment operator left right⟩ := by
  obtain ⟨⟨k, w⟩, spelled, rfl, mark⟩ := assignMark operator mem
  intro pretty depth
  obtain ⟨text, printed, start, denotes⟩ := hl.operand Precedence.call pretty depth
  obtain ⟨text', printed', denotes'⟩ := hr.expression pretty depth
  rw [Node.print, printed, printed', Node.sign?]
  refine ⟨_, rfl, ?_, fun brace plain => denotes_assignment mark spelled (denotes brace plain) denotes'⟩
  rw [← start, List.append_assoc, List.append_assoc, List.append_assoc]
  exact (denotes true nofun).opened.sign?_append _

/-- An operator before its operand: it is a word, or a sign that nothing makes longer but an equals
sign and the sign itself. -/
def Leads (operator : Text) : Prop :=
  ∃ e ∈ Terminal.spellings, e.2 = operator ∧ IsLeading .unary e.1 ∧
    operator.head? ≠ some (CodePoint.ofChar '=') ∧ operator.sign? = operator.carrier? ∧
    (Layout.wordOperators.contains operator = true ∨ isMark e = true ∧
      (followers e.2).all (fun d => d = '=' || [d] = e.2) = true)

instance (operator : Text) : Decidable (Leads operator) :=
  inferInstanceAs (Decidable (∃ e ∈ _, _))

theorem leads_unary : ∀ operator ∈ Operator.unary, Leads operator := by
  decide +kernel

/-- The space after a word, and between a sign and an operand that starts with the same sign, is
all that the lexer needs. -/
theorem phrase_unaryText {k : Terminal} {w text : Text} {words : List Word}
    (mem : (k, w) ∈ Terminal.spellings) (sign : w.head? ≠ some (CodePoint.ofChar '='))
    (apart : Layout.wordOperators.contains w = true ∨ isMark (k, w) = true ∧
      (followers w).all (fun d => d = '=' || [d] = w) = true)
    (phrase : Phrase text words) : Phrase (Layout.unaryText w text) (⟨k, w⟩ :: words) := by
  obtain ⟨c, more, rfl, -⟩ := isSpelling_cases (spellings_shape _ mem)
  have sign : c ≠ '=' := fun same => sign (congrArg some same)
  rw [Layout.unaryText]
  split
  · exact phrase.spaced sign mem
  · rename_i tight
    simp only [Bool.or_eq_true, not_or, Bool.not_eq_true] at tight
    obtain ⟨mark, alone⟩ := apart.resolve_left fun word => by
      rw [word] at tight
      cases tight.1
    refine .tight mem mark sign ?_ phrase
    intro d first carries
    obtain ⟨⟨e, others, rfl, -, equals⟩, -⟩ := phrase
    obtain rfl : e = d := Option.some.inj first
    have either := List.all_eq_true.mp alone e carries
    simp only [Bool.or_eq_true, decide_eq_true_eq] at either
    rcases either with same | same
    · exact equals same
    · rw [← same] at tight
      simp [List.isPrefixOf] at tight

theorem unary (mem : operator ∈ Operator.unary) (h : argument.Restorable) :
    Restorable ⟨place, .unary operator argument⟩ := by
  obtain ⟨⟨k, w⟩, spelled, rfl, leading, sign, carrier, apart⟩ := leads_unary operator mem
  intro pretty depth
  obtain ⟨text, printed, -, denotes⟩ := h.operand Precedence.unary pretty depth
  rw [Node.print, printed, Node.sign?]
  refine ⟨_, rfl, ?_, fun brace _ => denotes_leading .unary leading spelled (fun _ _ => rfl)
    (fun m same => by simp [Form.map, Form.asRead, same])
    (fun _ phrase => phrase_unaryText spelled sign apart phrase) (denotes true nofun)⟩
  obtain ⟨c, more, rfl, -⟩ := isSpelling_cases (spellings_shape _ spelled)
  rw [← carrier, Layout.unaryText]
  split <;> rfl

theorem updateMark : ∀ operator ∈ Operator.update,
    ∃ e ∈ closedMarks, e.2 = operator ∧ IsLeading .updateLeading e.1 ∧ IsTrailing e.1 ∧
      operator.head? ≠ some (CodePoint.ofChar '=') ∧ operator.sign? = operator.carrier? := by
  decide +kernel

theorem leadingUpdate (mem : operator ∈ Operator.update) (h : argument.Restorable) :
    Restorable ⟨place, .update operator argument true⟩ := by
  obtain ⟨⟨k, w⟩, closed, rfl, leading, -, sign, carrier⟩ := updateMark operator mem
  obtain ⟨spelled, alone, mark⟩ := closedMarks_spec _ closed
  intro pretty depth
  obtain ⟨text, printed, -, denotes⟩ := h.operand Precedence.unary pretty depth
  obtain ⟨c, more, rfl, -⟩ := isSpelling_cases (spellings_shape _ spelled)
  rw [Node.print, printed, Node.sign?]
  refine ⟨_, rfl, ?_, fun brace _ => denotes_leading (fun w n => .update w n true) leading spelled
    (fun _ _ => rfl) (fun m same => by simp [Form.map, Form.asRead, same]) (fun _ phrase => ?_)
    (denotes true nofun)⟩
  · rw [← carrier]
    rfl
  · refine .tight spelled mark (fun same => sign (congrArg some same)) ?_ phrase
    intro d _ carries
    rw [show followers (c :: more) = [] from alone] at carries
    cases carries

theorem ofOperator_le (operator : Text) : Precedence.ofOperator operator ≤ 14 := by
  have all : ∀ e ∈ Precedence.operators, e.2 ≤ 14 := by decide
  rw [Precedence.ofOperator]
  cases found : Precedence.operators.find? fun e => Text.ofString e.1 = operator with
  | none => decide
  | some e => exact all e (List.mem_of_find?_eq_some found)

theorem precedence_ne_postfixed {n : Node} (h : n.isTrailingUpdate = false) :
    n.precedence ≠ Precedence.postfixed := by
  obtain ⟨place, form⟩ := n
  cases form with
  | binary operator _ _ | logical operator _ _ =>
    exact Nat.ne_of_lt (Nat.lt_of_le_of_lt (ofOperator_le operator) (by decide))
  | update operator argument leading =>
    cases leading with
    | false => cases h
    | true => exact (by decide : Precedence.unary ≠ Precedence.postfixed)
  | _ => simp [Node.precedence, Precedence.assignment, Precedence.conditional, Precedence.unary,
      Precedence.call, Precedence.primary, Precedence.postfixed]

theorem trailingUpdate (mem : operator ∈ Operator.update) (h : argument.Restorable)
    (single : argument.isTrailingUpdate = false) :
    Restorable ⟨place, .update operator argument false⟩ := by
  obtain ⟨⟨k, w⟩, closed, rfl, -, trailing, -⟩ := updateMark operator mem
  -- no other expression binds exactly as tight, so the operand is a call or tighter
  have same : argument.precedence < Precedence.postfixed ↔
      argument.precedence < Precedence.call := by
    have other := precedence_ne_postfixed single
    simp only [Precedence.postfixed, Precedence.call] at other ⊢
    omega
  intro pretty depth
  obtain ⟨text, printed, start, denotes⟩ := h.operand Precedence.call pretty depth
  have framed : argument.operand Precedence.postfixed text =
      argument.operand Precedence.call text := by
    simp only [Node.operand, same]
  rw [Node.print, printed, Node.sign?]
  refine ⟨_, rfl, ?_, fun brace plain => ?_⟩
  · rw [framed, ((denotes true nofun).opened.sign?_append _), start]
    simp only [same]
  · rw [framed]
    exact denotes_trailing trailing closed (denotes brace (by simpa only [same] using plain))

end Operators

section Members

variable {place namePlace : Place} {object property callee : Node} {name : Text}
variable {elements arguments : List Node} {spacious : Bool}

theorem member (h : object.Restorable) (isName : IsName name) :
    Restorable ⟨place, .member object ⟨namePlace, .identifier name⟩ false⟩ := by
  intro pretty depth
  obtain ⟨text, printed, start, denotes⟩ := h.operand Precedence.call pretty depth
  rw [Node.print, printed, Node.print, Node.sign?]
  refine ⟨_, rfl, ?_, fun brace plain => denotes_member isName (denotes brace plain)⟩
  rw [← start, if_neg Bool.false_ne_true, List.append_assoc]
  exact (denotes true nofun).opened.sign?_append _

theorem computed (h : object.Restorable) (h' : property.Restorable) :
    Restorable ⟨place, .member object property true⟩ := by
  intro pretty depth
  obtain ⟨text, printed, start, denotes⟩ := h.operand Precedence.call pretty depth
  obtain ⟨text', printed', -, denotes'⟩ := h' pretty depth
  rw [Node.print, printed, printed', Node.sign?]
  refine ⟨_, rfl, ?_, fun brace plain =>
    denotes_computed (denotes brace plain) ((denotes' true nofun).lift (Nat.zero_le _))⟩
  rw [← start, if_pos rfl, List.append_assoc, List.append_assoc]
  exact (denotes true nofun).opened.sign?_append _

theorem array (each : ∀ n ∈ elements, n.RestoresItem .arrayItem Precedence.assignment) :
    Restorable ⟨place, .arrayExpression elements⟩ := by
  intro pretty depth
  obtain ⟨texts, printed, items⟩ := printAll_items each pretty depth
  rw [Node.print, printed, Node.sign?]
  exact ⟨_, rfl, rfl, fun brace _ => denotes_array items _⟩

/-- What stands behind the callee, on one line or on several. -/
theorem print_call (each : ∀ n ∈ arguments, n.RestoresItem .argument Precedence.assignment)
    (pretty : Bool) (depth : Nat) :
    ∃ inside, Detached inside ∧ Denotes (.nonterminal .arguments) inside (IsList arguments) ∧
      ∀ text, callee.print pretty depth = .ok text →
        Node.print pretty depth ⟨place, .call callee arguments spacious⟩ =
          .ok (callee.operand Precedence.call text ++ inside) := by
  by_cases wide : (pretty && spacious && !arguments.isEmpty) = true
  · obtain ⟨texts, printedAll, items⟩ := printAll_items each pretty (depth + 1)
    refine ⟨Layout.lines "(" "," ")" depth texts, .of_closes (by decide),
      denotes_argumentLines items depth, fun text printed => ?_⟩
    rw [Node.print, printed]
    simp only [bind, Except.bind, wide, if_true, printedAll]
    rfl
  · obtain ⟨texts, printedAll, items⟩ := printAll_items each pretty depth
    refine ⟨"(" ++ (Layout.commas texts ++ ")"), .of_closes (by decide), denotes_arguments items,
      fun text printed => ?_⟩
    rw [Node.print, printed]
    simp only [bind, Except.bind, wide, printedAll, ← List.append_assoc]
    rfl

theorem call (h : callee.Restorable)
    (each : ∀ n ∈ arguments, n.RestoresItem .argument Precedence.assignment) :
    Restorable ⟨place, .call callee arguments spacious⟩ := by
  intro pretty depth
  obtain ⟨text, printed, start, denotes⟩ := h.operand Precedence.call pretty depth
  obtain ⟨inside, detached, others, print_eq⟩ := print_call each pretty depth
  refine ⟨_, print_eq text printed, ?_, fun brace plain =>
    denotes_call (denotes brace (by rwa [Node.sign?] at plain)) detached others⟩
  rw [Node.sign?, ← start]
  exact (denotes true nofun).opened.sign?_append _

/-- What `new` is applied to is printed as it stands and read as such. -/
theorem dottedName (h : DottedName callee) (pretty : Bool) (depth : Nat) :
    (callee.isCall || callee.precedence < Precedence.call) = false ∧
      ∃ text, callee.print pretty depth = .ok text ∧
        Denotes (.nonterminal .newCallee) text (IsNode callee) := by
  induction h with
  | @identifier place name free =>
    rw [Node.print]
    exact ⟨rfl, name, rfl, denotes_newCallee_name free⟩
  | this =>
    rw [Node.print]
    exact ⟨rfl, _, rfl, denotes_newCallee_this⟩
  | @member place namePlace object name _ isName ih =>
    obtain ⟨bare, text, printed, denotes⟩ := ih
    have tight : object.operand Precedence.call text = text := by
      simp only [Bool.or_eq_false_iff, decide_eq_false_iff_not] at bare
      simp [Node.operand, Layout.parenthesize, bare.2]
    rw [Node.print, printed, Node.print]
    refine ⟨rfl, text ++ "." ++ name, ?_,
      denotes_dotted (i := 2) (by decide) rfl rfl isName denotes⟩
    simp [bind, Except.bind, pure, Except.pure, tight]

theorem new (h : DottedName callee)
    (each : ∀ n ∈ arguments, n.RestoresItem .argument Precedence.assignment) :
    Restorable ⟨place, .new callee arguments⟩ := by
  intro pretty depth
  obtain ⟨bare, text, printed, denotes⟩ := dottedName h pretty depth
  obtain ⟨texts, printedAll, items⟩ := printAll_items each pretty depth
  rw [Node.print, printed, printedAll]
  refine ⟨"new " ++ text ++ "(" ++ Layout.commas texts ++ ")", ?_, ?_, fun brace _ =>
    denotes_new denotes items _⟩
  swap
  · simp [Node.sign?]
    rfl
  simp only [bind, Except.bind, pure, Except.pure, bare, Layout.parenthesize, Bool.false_eq_true,
    if_false]

end Members

end Node.Restorable

namespace Node

theorem declares_of_isDeclarationLike {n : Node} (h : n.isDeclarationLike = false) :
    n.declares = false := by
  obtain ⟨place, form⟩ := n
  cases form <;> first | rfl | cases h

/-- A statement that is read back evaluates what is read back. -/
theorem expressionStatement_of_asRead {m n : Node} {place : Place}
    (same : m.unplaced = asRead ⟨place, .expressionStatement n⟩) :
    ∃ q k, m = ⟨q, .expressionStatement k⟩ ∧ k.unplaced = n.asRead := by
  obtain ⟨q, form⟩ := m
  rw [unplaced_mk, asRead_mk, plain, plain, Node.mk.injEq] at same
  cases form <;> simp only [Form.map, Form.asRead, reduceCtorEq, and_false, true_and,
    Form.expressionStatement.injEq] at same
  exact ⟨q, _, rfl, same⟩

end Node

namespace PlainExpression

variable {n : Node}

theorem restorable (h : PlainExpression n) : n.Restorable := by
  induction h with
  | identifier free => exact .identifier free
  | this => exact .this
  | boolean => exact .boolean
  | null => exact .null
  | number nonempty whole read => exact .number nonempty whole read
  | string => exact .unspelledString
  | array _ ih => exact .array fun n mem => (ih n mem).item (by decide) rfl rfl
  | unary mem _ ih => exact .unary mem ih
  | leadingUpdate mem _ ih => exact .leadingUpdate mem ih
  | trailingUpdate mem _ single ih => exact .trailingUpdate mem ih single
  | binary mem _ _ left right => exact .binary mem left right
  | logical mem _ _ left right => exact .logical mem left right
  | conditional _ _ _ test consequent alternate => exact .conditional test consequent alternate
  | assignment mem _ _ left right => exact .assignment mem left right
  | member _ isName ih => exact .member ih isName
  | computed _ _ object property => exact .computed object property
  | call _ _ callee arguments => exact .call callee fun n mem => (arguments n mem).item (by decide) rfl rfl
  | new callee _ ih => exact .new callee fun n mem => (ih n mem).item (by decide) rfl rfl

theorem not_declarationLike (h : PlainExpression n) :
    n.startsLikeDeclaration = false ∧ n.isDeclarationLike = false := by
  induction h with
  | trailingUpdate _ _ _ ih => exact ⟨ih.1, rfl⟩
  | binary _ _ _ ih _ => exact ⟨ih.1, rfl⟩
  | logical _ _ _ ih _ => exact ⟨ih.1, rfl⟩
  | conditional _ _ _ ih _ _ => exact ⟨ih.1, rfl⟩
  | assignment _ _ _ ih _ => exact ⟨ih.1, rfl⟩
  | member _ _ ih => exact ⟨ih.1, rfl⟩
  | computed _ _ ih _ => exact ⟨ih.1, rfl⟩
  | call _ _ ih _ => exact ⟨ih.1, rfl⟩
  | _ => exact ⟨rfl, rfl⟩

end PlainExpression

/-- A text that denotes statements is parsed as a program of them. -/
theorem parse_of_denotes {Next : Terminal → Prop} {ns : List Node} {text : Text}
    (denotes : DenotesBefore Next (.nonterminal .statements) text (AreNodes ns)) (finished : Next .finish)
    (name : Text) :
    ∃ p body, Grammar.parse (text ++ "\n") name = .ok ⟨p, .program body⟩ ∧
      body.map Node.unplaced = ns.map Node.asRead := by
  obtain ⟨words, phrase, means⟩ := denotes
  have spells : Spells (text ++ "\n") words := by
    have all := phrase.spelt "\n" [] (.of_closes _ (by decide)) (.space rfl .done)
    rwa [List.append_nil] at all
  obtain ⟨tokens, same, holds⟩ := spells.holds {}
  have short : tokens.length ≤ (text ++ "\n").length := by
    rw [← List.length_map, same]
    exact spells.length_le
  obtain ⟨value, derives, nodes⟩ := means.yields tokens same
  have free : ∀ t ∈ tokens.head?, ¬ t.word.IsReserved := fun t first =>
    means.free t.word (by rw [← same, List.head?_map, Option.mem_def.mp first]; rfl)
  rw [Grammar.parse, parseTree_of_derives holds short free finished derives]
  by_cases anonymous : name.isEmpty = true
  · refine ⟨{}, Part.compact value, ?_, nodes.compact⟩
    rw [Except.map, if_pos anonymous]
    rfl
  · refine ⟨{ file := some name }, (Part.compact value).map (Node.inFile name), ?_, ?_⟩
    · rw [Except.map, if_neg anonymous, Node.plain, Node.inFile, Node.fold_mk]
      rfl
    · rw [← nodes.compact, List.map_map]
      exact List.map_congr_left fun m _ => Node.unplaced_inFile name m

/-- Printing a program of one plain expression gives a text that is parsed as a program of one
statement again: the same expression, apart from places, the layout of calls and the spelling of
strings. -/
theorem parse_print_plainExpression {n : Node} (h : PlainExpression n) (pretty : Bool) (name : Text)
    (programPlace statementPlace : Place) :
    ∃ text,
      Node.print pretty 0 ⟨programPlace, .program [⟨statementPlace, .expressionStatement n⟩]⟩ =
        .ok text ∧
      ∃ p q m, Grammar.parse text name = .ok ⟨p, .program [⟨q, .expressionStatement m⟩]⟩ ∧
        m.erase = n.erase := by
  obtain ⟨text, printed, sign, denotes⟩ := h.restorable pretty 0
  obtain ⟨starts, declaration⟩ := h.not_declarationLike
  have statement : Denotes (.nonterminal .statement) (text ++ ";")
      (IsNode ⟨statementPlace, .expressionStatement n⟩) := denotes_expressionStatement
    (Node.declares_of_isDeclarationLike declaration)
    ((denotes false fun _ => Node.sign?_of_startsLikeDeclaration starts).lift (Nat.zero_le _))
  have statements : Denotes (.nonterminal .statements) (text ++ ";")
      (AreNodes [⟨statementPlace, .expressionStatement n⟩]) :=
    DenotesBefore.mono (Denotes.pass (i := 0) (by decide) rfl rfl statement) fun _ => IsNode.areNodes
  obtain ⟨p, body, parsed, same⟩ := parse_of_denotes statements trivial name
  refine ⟨text ++ ";" ++ "\n", ?_, ?_⟩
  · rw [Node.print, Node.printAll, Node.printAll, Node.print, printed]
    simp [bind, Except.bind, pure, Except.pure, Layout.parenthesize, starts, Node.operand]
  · obtain ⟨m, rfl, same⟩ := List.map_eq_singleton_iff.mp same
    obtain ⟨q, k, rfl, alike⟩ := Node.expressionStatement_of_asRead (by simpa using same)
    exact ⟨p, q, k, parsed, Node.erase_of_asRead alike⟩

/-- The text is `a - (b - - -c);`, in which the parentheses and the spaces are all needed. -/
theorem parse_print_plainExpression_differences :
    let negated : Node := .plain (.unary "-" (.plain (.unary "-" (.plain (.identifier "c")))))
    let inner : Node := .plain (.binary "-" (.plain (.identifier "b")) negated)
    let outer : Node := .plain (.binary "-" (.plain (.identifier "a")) inner)
    ∃ text, Node.print true 0 (.plain (.program [.plain (.expressionStatement outer)])) = .ok text ∧
      ∃ p q m, Grammar.parse text [] = .ok ⟨p, .program [⟨q, .expressionStatement m⟩]⟩ ∧
        m.erase = outer.erase := by
  have minus : Text.ofString "-" ∈ Operator.unary ∧ Text.ofString "-" ∈ Operator.binary := by
    decide
  have negated : PlainExpression
      (.plain (.unary "-" (.plain (.unary "-" (.plain (.identifier "c")))))) :=
    .unary minus.1 (.unary minus.1 (.identifier (by decide +kernel)))
  exact parse_print_plainExpression
    (.binary minus.2 (.identifier (by decide +kernel))
      (.binary minus.2 (.identifier (by decide +kernel)) negated)) true [] {} {}

end Hyperscript
