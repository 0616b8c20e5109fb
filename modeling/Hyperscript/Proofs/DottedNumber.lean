import Hyperscript.Proofs.LoweredExpression

/-!
# Numbers in front of a point

To a reader of scripts, the point behind a decimal integer is a part of the number. A member of a
number is printed as the number, the point and the name, in this order and with nothing between them,
so that an integer takes the point away. The object of a dotted member that is no number never ends
with one.
-/
namespace Hyperscript

namespace Script

open Grammar.Scan (run hexadecimal)

/-- Several digits that are an octal number, by the zero in front. -/
def isOctal (digits : Text) : Bool :=
  digits.head? = some (CodePoint.ofChar '0') && digits.length ≠ 1 &&
    digits.all fun c => '0' ≤ c && c ≤ '7'

/-- A point and the digits behind it, of which there may be none. -/
def fraction (t : Text) : Nat :=
  if t.head? = some (CodePoint.ofChar '.') then run CodePoint.isDigit t.tail + 1 else 0

/-- An exponent mark, perhaps a sign, and at least one digit. -/
def exponent (t : Text) : Nat :=
  if t.head?.any (fun (c : CodePoint) => c = 'e' || c = 'E') then
    let sign := if t.tail.head?.any (fun (c : CodePoint) => c = '+' || c = '-') then 1 else 0
    let digits := run CodePoint.isDigit (t.drop (sign + 1))
    if digits = 0 then 0 else digits + sign + 1
  else 0

/-- How much of a text that starts with a digit a reader of scripts takes for a number. -/
def number (t : Text) : Nat :=
  if hexadecimal t = 0 then
    let whole := run CodePoint.isDigit t
    if whole = 0 || isOctal (t.take whole) then whole
    else
      let upToFraction := whole + fraction (t.drop whole)
      upToFraction + exponent (t.drop upToFraction)
  else hexadecimal t

/-- The text is a decimal integer. -/
def IsInteger (t : Text) : Prop := t ≠ [] ∧ (t.all CodePoint.isDigit) = true ∧ isOctal t = false

instance (t : Text) : Decidable (IsInteger t) := inferInstanceAs (Decidable (_ ∧ _))

section Point

variable (t rest : Text)

/-- A run of other code points ends at a point. -/
theorem run_point {p : CodePoint → Bool} (stop : p (CodePoint.ofChar '.') = false) :
    run p (t ++ CodePoint.ofChar '.' :: rest) = run p t := by
  refine Grammar.Scan.run_append ?_ t
  rintro c ⟨⟩
  exact stop

theorem fraction_point_le (some : t ≠ []) :
    fraction (t ++ CodePoint.ofChar '.' :: rest) ≤ t.length := by
  obtain ⟨c, t, rfl⟩ := List.exists_cons_of_ne_nil some
  rw [List.cons_append, fraction, List.tail_cons, run_point t rest rfl]
  have digits := Grammar.Scan.run_le_length CodePoint.isDigit t
  rw [List.length_cons]
  split <;> omega

theorem exponent_cons_cons (c d : CodePoint) (t : Text) :
    exponent (c :: d :: t) =
      if c = 'e' ∨ c = 'E' then
        if d = '+' ∨ d = '-' then if run CodePoint.isDigit t = 0 then 0
          else run CodePoint.isDigit t + 2
        else if run CodePoint.isDigit (d :: t) = 0 then 0
          else run CodePoint.isDigit (d :: t) + 1
      else 0 := by
  by_cases sign : d = '+' ∨ d = '-' <;> simp [exponent, sign]

theorem exponent_point_le : exponent (t ++ CodePoint.ofChar '.' :: rest) ≤ t.length := by
  match t with
  | [] => exact Nat.le_refl 0
  | [c] =>
    have sign : ¬ (CodePoint.ofChar '.' = '+' ∨ CodePoint.ofChar '.' = '-') := by decide
    have digits : run CodePoint.isDigit (CodePoint.ofChar '.' :: rest) = 0 := rfl
    rw [List.singleton_append, exponent_cons_cons, if_neg sign, if_pos digits, ite_self]
    exact Nat.zero_le _
  | c :: d :: t =>
    have signed := Grammar.Scan.run_le_length CodePoint.isDigit t
    have plain := Grammar.Scan.run_le_length CodePoint.isDigit (d :: t)
    have whole := run_point (d :: t) rest (p := CodePoint.isDigit) rfl
    rw [List.cons_append] at whole
    rw [List.cons_append, List.cons_append, exponent_cons_cons, run_point t rest rfl, whole,
      List.length_cons, List.length_cons]
    rw [List.length_cons] at plain
    split <;> (try split) <;> (try split) <;> omega

theorem hexadecimal_point_le : hexadecimal (t ++ CodePoint.ofChar '.' :: rest) ≤ t.length := by
  match t with
  | [] =>
    cases rest with
    | nil => exact Nat.le_of_eq (Grammar.Scan.hexadecimal_singleton _)
    | cons d rest =>
      rw [List.nil_append, Grammar.Scan.hexadecimal_cons_cons, if_neg]
      · exact Nat.zero_le _
      · exact fun h => absurd h.1 (by decide)
  | [c] =>
    rw [List.singleton_append, Grammar.Scan.hexadecimal_cons_cons, if_neg]
    · exact Nat.zero_le _
    · exact fun h => absurd h.2 (by decide)
  | c :: d :: t =>
    have digits := Grammar.Scan.run_le_length CodePoint.isHexDigit t
    rw [List.cons_append, List.cons_append, Grammar.Scan.hexadecimal_cons_cons,
      run_point t rest rfl, List.length_cons, List.length_cons]
    split <;> (try split) <;> omega

/-- Digits alone are no hexadecimal number. -/
theorem hexadecimal_point_of_digits (digits : t.all CodePoint.isDigit = true) :
    hexadecimal (t ++ CodePoint.ofChar '.' :: rest) = 0 := by
  match t with
  | [] => exact Nat.le_zero.mp (hexadecimal_point_le [] rest)
  | [c] =>
    rw [List.singleton_append, Grammar.Scan.hexadecimal_cons_cons, if_neg]
    exact fun h => absurd h.2 (by decide)
  | c :: d :: t =>
    rw [List.cons_append, List.cons_append, Grammar.Scan.hexadecimal_cons_cons, if_neg]
    have digit := List.all_eq_true.mp digits d (by simp)
    rintro ⟨-, rfl | rfl⟩ <;> exact absurd digit (by decide)

theorem run_eq_length_iff {p : CodePoint → Bool} : run p t = t.length ↔ t.all p = true := by
  induction t with
  | nil => exact ⟨fun _ => rfl, fun _ => rfl⟩
  | cons c t ih =>
    cases own : p c with
    | false => simp [run, own]
    | true => simpa [run, own] using ih

/-- A point is taken for a part of the number in front of it exactly if that is a decimal integer. -/
theorem length_lt_number_iff : t.length < number (t ++ CodePoint.ofChar '.' :: rest) ↔ IsInteger t := by
  have digits := run_point t rest (p := CodePoint.isDigit) rfl
  constructor
  · intro long
    by_contra other
    refine absurd long (Nat.not_lt.mpr ?_)
    rw [number]
    split
    · dsimp only
      rw [digits]
      have short := Grammar.Scan.run_le_length CodePoint.isDigit t
      split
      · exact short
      · rename_i number
        simp only [List.take_append_of_le_length short, Bool.or_eq_true, decide_eq_true_eq,
          not_or, Bool.not_eq_true] at number
        have goesOn : t.drop (run CodePoint.isDigit t) ≠ [] := by
          intro none
          have whole := Nat.le_antisymm short (List.drop_eq_nil_iff.mp none)
          rw [whole, List.take_length] at number
          exact other ⟨fun empty => number.1 (by rw [empty]; rfl), (run_eq_length_iff t).mp whole,
            number.2⟩
        have point := fraction_point_le _ rest goesOn
        rw [List.length_drop] at point
        rw [List.drop_append_of_le_length short]
        generalize fraction (t.drop _ ++ _) = behind at point
        have power := exponent_point_le (t.drop (run CodePoint.isDigit t + behind)) rest
        rw [List.length_drop] at power
        rw [List.drop_append_of_le_length (by omega)]
        omega
    · exact hexadecimal_point_le t rest
  · rintro ⟨some, all, decimal⟩
    have whole := (run_eq_length_iff t).mpr all
    have positive : t.length ≠ 0 := fun none => some (List.length_eq_zero_iff.mp none)
    rw [number, if_pos (hexadecimal_point_of_digits t rest all)]
    dsimp only
    rw [digits, whole, List.take_left, List.drop_left, decimal, Bool.or_false,
      if_neg (by simpa using some)]
    rw [fraction, if_pos (by rfl)]
    omega

end Point

example : number "1.5.x" = 3 ∧ number "1.x" = 2 ∧ number "1..x" = 2 ∧ number "07.x" = 2 := by
  decide

end Script

namespace Text

/-- The text ends with no digit, or with a name that stands alone or behind a point. -/
def EndsApart (t : Text) : Prop :=
  (∃ before c, t = before ++ [c] ∧ c.isDigit = false) ∨
    ∃ before w, t = before ++ w ∧ Grammar.IsName w ∧
      (before = [] ∨ ∃ more, before = more ++ [CodePoint.ofChar '.'])

theorem endsApart_append {w : Text} (h : w.getLast?.any (fun c => !c.isDigit) = true)
    (before : Text) : (before ++ w).EndsApart := by
  obtain ⟨c, last, digit⟩ := (Option.any_eq_true _ _).mp h
  obtain ⟨more, rfl⟩ := List.getLast?_eq_some_iff.mp last
  exact .inl ⟨before ++ more, c, (List.append_assoc ..).symm, by simpa using digit⟩

theorem endsApart_of_isEnclosed {t : Text} (h : Grammar.IsEnclosed t) : t.EndsApart := by
  obtain ⟨quote, known, inside, rfl⟩ := h
  have each : (Grammar.quotes.all fun c => !c.isDigit) = true := by decide
  have digit := List.all_eq_true.mp each quote known
  exact .inl ⟨quote :: inside, quote, rfl, by simpa using digit⟩

end Text

namespace Node

open Layout

variable {n : Node} {pretty : Bool} {depth : Nat} {text : Text}

/-- A body ends with its brace. -/
theorem print_body (body : n.isBlock = true ∨ n.isClassBody = true)
    (printed : n.print pretty depth = .ok text) : ∃ before, text = before ++ "\x7d" := by
  obtain ⟨place, form⟩ := n
  cases form <;> simp only [isBlock, isClassBody, Bool.false_eq_true, or_self] at body
  all_goals
    rw [print] at printed
    obtain ⟨items, -, printed⟩ := Grammar.ok_of_bind printed
    cases printed
    split
    · exact ⟨"\x7b", rfl⟩
    · exact ⟨_, rfl⟩

/-- What stands before a point, and is no number, does not end with one. -/
theorem endsApart_operand (own : n.IsOperand)
    (number : ∀ value spelling, n.form ≠ .number value spelling)
    (printed : n.print pretty depth = .ok text) : (n.operand Precedence.call text).EndsApart := by
  by_cases loose : n.precedence < Precedence.call
  · rw [operand, decide_eq_true loose, parenthesize, if_pos rfl]
    exact Text.endsApart_append (by decide) _
  · rw [operand, decide_eq_false loose, parenthesize, if_neg Bool.false_ne_true]
    have ends (w before : Text) (h : w.getLast?.any (fun c => !c.isDigit) = true) :
        (before ++ w).EndsApart := Text.endsApart_append h before
    obtain ⟨expression, names⟩ := own
    obtain ⟨place, form⟩ := n
    cases form <;> (try exact absurd expression id)
    case identifier name =>
      rw [print] at printed
      cases printed
      exact .inr ⟨[], text, rfl, names text rfl, .inl rfl⟩
    case this =>
      rw [print] at printed
      cases printed
      exact ends "this" [] (by decide)
    case null =>
      rw [print] at printed
      cases printed
      exact ends "null" [] (by decide)
    case boolean value =>
      rw [print] at printed
      cases printed
      cases value
      · exact ends "false" [] (by decide)
      · exact ends "true" [] (by decide)
    case number value spelling => exact absurd rfl (number value spelling)
    case string =>
      obtain ⟨spelled, rfl, enclosed⟩ := expression
      rw [print] at printed
      cases printed
      exact Text.endsApart_of_isEnclosed enclosed
    case template =>
      rw [print] at printed
      cases printed
      exact Text.endsApart_of_isEnclosed expression
    case arrayExpression =>
      rw [print] at printed
      obtain ⟨items, -, printed⟩ := Grammar.ok_of_bind printed
      cases printed
      exact ends "]" _ (by decide)
    case objectExpression =>
      rw [print] at printed
      obtain ⟨items, -, printed⟩ := Grammar.ok_of_bind printed
      split at printed
      · cases printed
        exact ends "\x7b\x7d" [] (by decide)
      · dsimp only at printed
        split at printed
        · obtain ⟨members, -, printed⟩ := Grammar.ok_of_bind printed
          cases printed
          exact ends "\x7d" _ (by decide)
        · cases printed
          exact ends " \x7d" _ (by decide)
    case functionExpression id params body =>
      rw [print] at printed
      obtain ⟨items, -, printed⟩ := Grammar.ok_of_bind printed
      obtain ⟨block, own, printed⟩ := Grammar.ok_of_bind printed
      cases printed
      obtain ⟨before, rfl⟩ := print_body (.inl expression) own
      rw [functionText, ← List.append_assoc]
      exact ends "\x7d" _ (by decide)
    case classExpression id superClass body decorators =>
      rw [print] at printed
      obtain ⟨above, -, printed⟩ := Grammar.ok_of_bind printed
      obtain ⟨parent, -, printed⟩ := Grammar.ok_of_bind printed
      obtain ⟨members, own, printed⟩ := Grammar.ok_of_bind printed
      cases printed
      obtain ⟨before, rfl⟩ := print_body (.inr expression.1) own
      simp only [classText, ← List.append_assoc]
      exact ends "\x7d" _ (by decide)
    case member object property computed =>
      rw [print] at printed
      obtain ⟨left, -, printed⟩ := Grammar.ok_of_bind printed
      obtain ⟨right, other, printed⟩ := Grammar.ok_of_bind printed
      cases computed <;> cases printed
      · obtain ⟨name, named, isName⟩ := expression rfl
        have form := form_of_identifierName? named
        obtain ⟨_, _⟩ := property
        cases form
        rw [print] at other
        cases other
        exact .inr ⟨_, right, rfl, isName, .inr ⟨_, rfl⟩⟩
      · exact ends "]" _ (by decide)
    case call =>
      rw [print] at printed
      obtain ⟨callee, -, printed⟩ := Grammar.ok_of_bind printed
      split at printed
      · obtain ⟨items, -, printed⟩ := Grammar.ok_of_bind printed
        cases printed
        rw [lines, ← List.append_assoc]
        exact ends ")" _ (by decide)
      · obtain ⟨items, -, printed⟩ := Grammar.ok_of_bind printed
        cases printed
        exact ends ")" _ (by decide)
    case new =>
      rw [print] at printed
      obtain ⟨callee, -, printed⟩ := Grammar.ok_of_bind printed
      obtain ⟨items, -, printed⟩ := Grammar.ok_of_bind printed
      cases printed
      exact ends ")" _ (by decide)
    case jsxElement =>
      rw [print_unprintable rfl] at printed
      cases printed
    case binary operator left right | logical operator left right =>
      have bound := (Precedence.ofOperator_bounds operator).2
      exact absurd (Nat.lt_of_le_of_lt bound (by decide)) loose
    case update operator argument leading =>
      cases leading <;> exact absurd (Nat.le_of_ble_eq_true rfl) loose
    all_goals exact absurd (Nat.le_of_ble_eq_true rfl) loose

/-- Whatever is in a tree with roles has one. -/
theorem Fits.of_mem_walk {Literal : Node → Prop} {markup : Markup} {r : Role}
    (h : n.Fits Literal markup r) : ∀ m ∈ n.walk, ∃ s, m.Fits Literal markup s := by
  induction h with
  | @intro r place form plays keeps parts ih =>
    refine (forall_mem_walk_iff _).mpr ⟨⟨r, .intro plays keeps parts⟩, ?_⟩
    intro c hc
    obtain ⟨part, member, rfl⟩ := (Form.mem_children_iff r).mp hc
    exact ih part member

/-- A member stands for code, wherever it is. -/
theorem Fits.of_member {Literal : Node → Prop} {markup : Markup} {r : Role} {object property : Node}
    {computed : Bool} (member : n.form = .member object property computed)
    (h : n.Fits Literal markup r) : n.Fits Literal markup .code := by
  obtain ⟨place, form⟩ := n
  cases member
  rw [fits_mk] at h ⊢
  exact ⟨rfl, fun _ => trivial, h.2.2⟩

/-- A dotted member is its object, a point and its name. -/
theorem print_dotted {place : Place} {object property : Node} {name : Text}
    (named : property.identifierName? = some name)
    (printed : print pretty depth ⟨place, .member object property false⟩ = .ok text) :
    ∃ left, object.print pretty depth = .ok left ∧
      text = object.operand Precedence.call left ++ "." ++ name := by
  have form := form_of_identifierName? named
  obtain ⟨_, _⟩ := property
  cases form
  rw [print] at printed
  obtain ⟨left, own, printed⟩ := Grammar.ok_of_bind printed
  obtain ⟨right, other, printed⟩ := Grammar.ok_of_bind printed
  rw [print] at other
  cases other
  cases printed
  exact ⟨left, own, rfl⟩

end Node

namespace Lowering

variable {source name : Text} {program : Node}

/-- What a member of a parsed program becomes can be printed. -/
theorem print_image_member (parsed : Grammar.parse source name = .ok program)
    (plain : ∀ n ∈ program.walk, n.isNamespacedName = false) (config : Config) (helper : Text)
    {k : Node} (hk : k ∈ program.walk) {object property : Node} {computed : Bool}
    (member : k.form = .member object property computed) (pretty : Bool) (depth : Nat) :
    ∃ text, (image config helper k).print pretty depth = .ok text := by
  obtain ⟨s, own⟩ := (Grammar.parse_fits parsed).of_mem_walk k hk
  have fits := ((own.of_member member).plain fun n hn => plain n (Node.mem_walk_trans hn hk))
  have code := (fits.bound config).pureLowering config helper
  exact Node.print_succeeds (fun m hm => (code.forall_isCode (.inl rfl) m hm).1) depth

/-- Of the dotted members of a program, the point is taken for a part of a number exactly behind a
decimal integer: the object of every other is a number that ends before the point, or does not end
with a number at all. -/
theorem dotted_member_splits_iff (parsed : Grammar.parse source name = .ok program)
    (plain : ∀ n ∈ program.walk, n.isNamespacedName = false) (config : Config) (helper : Text)
    (pretty : Bool) (depth : Nat) :
    ∀ k ∈ program.walk, ∀ object property, k.form = .member object property false →
      ∃ base word : Text, Grammar.IsName word ∧
        (image config helper k).print pretty depth = .ok (base ++ "." ++ word) ∧
        (∀ value spelling, object.form = .number value spelling → spelling = some base ∧
          (base.length < Script.number (base ++ "." ++ word) ↔ Script.IsInteger base)) ∧
        ((∀ value spelling, object.form ≠ .number value spelling) → base.EndsApart) := by
  intro k hk object property member
  have suits := Grammar.parse_suited parsed k hk
  rw [member] at suits
  obtain ⟨operand, word, named, isName⟩ := suits rfl
  obtain ⟨text, printed⟩ := print_image_member parsed plain config helper hk member pretty depth
  have form : (image config helper k).form =
      .member (image config helper object) (image config helper property) false := by
    rw [form_image (by rw [Method.ofNode?, member]) (by rw [Node.isElement, member]), member]
    rfl
  have named' := ((keepsLayers_image config helper).name property).trans named
  generalize image config helper k = m at form printed ⊢
  obtain ⟨place, own⟩ := m
  cases form
  obtain ⟨left, first, rfl⟩ := Node.print_dotted named' printed
  refine ⟨_, word, isName, printed, ?_, ?_⟩
  · intro value spelling number
    obtain ⟨spelled, rfl, -⟩ : ∃ t, spelling = some t ∧ Grammar.IsNumber t := by
      have own := operand.1
      rwa [number] at own
    have same : (image config helper object).form = .number value (some spelled) := by
      rw [form_image (by rw [Method.ofNode?, number]) (by rw [Node.isElement, number]), number]
      rfl
    generalize image config helper object = o at same first ⊢
    obtain ⟨place, own⟩ := o
    cases same
    rw [Node.print] at first
    cases first
    refine ⟨rfl, ?_⟩
    rw [List.append_assoc]
    exact Script.length_lt_number_iff spelled word
  · intro other
    refine Node.endsApart_operand (isOperand_image operand) ?_ first
    intro value spelling number
    cases element : object.isElement with
    | true =>
      obtain ⟨arguments, pretty, same⟩ : ∃ arguments pretty, image config helper object = _ :=
        image_element element
      rw [same] at number
      cases number
    | false =>
      rw [(keepsLayers_image config helper).layer object operand.1 element] at number
      obtain ⟨_, own⟩ := object
      cases own <;> cases number
      exact other _ _ rfl

/-- The spelling of the number that a dotted member has for its object. -/
def dottedNumber? (m : Node) : Option Text :=
  match m.form with
  | .member ⟨_, .number _ spelling⟩ _ false => spelling
  | _ => none

theorem form_of_dottedNumber? {m : Node} {spelling : Text} (h : dottedNumber? m = some spelling) :
    ∃ object property value, m.form = .member object property false ∧
      object.form = .number value (some spelling) := by
  rw [dottedNumber?] at h
  split at h
  · rename_i form
    cases h
    exact ⟨_, _, _, form, rfl⟩
  · cases h

/-- A member of a number with a fraction. -/
def fractionSource : Text := "1.5.toFixed()"

theorem dotted_member_splits_iff_fraction :
    ∃ (program k object property : Node) (base word : Text),
      Grammar.parse fractionSource [] = .ok program ∧ k ∈ program.walk ∧
      k.form = .member object property false ∧ base = "1.5" ∧
      (image {} [] k).print false 0 = .ok (base ++ "." ++ word) ∧
      Script.number (base ++ "." ++ word) ≤ base.length := by
  have checked : ((Grammar.parse fractionSource []).toOption.any fun program =>
      program.walk.all (!·.isNamespacedName) &&
      program.walk.any fun k => decide (dottedNumber? k = some (Text.ofString "1.5"))) = true := by
    decide +kernel
  obtain ⟨program, parsed, checked⟩ := Grammar.ok_of_any checked
  simp only [Bool.and_eq_true, List.all_eq_true, Bool.not_eq_true', List.any_eq_true,
    decide_eq_true_eq] at checked
  obtain ⟨plain, k, hk, dotted⟩ := checked
  obtain ⟨object, property, value, member, number⟩ := form_of_dottedNumber? dotted
  obtain ⟨base, word, -, printed, numbers, -⟩ :=
    dotted_member_splits_iff parsed plain {} [] false 0 k hk object property member
  obtain ⟨same, split⟩ := numbers value _ number
  cases same
  exact ⟨program, k, object, property, _, word, parsed, hk, member, rfl, printed,
    Nat.not_lt.mp fun absorbed => absurd (split.mp absorbed) (by decide +kernel)⟩

/-- A member of an integer, legal by the parentheses only. -/
def integerSource : Text := "(1).toFixed()"

/-- The integer is printed without them, and takes the point away. -/
theorem dotted_member_absorbed :
    ∃ (program : Node) (lowered : Lowered) (next : Lowerer) (m object property : Node)
      (value : Number),
      Grammar.parse integerSource [] = .ok program ∧
      (Lowerer.new {} { verbose := false }).lower program = .ok (lowered, next) ∧
      m ∈ lowered.program.walk ∧ m.form = .member object property false ∧
      object.form = .number value (some (Text.ofString "1")) ∧
      m.print false 0 = .ok "1.toFixed" ∧ Script.number "1.toFixed" = (Text.ofString "1.").length := by
  let l := Lowerer.new {} { verbose := false }
  have checked : ((Grammar.parse integerSource []).toOption.any fun program =>
      (l.lower program).toOption.any fun (lowered, _) =>
        lowered.program.walk.any fun m =>
          decide (dottedNumber? m = some (Text.ofString "1")) &&
          decide (m.print false 0 = .ok "1.toFixed")) = true := by
    decide +kernel
  obtain ⟨program, parsed, checked⟩ := Grammar.ok_of_any checked
  obtain ⟨⟨lowered, next⟩, result, checked⟩ := Grammar.ok_of_any checked
  obtain ⟨m, hm, checked⟩ := List.any_eq_true.mp checked
  simp only [Bool.and_eq_true, decide_eq_true_eq] at checked
  obtain ⟨dotted, printed⟩ := checked
  obtain ⟨object, property, value, member, number⟩ := form_of_dottedNumber? dotted
  exact ⟨program, lowered, next, m, object, property, value, parsed, result, hm, member, number,
    printed, by decide +kernel⟩

end Lowering

end Hyperscript
