import Hyperscript.Proofs.RoundTrip

/-!
# Objects, functions and classes are read back

What the printer makes of an object, a function, a class, a binding or a part of one denotes it
again, if what it makes of the parts does.
-/
namespace Hyperscript.Node

open Grammar

variable {place keyPlace namePlace valuePlace : Place} {n key value body target fallback argument : Node}
variable {params properties elements decorators : List Node} {id superClass : Option Node}
variable {name raw : Text} {computed : Bool} {least : Nat}

theorem operand_of_le {text : Text} (h : least ≤ n.precedence) : n.operand least text = text := by
  rw [operand, Layout.parenthesize, if_neg (by simpa using h)]

/-- What binds as tight as anything is printed alike everywhere. -/
theorem Restores.item {item : Nonterminal} (h : n.Restores (.nonterminal item)) (tight : least ≤ n.precedence) :
    n.RestoresItem item least := by
  intro pretty depth
  obtain ⟨text, printed, denotes⟩ := h pretty depth
  exact ⟨text, printed, by rw [operand_of_le tight]; exact .of_denotes denotes⟩

section Members

/-- However the key is printed, the text denotes it. -/
def RestoresKey (key : Node) (computed : Bool) : Prop :=
  ∀ pretty depth, ∃ text, key.print pretty depth = .ok text ∧
    DenotesNamed (.nonterminal .key) (key.printedKey computed text) (IsKey key computed)

/-- The same where a name must not be spelled like a word. -/
def RestoresFreeKey (key : Node) (computed : Bool) : Prop :=
  ∀ pretty depth, ∃ text, key.print pretty depth = .ok text ∧
    Denotes (.nonterminal .key) (key.printedKey computed text) (IsKey key computed)

theorem RestoresFreeKey.restoresKey (h : key.RestoresFreeKey computed) : key.RestoresKey computed := by
  intro pretty depth
  obtain ⟨text, printed, denotes⟩ := h pretty depth
  exact ⟨text, printed, .of_denotes denotes⟩

theorem restoresKey_name (isName : IsName name) :
    RestoresKey ⟨place, .identifier name⟩ false :=
  fun _ _ => ⟨name, by rw [Node.print]; rfl, denotes_nameKey isName⟩

theorem restoresKey_freeName (free : IsFreeName name) :
    RestoresFreeKey ⟨place, .identifier name⟩ false :=
  fun _ _ => ⟨name, by rw [Node.print]; rfl, denotes_freeKey free⟩

theorem restoresKey_string {value : Text} {spelling : Option Text}
    (isToken : Scan.IsStringToken (spelling.getD value.quote))
    (read : Text.unescape (spelling.getD value.quote) = .ok value) :
    RestoresFreeKey ⟨place, .string value spelling⟩ false :=
  fun _ _ => ⟨spelling.getD value.quote, by rw [Node.print]; rfl, denotes_stringKey isToken read rfl⟩

theorem restoresKey_number {value : Number} (nonempty : raw ≠ [])
    (whole : Scan.number raw = raw.length) (read : Number.read raw = .ok value) :
    RestoresFreeKey ⟨place, .number value (some raw)⟩ false :=
  fun _ _ => ⟨raw, by rw [Node.print]; rfl, denotes_numberKey nonempty whole read⟩

theorem restoresKey_computed (h : key.Restorable) : key.RestoresFreeKey true := by
  intro pretty depth
  obtain ⟨text, printed, denotes⟩ := h.expression pretty depth
  exact ⟨text, printed, denotes_computedKey denotes⟩

theorem restores_property (hk : key.RestoresKey computed) (hv : value.Restorable) :
    RestoresItem .objectMember 0 ⟨place, .objectProperty key value computed false⟩ := by
  intro pretty depth
  obtain ⟨text, printed, denotes⟩ := hk pretty depth
  obtain ⟨text', printed', denotes'⟩ := hv.expression pretty depth
  refine ⟨_, ?_, denotes_property (i := 0) (by decide) (by decide) rfl rfl denotes denotes'⟩
  rw [Node.print, printed, printed']
  rfl

theorem print_shorthand (pretty : Bool) (depth : Nat) :
    Node.print pretty depth ⟨place, .objectProperty ⟨keyPlace, .identifier name⟩
      ⟨namePlace, .identifier name⟩ false true⟩ = .ok name := by
  rw [Node.print]
  simp [shorthandName?, identifierName?, pure, Except.pure]

theorem restores_shorthand (isName : IsName name) :
    RestoresItem .objectMember 0 ⟨place, .objectProperty ⟨keyPlace, .identifier name⟩
      ⟨namePlace, .identifier name⟩ false true⟩ :=
  fun pretty depth => ⟨name, print_shorthand pretty depth,
    denotes_shorthand (i := 1) (by decide) (by decide) rfl rfl isName⟩

theorem restores_method (hk : key.RestoresKey computed)
    (hp : ∀ p ∈ params, p.RestoresItem .param Precedence.assignment)
    (hb : body.Restores (.nonterminal .block)) :
    RestoresItem .objectMember 0 ⟨place, .objectMethod key params body computed⟩ := by
  intro pretty depth
  obtain ⟨text, printed, denotes⟩ := hk pretty depth
  obtain ⟨texts, printedAll, items⟩ := printAll_items hp pretty depth
  obtain ⟨text', printed', denotes'⟩ := hb pretty depth
  refine ⟨_, ?_, denotes_method denotes items denotes'⟩
  rw [Node.print, printed, printedAll, printed']
  rfl

theorem restores_spread {item : Nonterminal} (mem : item ∈ [Nonterminal.arrayItem, .argument, .objectMember])
    (h : argument.Restorable) (small : least ≤ Precedence.primary) :
    RestoresItem item least ⟨place, .spread argument⟩ := by
  intro pretty depth
  obtain ⟨text, printed, denotes⟩ := h.expression pretty depth
  have spread : ∃ i ∈ core item, barred item i = [] ∧ item.productions[i]? =
      some ⟨item, [.skip .ellipsis, .keep (.nonterminal .expression)], some .spread⟩ := by
    revert item
    decide
  obtain ⟨i, inside, open_, found⟩ := spread
  refine ⟨"..." ++ argument.operand Precedence.assignment text, by rw [Node.print, printed]; rfl, ?_⟩
  rw [operand_of_le small]
  exact .of_denotes (denotes_ellipsis .spread inside found open_ (fun _ => rfl)
    (fun m same => by simp [Form.map, Form.asRead, same]) denotes)

end Members

section Bindings

theorem restores_name (free : IsFreeName name) :
    Restores (.nonterminal .pattern) ⟨place, .identifier name⟩ :=
  fun _ _ => ⟨name, by rw [Node.print]; rfl, denotes_token (i := 0) (.name free) (by decide) rfl rfl
    apply_identifier⟩

theorem restores_objectPattern (each : ∀ p ∈ properties, p.RestoresItem .patternProperty 0) :
    Restores (.nonterminal .pattern) ⟨place, .objectPattern properties⟩ := by
  intro pretty depth
  obtain ⟨texts, printed, items⟩ := printAll_items each pretty depth
  rw [Node.print, printed]
  exact ⟨_, rfl, denotes_objectPattern items⟩

theorem restores_arrayPattern (each : ∀ p ∈ elements, p.RestoresItem .patternElement 0) :
    Restores (.nonterminal .pattern) ⟨place, .arrayPattern elements⟩ := by
  intro pretty depth
  obtain ⟨texts, printed, items⟩ := printAll_items each pretty depth
  rw [Node.print, printed]
  exact ⟨_, rfl, denotes_arrayPattern items⟩

/-- What may stand among parameters and among the elements of a binding. -/
structure IsBinder (item : Nonterminal) : Prop where
  plain : 0 ∈ core item ∧ barred item 0 = [] ∧ item.productions[0]? =
    some ⟨item, [.keep (.nonterminal .pattern)], none⟩
  fallback : 1 ∈ core item ∧ barred item 1 = [] ∧ item.productions[1]? = some ⟨item,
    [.keep (.nonterminal .pattern), .skip .assign, .keep (.nonterminal .expression)],
    some .assignmentPattern⟩
  rest : 2 ∈ core item ∧ barred item 2 = [] ∧ item.productions[2]? = some ⟨item,
    [.skip .ellipsis, .keep (.nonterminal .pattern)], some .restElement⟩

theorem isBinder_param : IsBinder .param := by
  constructor <;> exact ⟨by decide, rfl, rfl⟩

theorem isBinder_element : IsBinder .patternElement := by
  constructor <;> exact ⟨by decide, rfl, rfl⟩

variable {item : Nonterminal}

theorem restores_binding (binder : IsBinder item) (h : n.Restores (.nonterminal .pattern))
    (tight : least ≤ n.precedence) : n.RestoresItem item least := by
  intro pretty depth
  obtain ⟨text, printed, denotes⟩ := h pretty depth
  obtain ⟨mem, open_, found⟩ := binder.plain
  exact ⟨text, printed, by rw [operand_of_le tight]; exact .of_denotes (.pass mem found open_ denotes)⟩

theorem restores_default (binder : IsBinder item) (h : target.Restores (.nonterminal .pattern))
    (hf : fallback.Restorable) (small : least ≤ Precedence.primary) :
    RestoresItem item least ⟨place, .assignmentPattern target fallback⟩ := by
  intro pretty depth
  obtain ⟨text, printed, denotes⟩ := h pretty depth
  obtain ⟨text', printed', denotes'⟩ := hf.expression pretty depth
  obtain ⟨mem, open_, found⟩ := binder.fallback
  refine ⟨_, by rw [Node.print, printed, printed']; rfl, ?_⟩
  rw [operand_of_le small]
  exact .of_denotes (denotes_default mem found open_ denotes denotes')

theorem restores_rest (binder : IsBinder item) (h : argument.Restores (.nonterminal .pattern))
    (small : least ≤ Precedence.primary) :
    RestoresItem item least ⟨place, .restElement argument⟩ := by
  intro pretty depth
  obtain ⟨text, printed, denotes⟩ := h pretty depth
  obtain ⟨mem, open_, found⟩ := binder.rest
  refine ⟨_, by rw [Node.print, printed]; rfl, ?_⟩
  rw [operand_of_le small]
  exact .of_denotes (denotes_ellipsis .restElement mem found open_ (fun _ => rfl)
    (fun m same => by simp [Form.map, Form.asRead, same]) denotes)

theorem restores_bindingProperty (hk : key.RestoresKey computed)
    (hv : value.Restores (.nonterminal .pattern)) (tight : Precedence.assignment ≤ value.precedence) :
    RestoresItem .patternProperty 0 ⟨place, .objectProperty key value computed false⟩ := by
  intro pretty depth
  obtain ⟨text, printed, denotes⟩ := hk pretty depth
  obtain ⟨text', printed', denotes'⟩ := hv pretty depth
  rw [← show value.operand Precedence.assignment text' = text' from operand_of_le tight] at denotes'
  refine ⟨_, ?_, denotes_property (i := 2) (by decide) (by decide) rfl rfl denotes denotes'⟩
  rw [Node.print, printed, printed']
  rfl

theorem restores_bindingShorthand (isName : IsName name) :
    RestoresItem .patternProperty 0 ⟨place, .objectProperty ⟨keyPlace, .identifier name⟩
      ⟨namePlace, .identifier name⟩ false true⟩ :=
  fun pretty depth => ⟨name, print_shorthand pretty depth,
    denotes_shorthand (i := 0) (by decide) (by decide) rfl rfl isName⟩

theorem restores_bindingDefault (hk : key.RestoresKey computed)
    (hv : target.Restores (.nonterminal .pattern)) (hf : fallback.Restorable) :
    RestoresItem .patternProperty 0
      ⟨place, .objectProperty key ⟨valuePlace, .assignmentPattern target fallback⟩ computed false⟩ := by
  intro pretty depth
  obtain ⟨text, printed, denotes⟩ := hk pretty depth
  obtain ⟨text', printed', denotes'⟩ := hv pretty depth
  obtain ⟨text'', printed'', denotes''⟩ := hf.expression pretty depth
  refine ⟨_, ?_, denotes_propertyDefault denotes denotes' denotes''⟩
  rw [Node.print, printed, Node.print, printed', printed'']
  rfl

theorem restores_bindingShorthandDefault (isName : IsName name) (hf : fallback.Restorable) :
    RestoresItem .patternProperty 0 ⟨place, .objectProperty ⟨keyPlace, .identifier name⟩
      ⟨valuePlace, .assignmentPattern ⟨namePlace, .identifier name⟩ fallback⟩ false true⟩ := by
  intro pretty depth
  obtain ⟨text, printed, denotes⟩ := hf.expression pretty depth
  refine ⟨_, ?_, denotes_shorthandDefault isName denotes⟩
  rw [Node.print, Node.print, Node.print, printed]
  rfl

theorem restores_restName (free : IsFreeName name) :
    RestoresItem .patternProperty 0 ⟨place, .restElement ⟨keyPlace, .identifier name⟩⟩ := by
  intro pretty depth
  exact ⟨_, by rw [Node.print, Node.print]; rfl, .of_denotes (denotes_restName free)⟩

end Bindings

namespace Restorable

/-- An object that would open a block may not start a statement. -/
theorem object (each : ∀ p ∈ properties, p.RestoresItem .objectMember 0) :
    Restorable ⟨place, .objectExpression properties⟩ := by
  intro pretty depth
  obtain ⟨texts, printed, items⟩ := printAll_items each pretty depth
  obtain ⟨wide, printedWide, itemsWide⟩ := printAll_items each pretty (depth + 1)
  obtain ⟨text, print_eq, start, own⟩ : ∃ text,
      Node.print pretty depth ⟨place, .objectExpression properties⟩ = .ok text ∧
        text.sign? = some (CodePoint.ofChar '\x7b') ∧
          Denotes (.nonterminal .object) text (IsNode ⟨place, .objectExpression properties⟩) := by
    rw [Node.print, printed]
    simp only [bind, Except.bind, pure, Except.pure]
    by_cases none : texts.isEmpty = true
    · refine ⟨"\x7b\x7d", by rw [if_pos none], rfl, ?_⟩
      have own : Denotes (.nonterminal .object) (bracesText texts)
        (IsNode ⟨place, .objectExpression properties⟩) := denotes_object items
      rwa [bracesText, if_pos none] at own
    rw [if_neg none]
    split
    · exact ⟨_, by rw [printedWide], rfl, denotes_objectLines itemsWide depth⟩
    · have own : Denotes (.nonterminal .object) (bracesText texts)
        (IsNode ⟨place, .objectExpression properties⟩) := denotes_object items
      rw [bracesText, if_neg none] at own
      exact ⟨_, rfl, rfl, own⟩
  refine ⟨text, print_eq, by rw [start, Node.sign?], fun brace plain => ?_⟩
  change Denotes (.nonterminal (.chain brace .primary)) text _
  cases brace with
  | true => exact .pass (i := 1) (by decide) rfl rfl own
  | false => exact absurd (by rw [Node.sign?]) (plain rfl)

theorem function (free : ∀ n ∈ id, n.IsFree)
    (hp : ∀ p ∈ params, p.RestoresItem .param Precedence.assignment)
    (hb : body.Restores (.nonterminal .block)) :
    Restorable ⟨place, .functionExpression id params body⟩ := by
  intro pretty depth
  obtain ⟨texts, printedAll, items⟩ := printAll_items hp pretty depth
  obtain ⟨text, printed, denotes⟩ := hb pretty depth
  rw [Node.print, printedAll, printed]
  exact ⟨_, rfl, rfl, fun brace _ =>
    .primary (.pass (i := 10) (by decide) rfl rfl (denotes_function free items denotes)) brace _⟩


end Restorable

section Arrows

/-- Behind an arrow, the text of the body denotes it. -/
def RestoresBody (body : Node) : Prop :=
  ∀ pretty depth, ∃ text, body.print pretty depth = .ok text ∧
    Denotes (.nonterminal .arrowBody) (body.arrowBody text) (IsNode body)

theorem restoresBody_block {statements : List Node}
    (h : Restores (.nonterminal .block) ⟨place, .block statements⟩) :
    RestoresBody ⟨place, .block statements⟩ := by
  intro pretty depth
  obtain ⟨text, printed, denotes⟩ := h pretty depth
  exact ⟨text, printed, .pass (i := 0) (by decide) rfl rfl denotes⟩

/-- Only what is an object itself stands in parentheses, so nothing else may start with a brace. -/
theorem restoresBody_expression (h : n.Restorable)
    (plain : n.isObject = true ∨ n.sign? ≠ some (CodePoint.ofChar '\x7b')) : RestoresBody n := by
  intro pretty depth
  simp only [arrowBody]
  split
  · obtain ⟨text, printed, -, denotes⟩ := h pretty depth
    exact ⟨text, printed, .pass (i := 1) (by decide) rfl rfl
      (.parenthesized ((denotes true nofun).lift (Nat.zero_le _)) false _)⟩
  · rename_i other
    obtain ⟨text, printed, -, denotes⟩ := h.operand Precedence.assignment pretty depth
    refine ⟨text, printed, .pass (i := 1) (by decide) rfl rfl (denotes false fun _ => ?_)⟩
    rw [guardedSign?]
    split
    · decide
    · exact plain.resolve_left other

/-- Read as a parameter of an arrow function, what the text denotes is the binding. -/
def RestoresLoose (n : Node) : Prop :=
  ∃ e, Converts e n ∧ ∀ pretty depth, ∃ text, n.print pretty depth = .ok text ∧
    DenotesItem .expression e (n.operand Precedence.assignment text)

theorem restoresLoose_name (free : IsFreeName name) : RestoresLoose ⟨place, .identifier name⟩ := by
  refine ⟨⟨place, .identifier name⟩, ?_, ?_⟩
  · rintro ⟨q, form⟩ same
    rw [unplaced_mk, asRead_mk, plain, plain, Node.mk.injEq] at same
    cases form <;> simp only [Form.map, Form.asRead, reduceCtorEq, and_false, true_and,
      Form.identifier.injEq] at same
    subst same
    exact ⟨_, rfl, rfl⟩
  · intro pretty depth
    have own : Restorable ⟨place, .identifier name⟩ := .identifier free
    obtain ⟨text, printed, denotes⟩ := own.expression pretty depth
    exact ⟨text, printed, .of_denotes denotes⟩

theorem printAll_loose (each : ∀ p ∈ params, p.RestoresLoose) (pretty : Bool) (depth : Nat) :
    ∃ es texts, List.Forall₂ Converts es params ∧
      printAll pretty depth Precedence.assignment params = .ok texts ∧
        DenoteItems .expression es texts := by
  induction params with
  | nil => exact ⟨[], [], .nil, rfl, .nil⟩
  | cons p params ih =>
    obtain ⟨e, converts, own⟩ := each p List.mem_cons_self
    obtain ⟨text, printed, denotes⟩ := own pretty depth
    obtain ⟨es, texts, all, printedAll, items⟩ := ih fun q mem => each q (List.mem_cons_of_mem p mem)
    refine ⟨e :: es, _ :: texts, .cons converts all, ?_, .cons denotes items⟩
    rw [printAll, printed, printedAll]
    rfl

theorem Restorable.arrowName (free : IsFreeName name) (hb : body.RestoresBody) :
    Restorable ⟨place, .arrow [⟨namePlace, .identifier name⟩] body⟩ := by
  intro pretty depth
  obtain ⟨text, printed, denotes⟩ := hb pretty depth
  rw [Node.print, printed]
  refine ⟨name ++ " => " ++ body.arrowBody text, rfl, ?_, fun brace _ =>
    denotes_arrow (denotes_arrowName free) denotes⟩
  rw [List.append_assoc, (Denotes.name free).opened.sign?_append, sign?_of_isName free.1, Node.sign?]

theorem Restorable.arrow (several : ∀ p name, params ≠ [⟨p, .identifier name⟩])
    (each : ∀ p ∈ params, p.RestoresLoose) (hb : body.RestoresBody) :
    Restorable ⟨place, .arrow params body⟩ := by
  intro pretty depth
  obtain ⟨es, texts, converts, printedAll, items⟩ := printAll_loose each pretty depth
  obtain ⟨text, printed, denotes⟩ := hb pretty depth
  have print_eq : Node.print pretty depth ⟨place, .arrow params body⟩ =
      .ok ("(" ++ Layout.commas texts ++ ") => " ++ body.arrowBody text) := by
    rw [Node.print]
    · rw [printedAll, printed]
      rfl
    · exact fun p name same => several p name same
  refine ⟨_, print_eq, ?_, fun brace _ => ?_⟩
  · rw [Node.sign?]
    · rfl
    · exact fun p name same => several p name same
  · have text_eq : "(" ++ Layout.commas texts ++ ") => " ++ body.arrowBody text =
        "(" ++ (Layout.commas texts ++ ")") ++ " => " ++ body.arrowBody text := by
      simp [Text.ofString]
    rw [text_eq]
    exact denotes_arrow (denotes_arrowList converts items) denotes

end Arrows

end Hyperscript.Node
