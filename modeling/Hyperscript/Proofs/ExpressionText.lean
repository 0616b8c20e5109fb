import Hyperscript.Proofs.TextMeaning

/-!
# What the texts of expressions mean

For each production of an expression: the texts of its parts, put together as the printer does,
denote the node that its action makes of the parts.
-/
namespace Hyperscript.Grammar

variable {brace : Bool} {l tighter : Level} {place namePlace : Place} {k : Terminal}
variable {w text first second third : Text}
variable {object argument left right test consequent alternate property callee : Node}

section Words

variable {n : Node} {i : Nat} {action : Action}

/-- A production of a single word. -/
theorem denotes_token {a : Nonterminal} (own : Denotes (.terminal k) text (IsToken ⟨k, w⟩))
    (mem : i ∈ core a) (found : a.productions[i]? = some ⟨a, [.keep (.terminal k)], some action⟩)
    (open_ : barred a i = [])
    (build : ∀ t : Token, t.word = ⟨k, w⟩ → ∃ part, Build.apply action [.token t] = .ok part ∧
      IsNode n [part]) : Denotes (.nonterminal a) text (IsNode n) := by
  refine .production mem found open_ own.opened (.last own fun _ => id) ?_
  rintro parts ⟨t, same, rfl⟩
  obtain ⟨part, built, good⟩ := build t same
  exact ⟨[part], build_of_apply built, good⟩

theorem denotes_numberToken (nonempty : w ≠ []) (whole : Scan.number w = w.length) :
    Denotes (.terminal .number) w (IsToken ⟨.number, w⟩) :=
  ⟨_, .number nonempty whole, .token ⟨.number, w⟩ fun reserved => nomatch reserved.1⟩

theorem denotes_stringToken (isToken : Scan.IsStringToken w) :
    Denotes (.terminal .string) w (IsToken ⟨.string, w⟩) :=
  ⟨_, .string isToken, .token ⟨.string, w⟩ fun reserved => nomatch reserved.1⟩

theorem apply_identifier (t : Token) (same : t.word = ⟨.name, w⟩) :
    ∃ part, Build.apply .identifier [.token t] = .ok part ∧
      IsNode ⟨place, .identifier w⟩ [part] := by
  obtain rfl : t.text = w := congrArg Word.text same
  exact ⟨_, rfl, .intro rfl⟩

theorem apply_number {value : Number} (read : Number.read w = .ok value) (t : Token)
    (same : t.word = ⟨.number, w⟩) :
    ∃ part, Build.apply .number [.token t] = .ok part ∧
      IsNode ⟨place, .number value (some w)⟩ [part] := by
  obtain rfl : t.text = w := congrArg Word.text same
  refine ⟨.node ⟨t.place, .number value (some t.text)⟩, ?_, .intro rfl⟩
  simp [Build.apply, Build.onToken, Build.number, read, Except.map]

/-- The text of a string is read back as its spelling. -/
theorem string_of_token {value : Text} {spelling : Option Text} (read : Text.unescape w = .ok value)
    (kept : w = spelling.getD value.quote) (t : Token) (same : t.word = ⟨.string, w⟩) :
    ∃ m, Build.string t = .ok m ∧ m.unplaced = Node.asRead ⟨place, .string value spelling⟩ := by
  obtain rfl : t.text = w := congrArg Word.text same
  refine ⟨⟨t.place, .string value (some t.text)⟩, ?_, Node.unplaced_eq_asRead ?_⟩
  · simp [Build.string, read]
  · simp [Form.map, Form.asRead, kept]

theorem apply_string {value : Text} {spelling : Option Text} (read : Text.unescape w = .ok value)
    (kept : w = spelling.getD value.quote) (t : Token) (same : t.word = ⟨.string, w⟩) :
    ∃ part, Build.apply .string [.token t] = .ok part ∧
      IsNode ⟨place, .string value spelling⟩ [part] := by
  obtain ⟨m, built, alike⟩ := string_of_token read kept t same
  exact ⟨.node m, by simp [Build.apply, Build.onToken, built, Except.map], m, rfl, alike⟩

/-- A word that is a whole expression. -/
theorem denotes_leaf (own : Denotes (.terminal k) text (IsToken ⟨k, w⟩))
    (mem : i ∈ core (.chain false .primary))
    (found : (Nonterminal.chain false .primary).productions[i]? =
      some ⟨.chain false .primary, [.keep (.terminal k)], some action⟩)
    (build : ∀ t : Token, t.word = ⟨k, w⟩ → ∃ part, Build.apply action [.token t] = .ok part ∧
      IsNode n [part]) (l : Level) : Denotes (.nonterminal (.chain brace l)) text (IsNode n) :=
  .primary (denotes_token own mem found rfl build) brace l

theorem denotes_identifier (free : IsFreeName w) (l : Level) :
    Denotes (.nonterminal (.chain brace l)) w (IsNode ⟨place, .identifier w⟩) :=
  denotes_leaf (i := 0) (.name free) (by decide) rfl apply_identifier l

/-- A word of the grammar that is an expression of its own. -/
theorem denotes_fixedWord {form : Form Node} (mem : (k, w) ∈ Terminal.spellings) (isName : IsName w)
    (inside : i ∈ core (.chain false .primary))
    (found : (Nonterminal.chain false .primary).productions[i]? =
      some ⟨.chain false .primary, [.keep (.terminal k)], some action⟩)
    (apply_eq : ∀ t : Token, Build.apply action [.token t] = .ok (.node ⟨t.place, form⟩))
    (alike : form.map Node.unplaced = (form.map Node.asRead).asRead) (l : Level) :
    Denotes (.nonterminal (.chain brace l)) w (IsNode ⟨place, form⟩) :=
  denotes_leaf (.word mem isName) inside found (fun t _ => ⟨_, apply_eq t, .intro alike⟩) l

theorem denotes_number {value : Number} (nonempty : w ≠ []) (whole : Scan.number w = w.length)
    (read : Number.read w = .ok value) (l : Level) :
    Denotes (.nonterminal (.chain brace l)) w (IsNode ⟨place, .number value (some w)⟩) :=
  denotes_leaf (i := 6) (denotes_numberToken nonempty whole) (by decide) rfl (apply_number read) l

theorem denotes_string {value : Text} {spelling : Option Text}
    (kept : w = spelling.getD value.quote) (isToken : Scan.IsStringToken w)
    (read : Text.unescape w = .ok value) (l : Level) :
    Denotes (.nonterminal (.chain brace l)) w (IsNode ⟨place, .string value spelling⟩) :=
  denotes_leaf (i := 5) (denotes_stringToken isToken) (by decide) rfl (apply_string read kept) l

theorem denotes_template (nonempty : w ≠ []) (whole : Scan.template w = w.length) (l : Level) :
    Denotes (.nonterminal (.chain brace l)) w (IsNode ⟨place, .template w⟩) := by
  have own : Denotes (.terminal .template) w (IsToken ⟨.template, w⟩) :=
    ⟨_, .template nonempty whole, .token ⟨.template, w⟩ fun reserved => nomatch reserved.1⟩
  refine denotes_leaf (i := 7) own (by decide) rfl ?_ l
  rintro t same
  obtain rfl : t.text = w := congrArg Word.text same
  exact ⟨_, rfl, .intro rfl⟩

end Words

section Operators

/-- The operator stands between operands of these levels, and the action puts them together. -/
def IsInfix (action : Action) (k : Terminal) (l tighter : Level) : Prop :=
  ∃ i ∈ core (.chain true l), ∀ brace, i ∈ core (.chain brace l) ∧
    (Nonterminal.chain brace l).productions[i]? =
      some ⟨.chain brace l, [.keep (.nonterminal (.chain brace l)), .keep (.terminal k),
        .keep (.nonterminal (.chain true tighter))], some action⟩

instance (action : Action) (k : Terminal) (l tighter : Level) :
    Decidable (IsInfix action k l tighter) := inferInstanceAs (Decidable (∃ i ∈ _, _))

theorem denotes_infix (form : Text → Node → Node → Form Node) {action : Action}
    (h : IsInfix action k l tighter) (mem : (k, w) ∈ Terminal.spellings)
    (apply_eq : ∀ (m₁ m₂ : Node) (t : Token),
      Build.apply action [.node m₁, .token t, .node m₂] = .ok (.node ⟨m₁.place, form t.text m₁ m₂⟩))
    (alike : ∀ m₁ m₂ : Node, m₁.unplaced = left.asRead → m₂.unplaced = right.asRead →
      (form w m₁ m₂).map Node.unplaced = ((form w left right).map Node.asRead).asRead)
    (own : Denotes (.nonterminal (.chain brace l)) first (IsNode left))
    (other : Denotes (.nonterminal (.chain true tighter)) second (IsNode right)) :
    Denotes (.nonterminal (.chain brace l)) (first ++ " " ++ w ++ " " ++ second)
      (IsNode ⟨place, form w left right⟩) := by
  obtain ⟨i, -, h⟩ := h
  obtain ⟨inside, found⟩ := h brace
  have mark : Means (.terminal k) [⟨k, w⟩] (IsToken ⟨k, w⟩) :=
    .token ⟨k, w⟩ fun reserved => ne_name_of_mem_spellings mem reserved.1
  have row : Fills _ _ _ := .keep own (.space _)
    (.gap blank_space (.keepSpaced mark mem (.last other fun _ => id)))
  simp only [← List.append_assoc] at row
  refine .production inside found rfl (by simpa using own.opened.append _) row ?_
  rintro parts ⟨_, _, ⟨m₁, rfl, same₁⟩, ⟨_, _, ⟨t, word, rfl⟩, ⟨m₂, rfl, same₂⟩, rfl⟩, rfl⟩
  obtain rfl : t.text = w := congrArg Word.text word
  exact ⟨_, build_of_apply (apply_eq m₁ m₂ t), .intro (alike m₁ m₂ same₁ same₂)⟩

/-- The operator stands before an operand of the unary level. -/
def IsLeading (action : Action) (k : Terminal) : Prop :=
  ∃ i ∈ core (.chain true .unary), ∀ brace, (Nonterminal.chain brace .unary).productions[i]? =
    some ⟨.chain brace .unary, [.keep (.terminal k), .keep (.nonterminal (.chain true .unary))],
      some action⟩

instance (action : Action) (k : Terminal) : Decidable (IsLeading action k) :=
  inferInstanceAs (Decidable (∃ i ∈ _, _))

/-- A text that spells an operator and the words of its operand. -/
theorem denotes_leading (form : Text → Node → Form Node) {action : Action} (h : IsLeading action k)
    (mem : (k, w) ∈ Terminal.spellings)
    (apply_eq : ∀ (t : Token) (m : Node),
      Build.apply action [.token t, .node m] = .ok (.node ⟨t.place, form t.text m⟩))
    (alike : ∀ m : Node, m.unplaced = argument.asRead →
      (form w m).map Node.unplaced = ((form w argument).map Node.asRead).asRead)
    (spells : ∀ words, Phrase first words → Phrase text (⟨k, w⟩ :: words))
    (own : Denotes (.nonterminal (.chain true .unary)) first (IsNode argument)) :
    Denotes (.nonterminal (.chain brace .unary)) text (IsNode ⟨place, form w argument⟩) := by
  obtain ⟨i, inside, found⟩ := h
  obtain ⟨words, phrase, means⟩ := own
  have row : Gathers (fun _ => True) _ _ _ := .keep
    (.token ⟨k, w⟩ fun reserved => ne_name_of_mem_spellings mem reserved.1)
    (.last means fun _ => id)
  refine ⟨_, spells words phrase, Means.production inside (found brace) rfl row ?_⟩
  rintro parts ⟨_, _, ⟨t, word, rfl⟩, ⟨m, rfl, same⟩, rfl⟩
  obtain rfl : t.text = w := congrArg Word.text word
  exact ⟨_, build_of_apply (apply_eq t m), .intro (alike m same)⟩

/-- The operator stands behind a member or a call. -/
def IsTrailing (k : Terminal) : Prop :=
  ∃ i ∈ core (.chain true .postfixed), ∀ brace,
    (Nonterminal.chain brace .postfixed).productions[i]? =
      some ⟨.chain brace .postfixed, [.keep (.nonterminal (.chain brace .callMember)),
        .keep (.terminal k)], some .updateTrailing⟩

instance (k : Terminal) : Decidable (IsTrailing k) := inferInstanceAs (Decidable (∃ i ∈ _, _))

theorem denotes_trailing (h : IsTrailing k) (mem : (k, w) ∈ closedMarks)
    (own : Denotes (.nonterminal (.chain brace .callMember)) first (IsNode argument)) :
    Denotes (.nonterminal (.chain brace .postfixed)) (first ++ w)
      (IsNode ⟨place, .update w argument false⟩) := by
  obtain ⟨i, inside, found⟩ := h
  have mark : Fills [.keep (.terminal k)] w (IsToken ⟨k, w⟩) := by
    have spelt := Spelt.mark mem .nil
    rw [List.append_nil] at spelt
    exact ⟨_, spelt, .last (.token ⟨k, w⟩ fun reserved =>
      ne_name_of_mem_spellings (closedMarks_spec _ mem).1 reserved.1) fun _ => id⟩
  have detached := Detached.mark mem []
  rw [List.append_nil] at detached
  refine .production inside (found brace) rfl (own.opened.append _) (.keep own detached mark) ?_
  rintro parts ⟨_, _, ⟨m, rfl, same⟩, ⟨t, word, rfl⟩, rfl⟩
  obtain rfl : t.text = w := congrArg Word.text word
  exact ⟨_, rfl, .intro (by simp [Form.map, Form.asRead, same])⟩

theorem denotes_conditional
    (own : Denotes (.nonterminal (.chain brace .logicalOr)) first (IsNode test))
    (yes : Denotes (.nonterminal .expression) second (IsNode consequent))
    (no : Denotes (.nonterminal .expression) third (IsNode alternate)) :
    Denotes (.nonterminal (.chain brace .conditional))
      (first ++ " ? " ++ second ++ " : " ++ third)
      (IsNode ⟨place, .conditional test consequent alternate⟩) := by
  have row : Fills _ _ _ := .keep own (.space _)
    (.gap blank_space (.spaced (k := .question) (w := "?") (by decide)
      (.keep yes (.space _) (.gap blank_space
        (.spaced (k := .colon) (w := ":") (by decide) (.last no fun _ => id))))))
  have text_eq : first ++ " ? " ++ second ++ " : " ++ third =
      first ++ (" " ++ ("?" ++ (" " ++ (second ++ (" " ++ (":" ++ (" " ++ third))))))) := by
    simp [Text.ofString]
  rw [text_eq]
  refine .production (i := 1) (by cases brace <;> decide) rfl rfl (own.opened.append _) row ?_
  rintro parts ⟨_, _, ⟨m₁, rfl, same₁⟩, ⟨_, _, ⟨m₂, rfl, same₂⟩, ⟨m₃, rfl, same₃⟩, rfl⟩, rfl⟩
  exact ⟨_, rfl, .intro (by simp [Form.map, Form.asRead, same₁, same₂, same₃])⟩

theorem denotes_assignment (operator : k ∈ assignMarks) (mem : (k, w) ∈ Terminal.spellings)
    (own : Denotes (.nonterminal (.chain brace .callMember)) first (IsNode left))
    (other : Denotes (.nonterminal .expression) second (IsNode right)) :
    Denotes (.nonterminal (.chain brace .assign)) (first ++ " " ++ w ++ " " ++ second)
      (IsNode ⟨place, .assignment w left right⟩) := by
  have mark : Means (.nonterminal .assignOperator) [⟨k, w⟩] (· = [.word w]) := by
    have found : ∀ k ∈ assignMarks, ∃ i ∈ core .assignOperator,
        Nonterminal.assignOperator.productions[i]? =
          some ⟨.assignOperator, [.keep (.terminal k)], some .word⟩ := by
      decide
    obtain ⟨i, inside, found⟩ := found k operator
    refine .production inside found rfl (.last (.token ⟨k, w⟩ fun reserved =>
      ne_name_of_mem_spellings mem reserved.1) fun _ => id) ?_
    rintro parts ⟨t, same, rfl⟩
    exact ⟨_, rfl, by rw [show t.text = w from congrArg Word.text same]⟩
  have row : Fills _ _ _ := .keep own (.space _)
    (.gap blank_space (.keepSpaced mark mem (.last other fun _ => id)))
  simp only [← List.append_assoc] at row
  refine .production (i := 1) (by cases brace <;> decide) rfl rfl
    (by simpa using own.opened.append _) row ?_
  rintro parts ⟨_, _, ⟨m₁, rfl, same₁⟩, ⟨_, _, rfl, ⟨m₂, rfl, same₂⟩, rfl⟩, rfl⟩
  exact ⟨_, rfl, .intro (by simp [Form.map, Form.asRead, same₁, same₂])⟩

end Operators

section Members

variable {elements arguments : List Node} {texts : List Text} {spacious : Bool}

/-- A symbol that reads a name as the identifier. -/
theorem yields_name {a : Nonterminal} {i : Nat} (mem : i ∈ core a)
    (found : a.productions[i]? = some ⟨a, [.keep (.terminal .name)], some .identifier⟩)
    (open_ : barred a i = []) (name : Text) :
    Yields (fun _ => True) (.nonterminal a) [⟨.name, name⟩]
      (IsNode ⟨place, .identifier name⟩) := by
  refine .production mem found (fun k _ => by simp [open_]) (.only (.token ⟨.name, name⟩)) ?_
  rintro parts ⟨t, word, rfl⟩
  obtain rfl : t.text = name := congrArg Word.text word
  exact ⟨_, rfl, .intro rfl⟩

/-- A symbol that may be followed by a dot and a property. -/
theorem denotes_dotted {a : Nonterminal} {i : Nat} {name : Text} (mem : i ∈ core a)
    (found : a.productions[i]? =
      some ⟨a, [.keep (.nonterminal a), .skip .dot, .keep (.nonterminal .propertyName)],
        some .member⟩) (open_ : barred a i = []) (isName : IsName name)
    (own : Denotes (.nonterminal a) first (IsNode object)) :
    Denotes (.nonterminal a) (first ++ "." ++ name)
      (IsNode ⟨place, .member object ⟨namePlace, .identifier name⟩ false⟩) := by
  have property : Yields (fun _ => True) (.nonterminal .propertyName) [⟨.name, name⟩]
      (IsNode ⟨namePlace, .identifier name⟩) := yields_name (i := 0) (by decide) rfl rfl name
  have detached := detached_dot isName []
  rw [List.append_nil] at detached
  have row : Fills _ _ _ := .keep own detached (.dotted isName property)
  rw [← List.append_assoc] at row
  refine .production mem found open_ (by simpa using own.opened.append _) row ?_
  rintro parts ⟨_, _, ⟨m₁, rfl, same₁⟩, ⟨m₂, rfl, same₂⟩, rfl⟩
  exact ⟨_, rfl, .intro (by simp [Form.map, Form.asRead, same₁, same₂])⟩

theorem denotes_member {name : Text} (isName : IsName name)
    (own : Denotes (.nonterminal (.chain brace .callMember)) first (IsNode object)) :
    Denotes (.nonterminal (.chain brace .callMember)) (first ++ "." ++ name)
      (IsNode ⟨place, .member object ⟨namePlace, .identifier name⟩ false⟩) :=
  denotes_dotted (i := 1) (by cases brace <;> decide) rfl rfl isName own

theorem denotes_computed
    (own : Denotes (.nonterminal (.chain brace .callMember)) first (IsNode object))
    (inside : Denotes (.nonterminal .expression) second (IsNode property)) :
    Denotes (.nonterminal (.chain brace .callMember)) (first ++ "[" ++ second ++ "]")
      (IsNode ⟨place, .member object property true⟩) := by
  have row : Fills _ _ _ := .keep own (.mark (k := .bracketOpen) (by decide) _)
    (.mark (k := .bracketOpen) (w := "[") (by decide)
      (.keep inside (.mark (k := .bracketClose) (by decide) [])
        (.mark (k := .bracketClose) (w := "]") (by decide) .nil)))
  simp only [List.append_nil, ← List.append_assoc] at row
  refine .production (i := 2) (by cases brace <;> decide) rfl rfl
    (by simpa using own.opened.append _) row ?_
  rintro parts ⟨_, _, ⟨m₁, rfl, same₁⟩, ⟨_, _, ⟨m₂, rfl, same₂⟩, rfl, rfl⟩, rfl⟩
  exact ⟨_, rfl, .intro (by simp [Form.map, Form.asRead, same₁, same₂])⟩

theorem bracketed_array :
    Bracketed .array .arrayItem .moreItems .bracketOpen .bracketClose .array := by
  constructor
  · constructor <;> decide
  · decide

theorem bracketed_arguments :
    Bracketed .arguments .argument .moreArguments .parenOpen .parenClose .nodes := by
  constructor
  · constructor <;> decide
  · decide

theorem denotes_array (own : DenoteItems .arrayItem elements texts) (l : Level) :
    Denotes (.nonterminal (.chain brace l)) ("[" ++ Layout.commas texts ++ "]")
      (IsNode ⟨place, .arrayExpression elements⟩) := by
  rw [List.append_assoc]
  refine .primary (.pass (i := 8) (by decide) rfl rfl
    (denotes_commas bracketed_array ⟨by decide, by decide⟩ own ?_)) brace l
  intro parts nodes
  exact ⟨_, rfl, .intro (by simp [Form.map, Form.asRead, nodes.compact])⟩

/-- The value is a list of the nodes as they are read back. -/
def IsList (ns : List Node) (value : List Part) : Prop :=
  ∃ ms : List Node, value = [.nodes ms] ∧ ms.map Node.unplaced = ns.map Node.asRead

theorem denotes_arguments (own : DenoteItems .argument arguments texts) :
    Denotes (.nonterminal .arguments) ("(" ++ (Layout.commas texts ++ ")")) (IsList arguments) :=
  denotes_commas bracketed_arguments ⟨by decide, by decide⟩ own
    fun _ nodes => ⟨_, rfl, _, rfl, nodes.compact⟩

theorem denotes_argumentLines (own : DenoteItems .argument arguments texts) (depth : Nat) :
    Denotes (.nonterminal .arguments) (Layout.lines "(" "," ")" depth texts) (IsList arguments) :=
  denotes_lines bracketed_arguments ⟨by decide, by decide⟩ own
    (fun _ nodes => ⟨_, rfl, _, rfl, nodes.compact⟩) depth

theorem denotes_call (own : Denotes (.nonterminal (.chain brace .callMember)) first (IsNode callee))
    (detached : Detached second) (others : Denotes (.nonterminal .arguments) second (IsList arguments)) :
    Denotes (.nonterminal (.chain brace .callMember)) (first ++ second)
      (IsNode ⟨place, .call callee arguments spacious⟩) := by
  refine .production (i := 3) (by cases brace <;> decide) rfl rfl (own.opened.append _)
    (.keep own detached (.last others fun _ => id)) ?_
  rintro parts ⟨_, _, ⟨m, rfl, alike⟩, ⟨ms, rfl, same⟩, rfl⟩
  exact ⟨_, rfl, .intro (by simp [Form.map, Form.asRead, alike, same])⟩

theorem denotes_new (own : Denotes (.nonterminal .newCallee) first (IsNode callee))
    (others : DenoteItems .argument arguments texts) (l : Level) :
    Denotes (.nonterminal (.chain brace l)) ("new " ++ first ++ "(" ++ Layout.commas texts ++ ")")
      (IsNode ⟨place, .new callee arguments⟩) := by
  have row : Fills _ _ _ := .spaced (k := .newWord) (w := "new") (by decide)
    (.keep own (.mark (k := .parenOpen) (by decide) _) (.last (denotes_arguments others) fun _ => id))
  have opened : Opened ("new " ++ first ++ "(" ++ Layout.commas texts ++ ")") :=
    ⟨_, _, rfl, by decide, by decide⟩
  have text_eq : "new " ++ first ++ "(" ++ Layout.commas texts ++ ")" =
      Text.ofString "new" ++ (" " ++ (first ++ ("(" ++ (Layout.commas texts ++ ")")))) := by
    simp [Text.ofString]
  rw [text_eq] at opened ⊢
  refine .primary (.pass (i := 12) (by decide) rfl rfl
    (.production (i := 0) (by decide) rfl rfl opened row ?_)) brace l
  rintro parts ⟨_, _, ⟨m, rfl, alike⟩, ⟨ms, rfl, same⟩, rfl⟩
  exact ⟨_, rfl, .intro (by simp [Form.map, Form.asRead, alike, same])⟩

theorem denotes_newCallee_name {name : Text} (free : IsFreeName name) :
    Denotes (.nonterminal .newCallee) name (IsNode ⟨place, .identifier name⟩) :=
  denotes_token (i := 0) (.name free) (by decide) rfl rfl apply_identifier

theorem denotes_newCallee_this :
    Denotes (.nonterminal .newCallee) "this" (IsNode ⟨place, .this⟩) := by
  have own := Denotes.word (k := .thisWord) (w := "this") (by decide) (by decide)
  exact denotes_token (i := 1) own (by decide) rfl rfl fun _ _ => ⟨_, rfl, .intro rfl⟩

end Members

end Hyperscript.Grammar
