import Hyperscript.Proofs.ExpressionText

/-!
# What the texts of objects and bindings mean

Objects, bindings and parameters are rows of items between brackets. What stands before a colon or
behind an ellipsis is read alike in all of them, so each kind of item is stated for every
nonterminal with such a production.
-/
namespace Hyperscript.Grammar

variable {Next : Terminal → Prop} {place keyPlace namePlace valuePlace : Place} {i : Nat}
variable {name text first second third : Text}
variable {key value target fallback argument : Node} {computed : Bool}

section Keys

/-- The value is the key as it is read back, in brackets or not. -/
def IsKey (key : Node) (computed : Bool) (value : List Part) : Prop :=
  ∃ part m, value = [part] ∧ part.key? = some (m, computed) ∧ m.unplaced = key.asRead

theorem IsNode.isKey {value : List Part} (h : IsNode key value) : IsKey key false value := by
  obtain ⟨m, rfl, same⟩ := h
  exact ⟨.node m, m, rfl, rfl, same⟩

/-- In objects and bindings a key may be spelled like a word. -/
theorem denotes_nameKey (isName : IsName name) :
    DenotesNamed (.nonterminal .key) name (IsKey ⟨place, .identifier name⟩ false) := by
  refine .alone (i := 0) (by decide) rfl rfl (.name isName) ?_
  rintro value ⟨t, word, rfl⟩
  obtain ⟨part, built, good⟩ := apply_identifier t word
  exact ⟨[part], build_of_apply built, good.isKey⟩

theorem denotes_freeKey (free : IsFreeName name) :
    Denotes (.nonterminal .key) name (IsKey ⟨place, .identifier name⟩ false) :=
  (denotes_token (i := 0) (.name free) (by decide) rfl rfl apply_identifier).mono
    fun _ => IsNode.isKey

theorem denotes_stringKey {value : Text} {spelling : Option Text} (isToken : Scan.IsStringToken text)
    (read : Text.unescape text = .ok value) (kept : text = spelling.getD value.quote) :
    Denotes (.nonterminal .key) text (IsKey ⟨place, .string value spelling⟩ false) :=
  (denotes_token (i := 1) (denotes_stringToken isToken) (by decide) rfl rfl
    (apply_string read kept)).mono fun _ => IsNode.isKey

theorem denotes_numberKey {value : Number} (nonempty : text ≠ [])
    (whole : Scan.number text = text.length) (read : Number.read text = .ok value) :
    Denotes (.nonterminal .key) text (IsKey ⟨place, .number value (some text)⟩ false) :=
  (denotes_token (i := 2) (denotes_numberToken nonempty whole) (by decide) rfl rfl
    (apply_number read)).mono fun _ => IsNode.isKey

theorem denotes_computedKey (own : Denotes (.nonterminal .expression) text (IsNode key)) :
    Denotes (.nonterminal .key) ("[" ++ text ++ "]") (IsKey key true) := by
  have opened : Opened ("[" ++ text ++ "]") := ⟨_, _, rfl, by decide, by decide⟩
  have row : Fills _ _ _ := .mark (k := .bracketOpen) (w := "[") (by decide)
    (.keep own (.mark (k := .bracketClose) (by decide) [])
      (.mark (k := .bracketClose) (w := "]") (by decide) .nil))
  rw [List.append_nil, ← List.append_assoc] at row
  refine .production (i := 3) (by decide) rfl rfl opened row ?_
  rintro parts ⟨_, _, ⟨m, rfl, same⟩, rfl, rfl⟩
  exact ⟨_, rfl, .computedKey m, m, rfl, rfl, same⟩

end Keys

section Parameters

variable {params : List Node} {texts : List Text} {slots : List Slot} {V : List Part → Prop}

/-- What reads parameters, or their absence. -/
def parameterSlots (params : List Node) : List Slot :=
  if params.isEmpty then [.absent] else [.keep (.nonterminal .params)]

theorem separates_params : Separates .moreParams .param := by
  constructor <;> decide

theorem DenoteItems.opened {item : Nonterminal} (own : DenoteItems item params texts)
    (some : params ≠ []) : Opened (Layout.commas texts) := by
  cases own with
  | nil => exact absurd rfl some
  | cons first others =>
    obtain ⟨words, phrase, -⟩ := first
    cases others with
    | nil => simpa [Layout.commas, Text.join] using phrase.opened
    | cons =>
      simpa [Layout.commas, Text.join, List.intercalate_cons_cons] using phrase.opened.append _

theorem denotes_params (some : params ≠ []) (own : DenoteItems .param params texts) :
    Denotes (.nonterminal .params) (Layout.commas texts) (IsList params) := by
  have row : Fills _ _ _ := .itemsFirst separates_params (by decide) own .nil .nil
  rw [List.append_nil, List.append_nil] at row
  have found : ∃ i ∈ core .params, barred .params i = [] ∧ Nonterminal.params.productions[i]? =
      Option.some ⟨.params, itemSlots .param .moreParams params.length, Option.some .nodes⟩ := by
    match params with
    | [_] => exact ⟨3, by decide, rfl, rfl⟩
    | _ :: _ :: _ => exact ⟨1, by decide, rfl, rfl⟩
  have opened : Opened (Layout.commas texts) := own.opened some
  obtain ⟨i, mem, open_, found⟩ := found
  refine .production mem found open_ opened row ?_
  rintro parts ⟨value, _, nodes, rfl, rfl⟩
  rw [List.append_nil]
  exact ⟨_, rfl, _, rfl, nodes.compact⟩

/-- Parameters in parentheses, before what else there is to read. -/
theorem FillsBefore.parameters (own : DenoteItems .param params texts)
    (rest : FillsBefore Next slots text V) :
    FillsBefore Next
      (.skip .parenOpen :: (parameterSlots params ++ .skip .parenClose :: slots))
      ("(" ++ (Layout.commas texts ++ (")" ++ text))) fun parts =>
        ∃ part ms others, part.list? = some ms ∧ ms.map Node.unplaced = params.map Node.asRead ∧
          V others ∧ parts = part :: others := by
  have closed := rest.mark (k := .parenClose) (w := ")") (by decide)
  cases own with
  | nil =>
    refine (closed.absent.mark (k := .parenOpen) (w := "(") (by decide)).mono ?_
    rintro _ ⟨others, holds, rfl⟩
    exact ⟨.absent, [], others, rfl, rfl, holds, rfl⟩
  | cons first others =>
    have listed := denotes_params (List.cons_ne_nil _ _) (.cons first others)
    refine ((closed.keep listed (.mark (k := .parenClose) (by decide) _)).mark
      (k := .parenOpen) (w := "(") (by decide)).mono ?_
    rintro _ ⟨_, others, ⟨ms, rfl, alike⟩, holds, rfl⟩
    exact ⟨.nodes ms, ms, others, rfl, alike, holds, rfl⟩

end Parameters

section Items

variable {item : Nonterminal} {x : Symbol} {texts : List Text} {params : List Node} {body : Node}

/-- A key, a colon and what it stands for, in an object or in a binding. -/
theorem denotes_property (named : .nonterminal item ∈ namedSymbols) (mem : i ∈ core item)
    (found : item.productions[i]? =
      some ⟨item, [.keep (.nonterminal .key), .skip .colon, .keep x], some .property⟩)
    (open_ : barred item i = [])
    (own : DenotesNamed (.nonterminal .key) first (IsKey key computed))
    (other : Denotes x second (IsNode value)) :
    DenotesItem item ⟨place, .objectProperty key value computed false⟩ (first ++ ": " ++ second) := by
  have row : Fills _ _ _ := .mark (k := .colon) (w := ":") (by decide)
    (.gap blank_space (.last other fun _ => id))
  have text_eq : first ++ ": " ++ second = first ++ (":" ++ (" " ++ second)) := by
    simp [Text.ofString]
  rw [text_eq]
  refine .of_named named (.production mem found open_ own (.mark (k := .colon) (by decide) _) row ?_)
  rintro _ _ ⟨part, m, rfl, known, same⟩ ⟨n, rfl, same'⟩
  refine ⟨[.node ⟨m.place, .objectProperty m n computed false⟩], build_of_apply ?_, .intro ?_⟩
  · simp [Build.apply, Build.property, known]
  · simp [Form.map, Form.asRead, same, same']

/-- A name that is both the key and what it stands for. -/
theorem denotes_shorthand (named : .nonterminal item ∈ namedSymbols) (mem : i ∈ core item)
    (found : item.productions[i]? = some ⟨item, [.keep (.terminal .name)], some .shorthand⟩)
    (open_ : barred item i = []) (isName : IsName name) :
    DenotesItem item
      ⟨place, .objectProperty ⟨keyPlace, .identifier name⟩ ⟨namePlace, .identifier name⟩ false true⟩
      name := by
  refine .of_named named (.alone mem found open_ (.name isName) ?_)
  rintro _ ⟨t, word, rfl⟩
  obtain rfl : t.text = name := congrArg Word.text word
  exact ⟨_, build_of_apply rfl, .intro rfl⟩

theorem denotes_shorthandDefault (isName : IsName name)
    (other : Denotes (.nonterminal .expression) second (IsNode fallback)) :
    DenotesItem .patternProperty
      ⟨place, .objectProperty ⟨keyPlace, .identifier name⟩
        ⟨valuePlace, .assignmentPattern ⟨namePlace, .identifier name⟩ fallback⟩ false true⟩
      (name ++ " = " ++ second) := by
  have row : Fills _ _ _ := .gap blank_space
    (.spaced (k := .assign) (w := "=") (by decide) (.last other fun _ => id))
  have text_eq : name ++ " = " ++ second = name ++ (" " ++ ("=" ++ (" " ++ second))) := by
    simp [Text.ofString]
  rw [text_eq]
  refine .of_named (by decide) (.production (i := 1) (by decide) rfl rfl (.name isName) (.space _)
    row ?_)
  rintro _ _ ⟨t, word, rfl⟩ ⟨n, rfl, same⟩
  obtain rfl : t.text = name := congrArg Word.text word
  refine ⟨_, build_of_apply rfl, .intro ?_⟩
  simp [Form.map, Form.asRead, Build.identifier, Node.unplaced_mk, Node.asRead_mk, Node.plain, same]

theorem denotes_propertyDefault
    (own : DenotesNamed (.nonterminal .key) first (IsKey key computed))
    (other : Denotes (.nonterminal .pattern) second (IsNode target))
    (last : Denotes (.nonterminal .expression) third (IsNode fallback)) :
    DenotesItem .patternProperty
      ⟨place, .objectProperty key ⟨valuePlace, .assignmentPattern target fallback⟩ computed false⟩
      (first ++ ": " ++ (second ++ " = " ++ third)) := by
  have row : Fills _ _ _ := .mark (k := .colon) (w := ":") (by decide)
    (.gap blank_space (.keep other (.space _) (.gap blank_space
      (.spaced (k := .assign) (w := "=") (by decide) (.last last fun _ => id)))))
  have text_eq : first ++ ": " ++ (second ++ " = " ++ third) =
      first ++ (":" ++ (" " ++ (second ++ (" " ++ ("=" ++ (" " ++ third)))))) := by
    simp [Text.ofString]
  rw [text_eq]
  refine .of_named (by decide) (.production (i := 3) (by decide) rfl rfl own
    (.mark (k := .colon) (by decide) _) row ?_)
  rintro _ _ ⟨part, m, rfl, known, same⟩ ⟨_, _, ⟨n, rfl, same'⟩, ⟨d, rfl, same''⟩, rfl⟩
  refine ⟨[.node ⟨m.place, .objectProperty m ⟨n.place, .assignmentPattern n d⟩ computed false⟩],
    build_of_apply ?_, .intro ?_⟩
  · simp [Build.apply, Build.propertyDefault, known]
  · simp [Form.map, Form.asRead, same, Node.unplaced_mk, Node.asRead_mk, same', same'']

theorem denotes_method
    (own : DenotesNamed (.nonterminal .key) first (IsKey key computed))
    (others : DenoteItems .param params texts)
    (last : Denotes (.nonterminal .block) second (IsNode body)) :
    DenotesItem .objectMember ⟨place, .objectMethod key params body computed⟩
      (first ++ "(" ++ Layout.commas texts ++ ") " ++ second) := by
  have row : Fills _ _ _ := FillsBefore.parameters others (.gap blank_space (.last last fun _ => id))
  have text_eq : first ++ "(" ++ Layout.commas texts ++ ") " ++ second =
      first ++ ("(" ++ (Layout.commas texts ++ (")" ++ (" " ++ second)))) := by
    simp [Text.ofString]
  have found : ∃ i ∈ core .objectMember, barred .objectMember i = [] ∧
      Nonterminal.objectMember.productions[i]? = some ⟨.objectMember,
        .keep (.nonterminal .key) :: .skip .parenOpen ::
          (parameterSlots params ++ [.skip .parenClose, .keep (.nonterminal .block)]),
        some .objectMethod⟩ := by
    rw [parameterSlots]
    split
    · exact ⟨3, by decide, rfl, rfl⟩
    · exact ⟨2, by decide, rfl, rfl⟩
  obtain ⟨i, mem, open_, found⟩ := found
  rw [text_eq]
  refine .of_named (by decide) (.production mem found open_ own (.mark (k := .parenOpen) (by decide) _)
    row ?_)
  rintro _ _ ⟨part, m, rfl, known, same⟩ ⟨part', ms, _, listed, same', ⟨n, rfl, same''⟩, rfl⟩
  refine ⟨[.node ⟨m.place, .objectMethod m ms n computed⟩], build_of_apply ?_, .intro ?_⟩
  · simp [Build.apply, Build.objectMethod, known, listed]
  · simp [Form.map, Form.asRead, same, same', same'']

/-- What an ellipsis stands before, in a list or in a binding. -/
theorem denotes_ellipsis (form : Node → Form Node) {action : Action} (mem : i ∈ core item)
    (found : item.productions[i]? = some ⟨item, [.skip .ellipsis, .keep x], some action⟩)
    (open_ : barred item i = [])
    (apply_eq : ∀ m : Node, Build.apply action [.node m] = .ok (.node ⟨m.place, form m⟩))
    (alike : ∀ m : Node, m.unplaced = argument.asRead →
      (form m).map Node.unplaced = ((form argument).map Node.asRead).asRead)
    (own : Denotes x first (IsNode argument)) :
    Denotes (.nonterminal item) ("..." ++ first) (IsNode ⟨place, form argument⟩) := by
  have opened : Opened ("..." ++ first) := ⟨_, _, rfl, by decide, by decide⟩
  refine .production mem found open_ opened (.ellipsis (.last own fun _ => id)) ?_
  rintro parts ⟨m, rfl, same⟩
  exact ⟨_, build_of_apply (apply_eq m), .intro (alike m same)⟩

/-- The rest of an object is a name. -/
theorem denotes_restName (free : IsFreeName name) :
    Denotes (.nonterminal .patternProperty) ("..." ++ name)
      (IsNode ⟨place, .restElement ⟨keyPlace, .identifier name⟩⟩) := by
  have opened : Opened ("..." ++ name) := ⟨_, _, rfl, by decide, by decide⟩
  refine .production (i := 4) (by decide) rfl rfl opened
    (.ellipsis (.last (Denotes.name free) fun _ => id)) ?_
  rintro parts ⟨t, word, rfl⟩
  obtain rfl : t.text = name := congrArg Word.text word
  exact ⟨_, build_of_apply rfl, .intro rfl⟩

end Items

section Braces

variable {list item more : Nonterminal} {action : Action} {ns : List Node} {texts : List Text}
variable {V : List Part → Prop}

theorem bracketed_object :
    Bracketed .object .objectMember .moreMembers .braceOpen .braceClose .object := by
  constructor
  · constructor <;> decide
  · decide

theorem bracketed_objectPattern :
    Bracketed .pattern .patternProperty .moreProperties .braceOpen .braceClose .objectPattern := by
  constructor
  · constructor <;> decide
  · decide

theorem bracketed_arrayPattern :
    Bracketed .pattern .patternElement .moreElements .bracketOpen .bracketClose .arrayPattern := by
  constructor
  · constructor <;> decide
  · decide

/-- Items on one line between braces, which stand apart from them. -/
def bracesText (texts : List Text) : Text :=
  if texts.isEmpty then "\x7b\x7d" else "\x7b " ++ Layout.commas texts ++ " \x7d"

/-- Items between braces, before what else there is to read. -/
theorem FillsBefore.braced {slots : List Slot} (h : Separates more item)
    (own : DenoteItems item ns texts) (rest : FillsBefore Next slots text V) :
    FillsBefore Next (.skip .braceOpen :: (itemSlots item more ns.length ++ .skip .braceClose :: slots))
      (bracesText texts ++ text) fun parts =>
        ∃ value others, AreNodes ns value ∧ V others ∧ parts = value ++ others := by
  have closed := rest.mark (k := .braceClose) (w := "\x7d") (by decide)
  have detached := Detached.mark (k := .braceClose) (w := "\x7d") (by decide) text
  cases own with
  | nil =>
    refine (closed.mark (k := .braceOpen) (w := "\x7b") (by decide)).mono ?_
    exact fun parts holds => ⟨[], parts, ⟨[], rfl, rfl⟩, holds, rfl⟩
  | @cons n t ns texts first others =>
    have blank : ∀ c ∈ Text.ofString " " ++ (Text.ofString " " ++ []), Scan.isSpace c = true :=
      List.all_eq_true.mp rfl
    have row : FillsBefore Next _ _ _ := .listed (k := .braceOpen) (w := "\x7b") h (by decide) blank
      (.cons first others) (.space _) (.gap blank_space closed)
    rw [← commas_eq] at row
    have text_eq : bracesText (t :: texts) ++ text =
        "\x7b" ++ (" " ++ (Layout.commas (t :: texts) ++ (" " ++ ("\x7d" ++ text)))) := by
      simp [bracesText, Text.ofString]
    rwa [text_eq]

theorem denotes_braces (h : Bracketed list item more .braceOpen .braceClose action)
    (own : DenoteItems item ns texts)
    (build : ∀ parts, AreNodes ns parts → ∃ part, Build.apply action parts = .ok part ∧ V [part]) :
    Denotes (.nonterminal list) (bracesText texts) V := by
  have row : Fills _ _ _ := .braced h.separates own .nil
  rw [List.append_nil] at row
  have opened : Opened (bracesText texts) := by
    rw [bracesText]
    split <;> exact ⟨_, _, rfl, by decide, by decide⟩
  obtain ⟨i, inside, open_, found⟩ := h.productions _ (Nat.min_le_right ns.length 2)
  rw [itemSlots_min] at found
  refine .production inside found open_ opened row ?_
  rintro _ ⟨value, _, nodes, rfl, rfl⟩
  obtain ⟨part, built, good⟩ := build value nodes
  rw [List.append_nil]
  exact ⟨[part], build_of_apply built, good⟩

variable {properties : List Node}

theorem denotes_object (own : DenoteItems .objectMember properties texts) :
    Denotes (.nonterminal .object) (bracesText texts) (IsNode ⟨place, .objectExpression properties⟩) :=
  denotes_braces bracketed_object own fun _ nodes =>
    ⟨_, rfl, .intro (by simp [Form.map, Form.asRead, nodes.compact])⟩

theorem denotes_objectLines (own : DenoteItems .objectMember properties texts) (depth : Nat) :
    Denotes (.nonterminal .object) (Layout.lines "\x7b" "," "\x7d" depth texts)
      (IsNode ⟨place, .objectExpression properties⟩) :=
  denotes_lines bracketed_object ⟨by decide, by decide⟩ own
    (fun _ nodes => ⟨_, rfl, .intro (by simp [Form.map, Form.asRead, nodes.compact])⟩) depth

theorem denotes_objectPattern (own : DenoteItems .patternProperty properties texts) :
    Denotes (.nonterminal .pattern) (bracesText texts) (IsNode ⟨place, .objectPattern properties⟩) :=
  denotes_braces bracketed_objectPattern own fun _ nodes =>
    ⟨_, rfl, .intro (by simp [Form.map, Form.asRead, nodes.compact])⟩

theorem denotes_arrayPattern (own : DenoteItems .patternElement properties texts) :
    Denotes (.nonterminal .pattern) ("[" ++ Layout.commas texts ++ "]")
      (IsNode ⟨place, .arrayPattern properties⟩) := by
  rw [List.append_assoc]
  exact denotes_commas bracketed_arrayPattern ⟨by decide, by decide⟩ own fun _ nodes =>
    ⟨_, rfl, .intro (by simp [Form.map, Form.asRead, nodes.compact])⟩

/-- A binding with a default, among parameters or elements. -/
theorem denotes_default (mem : i ∈ core item)
    (found : item.productions[i]? = some ⟨item,
      [.keep (.nonterminal .pattern), .skip .assign, .keep (.nonterminal .expression)],
      some .assignmentPattern⟩) (open_ : barred item i = [])
    (own : Denotes (.nonterminal .pattern) first (IsNode target))
    (other : Denotes (.nonterminal .expression) second (IsNode fallback)) :
    Denotes (.nonterminal item) (first ++ " = " ++ second)
      (IsNode ⟨place, .assignmentPattern target fallback⟩) := by
  have row : Fills _ _ _ := .keep own (.space _) (.gap blank_space
    (.spaced (k := .assign) (w := "=") (by decide) (.last other fun _ => id)))
  have text_eq : first ++ " = " ++ second = first ++ (" " ++ ("=" ++ (" " ++ second))) := by
    simp [Text.ofString]
  rw [text_eq]
  refine .production mem found open_ (own.opened.append _) row ?_
  rintro parts ⟨_, _, ⟨m, rfl, same⟩, ⟨n, rfl, same'⟩, rfl⟩
  exact ⟨_, build_of_apply rfl, .intro (by simp [Form.map, Form.asRead, same, same'])⟩

end Braces

end Hyperscript.Grammar
