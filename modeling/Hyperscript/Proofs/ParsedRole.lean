import Hyperscript.Proofs.Derivation
import Hyperscript.Proofs.QuotedText
import Hyperscript.Proofs.Role

/-!
# Roles in parsed trees

The actions of the grammar put markup only where its role asks for it: whatever a symbol derives
plays the role of the symbol. So the tree of a text is code, with markup inside elements only. The
strings of this code are spelled as strings, and the bodies of its methods are blocks.
-/
namespace Hyperscript

/-- The spelling of a string is a string, and its value is what the spelling stands for. -/
def Node.IsSpelled (n : Node) : Prop :=
  match n.form with
  | .string value (some spelling) =>
    Grammar.Scan.IsString spelling ∧ Text.unescape spelling = .ok value
  | _ => True

/-- The node plays the role, and so do its parts, as far as a text can say. -/
abbrev Node.Parsed : Role → Node → Prop := Node.Fits Node.IsSpelled .full

namespace Grammar

/-- Every node of the part plays the role. Lists and keys in brackets are made of code only. -/
@[simp] def Part.Fits (r : Role) : Part → Prop
  | .node n => n.Parsed r
  | .nodes ns => ∀ n ∈ ns, n.Parsed .code
  | .computedKey n => n.Parsed .code
  | .token t => t.Scanned
  | .absent | .word _ => True

/-- Actions that build markup. The other ones build code from code. -/
@[simp] def Action.isMarkup : Action → Bool
  | .pairedElement | .selfClosingElement | .jsxText | .container | .emptyContainer | .jsxIdentifier
  | .jsxNamespacedName | .jsxMember | .jsxAttribute | .jsxSpreadAttribute | .jsxString => .true
  | _ => .false

namespace Part

variable {r : Role} {parts : List Part}

theorem fits_compact (fits : ∀ p ∈ parts, p.Fits r) : ∀ n ∈ compact parts, n.Parsed r := by
  intro n hn
  obtain ⟨p, hp, found⟩ := List.mem_filterMap.mp hn
  cases p <;> simp only [node?, Option.some.injEq, reduceCtorEq] at found
  subst found
  exact fits _ hp

theorem fits_list {p : Part} {ns : List Node} (fits : p.Fits r) (h : p.list? = some ns) :
    ∀ n ∈ ns, n.Parsed .code := by
  cases p <;> simp only [list?, Option.some.injEq, reduceCtorEq] at h <;> subst h
  · exact fun n hn => absurd hn List.not_mem_nil
  · exact fits

theorem fits_optional {p : Part} {n : Option Node} (fits : p.Fits r) (h : p.optional? = some n) :
    ∀ m ∈ n.toList, m.Parsed r := by
  cases p <;> simp only [optional?, Option.some.injEq, reduceCtorEq] at h <;> subst h
  · exact fun m hm => absurd hm List.not_mem_nil
  · intro m hm
    rw [Option.toList_some, List.mem_singleton] at hm
    exact hm ▸ fits

theorem fits_key {p : Part} {n : Node} {computed : Bool} (fits : p.Fits .code)
    (h : p.key? = some (n, computed)) : n.Parsed .code := by
  cases p <;> simp only [key?, Option.some.injEq, Prod.mk.injEq, reduceCtorEq] at h
  · exact h.1 ▸ fits
  · exact h.1 ▸ fits

end Part

/-- A nonterminal whose productions all make the same kind of list. -/
theorem derives_list {a : Nonterminal} (action : Action) (form : List Node → Form Node)
    {word : List Token} {value : List Part} (all : ∀ p ∈ a.productions, p.action = some action)
    (made : ∀ parts, ∃ place ns, Build.apply action parts = .ok (.node ⟨place, form ns⟩))
    (h : Derives (.nonterminal a) word value) : ∃ place ns, value = [.node ⟨place, form ns⟩] := by
  cases h with
  | @production _ p _ parts _ member reads built =>
    rw [Production.build, all p member] at built
    obtain ⟨part, applied, rfl⟩ := ok_of_map built
    obtain ⟨place, ns, same⟩ := made parts
    cases applied.symm.trans same
    exact ⟨place, ns, rfl⟩

/-- The last of the parts are a value of the symbol. -/
def EndsIn (s : Symbol) (parts : List Part) : Prop :=
  ∃ before word value, parts = before ++ value ∧ Derives s word value

theorem EndsIn.token {k : Terminal} {parts : List Part} (h : EndsIn (.terminal k) parts) :
    ∃ t : Token, t.kind = k ∧ parts.getLast? = some (.token t) := by
  obtain ⟨before, word, value, rfl, derives⟩ := h
  obtain ⟨t, kind, -, rfl⟩ := derives.terminal_inv
  exact ⟨t, kind, List.getLast?_concat⟩

theorem EndsIn.block {parts : List Part} (h : EndsIn (.nonterminal .block) parts) :
    ∃ n : Node, n.isBlock = true ∧ parts.getLast? = some (.node n) := by
  obtain ⟨before, word, value, rfl, derives⟩ := h
  obtain ⟨place, ns, rfl⟩ :=
    derives_list .block .block (by decide) (fun _ => ⟨_, _, rfl⟩) derives
  exact ⟨_, rfl, List.getLast?_concat⟩

/-- The symbol whose value the action takes last, where more than the role of it matters. -/
@[simp] def Action.last? : Action → Option Symbol
  | .string | .importFrom | .importBare => some (.terminal .string)
  | .objectMethod | .classMethod => some (.nonterminal .block)
  | _ => none

namespace Build

open Node (fits_mk)

/-- The node that a form of code makes from code. -/
theorem fits_code {place : Place} {form : Form Node} (plain : form.isCode .full = true)
    (keeps : Node.Keeps Node.IsSpelled ⟨place, form⟩)
    (parts : ∀ part ∈ form.parts .code, part.2.Parsed part.1) :
    Node.Parsed .code ⟨place, form⟩ := .intro plain (fun _ => keeps) parts

theorem fits_identifier (t : Token) : (identifier t).Parsed .name ∧
    (identifier t).Parsed .code := by
  simp [identifier, fits_mk]

theorem fits_plain_identifier (name : Text) :
    (Node.plain (.identifier name)).Parsed .name ∧
      (Node.plain (.identifier name)).Parsed .code := by
  simp [Node.plain, fits_mk]

theorem isString_of_scanned {t : Token} (kind : t.kind = .string) (scanned : t.Scanned) :
    Scan.IsString t.text := by
  obtain ⟨whole, found, same⟩ := scanned Scan.string (by simp [kind, Scan.classes])
  exact same ▸ Scan.isString_take found

theorem fits_string {t : Token} {n : Node} (kind : t.kind = .string) (scanned : t.Scanned)
    (h : string t = .ok n) : n.Parsed .code := by
  simp only [string] at h
  split at h <;> cases h
  rename_i value
  simp [fits_mk, Node.IsSpelled, isString_of_scanned kind scanned, value]

theorem fits_number {t : Token} {n : Node} (h : number t = .ok n) : n.Parsed .code := by
  simp only [number] at h
  split at h <;> cases h
  simp [fits_mk]

theorem fits_asDeclaration {n : Node} (h : n.Parsed .code) :
    (asDeclaration n).Parsed .code := by
  obtain ⟨place, form⟩ := n
  have parts := (fits_mk.mp h).2.2
  cases form <;> first | exact h | exact fits_code rfl trivial parts

theorem fits_asStatement {n : Node} (h : n.Parsed .code) :
    (asStatement n).Parsed .code := by
  simp only [asStatement]
  split
  · exact fits_asDeclaration h
  · exact fits_asDeclaration h
  · refine fits_code rfl trivial ?_
    simpa using h

theorem fits_decorate {decorators : List Node} {n : Node}
    (above : ∀ d ∈ decorators, d.Parsed .code) (h : n.Parsed .code) :
    (decorate decorators n).Parsed .code := by
  have own := fits_asDeclaration h
  simp only [decorate]
  generalize asDeclaration n = declaration at own
  obtain ⟨place, form⟩ := declaration
  have parts := (fits_mk.mp own).2.2
  split
  · rename_i id superClass body decorated same
    subst same
    refine fits_code rfl trivial ?_
    intro part member
    simp only [Form.parts, List.map_append, List.mem_append] at member parts
    rcases member with front | (new | old)
    · exact parts part (.inl front)
    · obtain ⟨d, hd, rfl⟩ := List.mem_map.mp new
      exact above d hd
    · exact parts part (.inr old)
  · have keeps := own.keeps nofun
    refine .intro own.plays (fun _ => ?_) parts
    exact @Node.keeps_elsewhere _ _ place _ form (fun spelled => spelled) keeps

theorem fits_decorated {parts : List Part} {n : Node} (fits : ∀ p ∈ parts, p.Fits .code)
    (h : decorated? parts = some n) : n.Parsed .code := by
  simp only [decorated?] at h
  split at h
  · rename_i m last
    cases h
    refine fits_decorate ?_ (fits _ (List.mem_of_getLast? last))
    intro d hd
    have member := (List.mem_filter.mp hd).1
    exact Part.fits_compact (fun p hp => fits p (List.dropLast_subset parts hp)) d member
  · cases h

/-- The parts of a node of code, all of which are code. -/
theorem fits_children {place : Place} {form : Form Node} (h : Node.Parsed .code ⟨place, form⟩)
    (plain : form.parts .code = form.children.map (.code, ·)) :
    ∀ c ∈ form.children, c.Parsed .code := by
  intro c hc
  have parts := (fits_mk.mp h).2.2
  rw [plain] at parts
  exact parts (.code, c) (List.mem_map.mpr ⟨c, hc, rfl⟩)

theorem fits_toPatterns {ns patterns : List Node}
    (each : ∀ n ∈ ns, ∀ p, toPattern n = .ok p → p.Parsed .code)
    (h : toPatterns ns = .ok patterns) : ∀ p ∈ patterns, p.Parsed .code := by
  induction ns generalizing patterns with
  | nil =>
    cases h
    exact fun p hp => absurd hp List.not_mem_nil
  | cons n rest ih =>
    obtain ⟨first, found, h⟩ := ok_of_bind h
    obtain ⟨others, foundOthers, h⟩ := ok_of_bind h
    cases h
    intro p hp
    rcases List.mem_cons.mp hp with rfl | later
    · exact each n List.mem_cons_self p found
    · exact ih (fun m hm => each m (List.mem_cons_of_mem n hm)) foundOthers p later

theorem fits_toPatternProperties {ns patterns : List Node}
    (fits : ∀ n ∈ ns, n.Parsed .code)
    (each : ∀ n ∈ ns, ∀ c ∈ n.children, c.Parsed .code →
      ∀ p, toPattern c = .ok p → p.Parsed .code)
    (h : toPatternProperties ns = .ok patterns) : ∀ p ∈ patterns, p.Parsed .code := by
  induction ns generalizing patterns with
  | nil =>
    cases h
    exact fun p hp => absurd hp List.not_mem_nil
  | cons n rest ih =>
    have later {others : List Node} (found : toPatternProperties rest = .ok others) :=
      ih (fun m hm => fits m (List.mem_cons_of_mem n hm))
        (fun m hm => each m (List.mem_cons_of_mem n hm)) found
    obtain ⟨place, form⟩ := n
    have own := fits ⟨place, form⟩ List.mem_cons_self
    have below := each ⟨place, form⟩ List.mem_cons_self
    cases form <;> simp only [toPatternProperties, reduceCtorEq] at h
    case objectProperty key value computed shorthand =>
      obtain ⟨pattern, found, h⟩ := ok_of_bind h
      obtain ⟨others, foundOthers, h⟩ := ok_of_bind h
      cases h
      have parts := fits_children own rfl
      have key := parts key (by simp)
      have pattern := below value (by simp [Node.children])
        (parts value (by simp)) pattern found
      intro p hp
      rcases List.mem_cons.mp hp with rfl | rest
      · exact fits_code rfl trivial (by simp [key, pattern])
      · exact later foundOthers p rest
    case spread argument =>
      obtain ⟨pattern, found, h⟩ := ok_of_bind h
      obtain ⟨others, foundOthers, h⟩ := ok_of_bind h
      cases h
      have pattern := below argument (by simp [Node.children])
        (fits_children own rfl argument (by simp)) pattern found
      intro p hp
      rcases List.mem_cons.mp hp with rfl | rest
      · exact fits_code rfl trivial (by simp [pattern])
      · exact later foundOthers p rest

/-- Bindings that are read off expressions are code like these. -/
theorem fits_toPattern {n pattern : Node} (fits : n.Parsed .code)
    (h : toPattern n = .ok pattern) : pattern.Parsed .code := by
  induction n using Node.walkInduction generalizing pattern with
  | step n ih =>
    obtain ⟨place, form⟩ := n
    have below {c p : Node} (hc : c ∈ form.children) (own : c.Parsed .code)
        (found : toPattern c = .ok p) : p.Parsed .code :=
      ih c hc c (Node.self_mem_walk c) own found
    cases form <;> simp only [toPattern, reduceCtorEq] at h
    case identifier =>
      cases h
      exact fits
    case assignment operator left right =>
      split at h
      · obtain ⟨target, found, rfl⟩ := ok_of_map h
        have parts := fits_children fits rfl
        have target := below (by simp) (parts left (by simp)) found
        have right := parts right (by simp)
        exact fits_code rfl trivial (by simp [target, right])
      · cases h
    case spread argument =>
      obtain ⟨target, found, rfl⟩ := ok_of_map h
      have own := fits_children fits rfl argument (by simp)
      have target := below (by simp) own found
      exact fits_code rfl trivial (by simp [target])
    case arrayExpression elements =>
      obtain ⟨patterns, found, rfl⟩ := ok_of_map h
      have parts := fits_children fits rfl
      have each := fits_toPatterns (fun m hm p found => below hm (parts m hm) found) found
      exact fits_code rfl trivial (by simpa using each)
    case objectExpression properties =>
      obtain ⟨patterns, found, rfl⟩ := ok_of_map h
      have each := fits_toPatternProperties (fits_children fits rfl)
        (fun m hm c hc own p found => ih m hm c (Node.mem_walk_of_mem_children hc c.self_mem_walk)
          own found) found
      exact fits_code rfl trivial (by simpa using each)

section Rows

variable {r s : Role} {parts : List Part} {part : Part}

theorem fits_onNode {f : Node → Part} (make : ∀ n, n.Parsed r → (f n).Fits s)
    (fits : ∀ p ∈ parts, p.Fits r) (h : onNode f parts = .ok part) : part.Fits s := by
  simp only [onNode] at h
  split at h <;> cases h
  exact make _ (by simpa using fits)

theorem fits_onTwoNodes {f : Node → Node → Part}
    (make : ∀ m n, m.Parsed r → n.Parsed r → (f m n).Fits s)
    (fits : ∀ p ∈ parts, p.Fits r) (h : onTwoNodes f parts = .ok part) : part.Fits s := by
  simp only [onTwoNodes] at h
  split at h <;> cases h
  exact make _ _ (fits (.node _) (by simp)) (fits (.node _) (by simp))

theorem fits_onThreeNodes {f : Node → Node → Node → Part}
    (make : ∀ k m n, k.Parsed r → m.Parsed r → n.Parsed r → (f k m n).Fits s)
    (fits : ∀ p ∈ parts, p.Fits r) (h : onThreeNodes f parts = .ok part) : part.Fits s := by
  simp only [onThreeNodes] at h
  split at h <;> cases h
  exact make _ _ _ (fits (.node _) (by simp)) (fits (.node _) (by simp))
    (fits (.node _) (by simp))

theorem fits_onNodeOptional {f : Node → Option Node → Part}
    (make : ∀ n m, n.Parsed r → (∀ k ∈ m.toList, k.Parsed r) → (f n m).Fits s)
    (fits : ∀ p ∈ parts, p.Fits r) (h : onNodeOptional f parts = .ok part) : part.Fits s := by
  simp only [onNodeOptional] at h
  split at h
  · rename_i n last
    split at h <;> cases h
    rename_i m found
    apply make n m (fits (.node n) (by simp))
    exact Part.fits_optional (fits last (by simp)) found
  · cases h

theorem fits_onToken {f : Token → Except ParseError Part}
    (make : ∀ t, f t = .ok part → part.Fits s) (h : onToken f parts = .ok part) : part.Fits s := by
  simp only [onToken] at h
  split at h
  · exact make _ h
  · cases h

theorem fits_onString {f : Node → Part} (fits : ∀ p ∈ parts, p.Fits .code)
    (ends : EndsIn (.terminal .string) parts) (make : ∀ n, n.Parsed .code → (f n).Fits s)
    (h : (onToken fun t => (string t).map f) parts = .ok part) : part.Fits s := by
  obtain ⟨t, kind, last⟩ := ends.token
  simp only [onToken] at h
  split at h
  · cases last
    obtain ⟨n, found, rfl⟩ := ok_of_map h
    exact make n (fits_string kind (fits (.token t) (by simp)) found)
  · cases h

theorem fits_onTokenNode {f : Token → Node → Part} (make : ∀ t n, n.Parsed r → (f t n).Fits s)
    (fits : ∀ p ∈ parts, p.Fits r) (h : onTokenNode f parts = .ok part) : part.Fits s := by
  simp only [onTokenNode] at h
  split at h <;> cases h
  exact make _ _ (fits (.node _) (by simp))

theorem fits_onNodeToken {f : Node → Token → Part} (make : ∀ n t, n.Parsed r → (f n t).Fits s)
    (fits : ∀ p ∈ parts, p.Fits r) (h : onNodeToken f parts = .ok part) : part.Fits s := by
  simp only [onNodeToken] at h
  split at h <;> cases h
  exact make _ _ (fits (.node _) (by simp))

theorem fits_onOperator {f : Node → Token → Node → Part}
    (make : ∀ m t n, m.Parsed r → n.Parsed r → (f m t n).Fits s)
    (fits : ∀ p ∈ parts, p.Fits r) (h : onOperator f parts = .ok part) : part.Fits s := by
  simp only [onOperator] at h
  split at h <;> cases h
  exact make _ _ _ (fits (.node _) (by simp)) (fits (.node _) (by simp))

theorem fits_onRenaming {f : Node → Node → Part}
    (make : ∀ m n, m.Parsed .name → n.Parsed .name → (f m n).Fits s)
    (h : onRenaming f parts = .ok part) : part.Fits s := by
  simp only [onRenaming] at h
  split at h <;> cases h
  · exact make _ _ (fits_identifier _).1 (fits_plain_identifier _).1
  · exact make _ _ (fits_identifier _).1 (fits_identifier _).1

theorem fits_onList {f : List Node → Part}
    (make : ∀ ns, (∀ n ∈ ns, n.Parsed r) → (f ns).Fits s)
    (fits : ∀ p ∈ parts, p.Fits r) (h : onList f parts = .ok part) : part.Fits s := by
  cases h
  exact make _ (Part.fits_compact fits)

theorem fits_onDecorated {f : Node → Part} (make : ∀ n, n.Parsed .code → (f n).Fits s)
    (fits : ∀ p ∈ parts, p.Fits .code) (h : onDecorated f parts = .ok part) : part.Fits s := by
  simp only [onDecorated] at h
  split at h <;> cases h
  rename_i n found
  exact make n (fits_decorated fits found)

end Rows

variable {parts : List Part} {part : Part}

theorem fits_returnStatement (fits : ∀ p ∈ parts, p.Fits .code)
    (h : returnStatement parts = .ok part) : part.Fits .code := by
  simp only [returnStatement] at h
  split at h <;> cases h
  · exact fits_code rfl trivial (by simp)
  · exact fits_code rfl trivial (by simpa using fits)

theorem fits_ifStatement (fits : ∀ p ∈ parts, p.Fits .code) (h : ifStatement parts = .ok part) :
    part.Fits .code := by
  simp only [ifStatement] at h
  split at h
  · rename_i test consequent last
    split at h <;> cases h
    rename_i alternate found
    have test := fits (.node test) (by simp)
    have consequent := fits (.node consequent) (by simp)
    have alternate := Part.fits_optional (fits last (by simp)) found
    exact fits_code rfl trivial (by simp_all)
  · cases h

theorem fits_variableList (fits : ∀ p ∈ parts, p.Fits .code) (h : variableList parts = .ok part) :
    part.Fits .code := by
  simp only [variableList] at h
  split at h <;> cases h
  have rest := Part.fits_compact fun p hp => fits p (List.mem_cons_of_mem _ hp)
  exact fits_code rfl trivial (by simpa using rest)

theorem fits_importFrom (fits : ∀ p ∈ parts, p.Fits .code)
    (ends : EndsIn (.terminal .string) parts) (h : importFrom parts = .ok part) :
    part.Fits .code := by
  obtain ⟨t, kind, last⟩ := ends.token
  simp only [importFrom] at h
  split at h
  · rename_i specifiers _
    cases last
    obtain ⟨source, found, rfl⟩ := ok_of_map h
    have specifiers : ∀ n ∈ specifiers, n.Parsed .code := fits (.nodes specifiers) (by simp)
    have source := fits_string kind (fits (.token t) (by simp)) found
    exact fits_code rfl trivial (by simp_all [or_imp])
  · cases h

theorem fits_decorator (fits : ∀ p ∈ parts, p.Fits .code) (h : decorator parts = .ok part) :
    part.Fits .code := by
  simp only [decorator] at h
  split at h <;> cases h
  · exact fits_code rfl trivial (by simpa using fits)
  · exact fits_code rfl trivial (by simpa [Node.fits_mk] using fits)

theorem fits_property (fits : ∀ p ∈ parts, p.Fits .code) (h : property parts = .ok part) :
    part.Fits .code := by
  simp only [property] at h
  split at h
  · rename_i first value
    split at h <;> cases h
    rename_i key computed found
    have key := Part.fits_key (fits first (by simp)) found
    have value := fits (.node value) (by simp)
    exact fits_code rfl trivial (by simp_all)
  · cases h

theorem fits_propertyDefault (fits : ∀ p ∈ parts, p.Fits .code)
    (h : propertyDefault parts = .ok part) : part.Fits .code := by
  simp only [propertyDefault] at h
  split at h
  · rename_i first target fallback
    split at h <;> cases h
    rename_i key computed found
    have key := Part.fits_key (fits first (by simp)) found
    have target := fits (.node target) (by simp)
    have fallback := fits (.node fallback) (by simp)
    exact fits_code rfl trivial (by simp_all [Node.fits_mk])
  · cases h

theorem fits_objectMethod (fits : ∀ p ∈ parts, p.Fits .code)
    (ends : EndsIn (.nonterminal .block) parts) (h : objectMethod parts = .ok part) :
    part.Fits .code := by
  obtain ⟨body, block, last⟩ := ends.block
  simp only [objectMethod] at h
  split at h
  · rename_i first second _
    cases last
    split at h <;> cases h
    rename_i key computed params foundKey foundParams
    have key := Part.fits_key (fits first (by simp)) foundKey
    have params := Part.fits_list (fits second (by simp)) foundParams
    have body := fits (.node body) (by simp)
    exact fits_code rfl block (by simp_all [or_imp, forall_and])
  · cases h

theorem fits_functionExpression (fits : ∀ p ∈ parts, p.Fits .code)
    (h : functionExpression parts = .ok part) : part.Fits .code := by
  simp only [functionExpression] at h
  split at h
  · rename_i first second body
    split at h <;> cases h
    rename_i name params _ foundParams
    have name : ∀ n ∈ (name.map identifier).toList, n.Parsed .name := by
      cases name <;> simp [fits_identifier]
    have params := Part.fits_list (fits second (by simp)) foundParams
    have body := fits (.node body) (by simp)
    exact fits_code rfl trivial (by simp_all [or_imp, forall_and])
  · cases h

theorem fits_classExpression (fits : ∀ p ∈ parts, p.Fits .code)
    (h : classExpression parts = .ok part) : part.Fits .code := by
  simp only [classExpression] at h
  split at h
  · rename_i first second body
    split at h <;> cases h
    rename_i name superClass _ foundClass
    have name : ∀ n ∈ (name.map identifier).toList, n.Parsed .name := by
      cases name <;> simp [fits_identifier]
    have superClass := Part.fits_optional (fits second (by simp)) foundClass
    have body := fits (.node body) (by simp)
    exact fits_code rfl trivial (by simp_all [or_imp, forall_and])
  · cases h

theorem fits_leadingDecorators (fits : ∀ p ∈ parts, p.Fits .code) (count : Nat) :
    ∀ n ∈ leadingDecorators count parts, n.Parsed .code := by
  intro n hn
  exact Part.fits_compact (fun p hp => fits p (List.mem_of_mem_take hp)) n
    (List.mem_filter.mp hn).1

theorem fits_classMethod (fits : ∀ p ∈ parts, p.Fits .code)
    (ends : EndsIn (.nonterminal .block) parts) (h : classMethod parts = .ok part) :
    part.Fits .code := by
  obtain ⟨body, block, last⟩ := ends.block
  simp only [classMethod] at h
  have above := fits_leadingDecorators fits 5
  have row : ∀ p ∈ parts.drop (parts.length - 5), p.Fits .code := fun p hp =>
    fits p (List.mem_of_mem_drop hp)
  split at h
  · rename_i first accessor third fourth _ same
    have own := congrArg List.getLast? same
    rw [List.getLast?_drop] at own
    split at own
    · cases own
    cases last.symm.trans own
    rw [same] at row
    split at h <;> cases h
    rename_i static key computed params _ foundKey foundParams
    have key := Part.fits_key (row third (by simp)) foundKey
    have params := Part.fits_list (row fourth (by simp)) foundParams
    have body : body.Parsed .code := row (.node body) (by simp)
    exact fits_code rfl block (by simp_all [or_imp, forall_and])
  · cases h

theorem fits_classProperty (fits : ∀ p ∈ parts, p.Fits .code)
    (h : classProperty parts = .ok part) : part.Fits .code := by
  simp only [classProperty] at h
  have above := fits_leadingDecorators fits 3
  have row : ∀ p ∈ parts.drop (parts.length - 3), p.Fits .code := fun p hp =>
    fits p (List.mem_of_mem_drop hp)
  split at h
  · rename_i first second last same
    rw [same] at row
    split at h <;> cases h
    rename_i static key computed value _ foundKey foundValue
    have key := Part.fits_key (row second (by simp)) foundKey
    have value := Part.fits_optional (row last (by simp)) foundValue
    exact fits_code rfl trivial (by simp_all [or_imp, forall_and])
  · cases h

/-- Actions other than those of markup make code of code. -/
theorem fits_apply {action : Action} (code : action.isMarkup = false)
    (fits : ∀ p ∈ parts, p.Fits .code) (ends : ∀ s, action.last? = some s → EndsIn s parts)
    (h : apply action parts = .ok part) : part.Fits .code := by
  cases action <;> simp only [Action.isMarkup, reduceCtorEq] at code <;> simp only [apply] at h
  case program | block | exportSpecifiers | objectPattern | arrayPattern | array | object
      | classBody =>
    refine fits_onList ?_ fits h
    intro ns each
    exact fits_code rfl trivial (by simpa using each)
  case nodes =>
    refine fits_onList ?_ fits h
    exact fun ns each => each
  case throwStatement | restElement | spread =>
    refine fits_onNode ?_ fits h
    intro n own
    exact fits_code rfl trivial (by simpa using own)
  case expressionStatement =>
    refine fits_onNode ?_ fits h
    exact fun n own => fits_asStatement own
  case exportDefault | exportNamed =>
    refine fits_onNode ?_ fits h
    intro n own
    exact fits_code rfl trivial (by simpa using fits_asDeclaration own)
  case computedKey =>
    refine fits_onNode ?_ fits h
    exact fun n own => own
  case assignmentPattern | member | computedMember =>
    refine fits_onTwoNodes ?_ fits h
    intro m n first second
    exact fits_code rfl trivial (by simp [first, second])
  case conditional =>
    refine fits_onThreeNodes ?_ fits h
    intro k m n first second third
    exact fits_code rfl trivial (by simp [first, second, third])
  case declarator =>
    refine fits_onNodeOptional ?_ fits h
    intro n m own other
    exact fits_code rfl trivial (by simp_all)
  case unary | updateLeading =>
    refine fits_onTokenNode ?_ fits h
    intro t n own
    exact fits_code rfl trivial (by simp [own])
  case shorthandDefault =>
    refine fits_onTokenNode ?_ fits h
    intro t n own
    exact fits_code rfl trivial
      (by simp [own, Node.fits_mk, (fits_identifier t).2, (fits_plain_identifier t.text).2])
  case decoratorMember =>
    refine fits_onNodeToken ?_ fits h
    intro n t own
    exact fits_code rfl trivial (by simp [own, (fits_identifier t).2])
  case updateTrailing =>
    refine fits_onNodeToken ?_ fits h
    intro n t own
    exact fits_code rfl trivial (by simp [own])
  case logical | binary =>
    refine fits_onOperator ?_ fits h
    intro m t n left right
    exact fits_code rfl trivial (by simp [left, right])
  case importSpecifier | exportSpecifier =>
    refine fits_onRenaming ?_ h
    intro m n first second
    exact fits_code rfl trivial (by simp [first, second])
  case decoratedClass =>
    refine fits_onDecorated ?_ fits h
    exact fun n own => own
  case decoratedExportDefault | decoratedExportNamed =>
    refine fits_onDecorated ?_ fits h
    intro n own
    exact fits_code rfl trivial (by simp [own])
  case importDefault | importNamespace =>
    refine fits_onToken ?_ h
    rintro t ⟨⟩
    simp [Node.fits_mk, (fits_identifier t).1]
  case importBare =>
    refine fits_onString fits (ends _ rfl) ?_ h
    intro source own
    exact fits_code rfl trivial (by simp [own])
  case identifier =>
    refine fits_onToken ?_ h
    rintro t ⟨⟩
    exact (fits_identifier t).2
  case arrowName =>
    refine fits_onToken ?_ h
    rintro t ⟨⟩
    simp [(fits_identifier t).2]
  case shorthand | restName =>
    refine fits_onToken ?_ h
    rintro t ⟨⟩
    exact fits_code rfl trivial (by simp [(fits_identifier t).2, (fits_plain_identifier t.text).2])
  case word =>
    refine fits_onToken ?_ h
    rintro t ⟨⟩
    trivial
  case this | true | false | null | template =>
    refine fits_onToken ?_ h
    rintro t ⟨⟩
    exact fits_code rfl trivial (by simp)
  case string =>
    refine fits_onString fits (ends _ rfl) ?_ h
    exact fun n own => own
  case number =>
    refine fits_onToken ?_ h
    intro t built
    obtain ⟨n, found, rfl⟩ := ok_of_map built
    exact fits_number found
  case returnStatement => exact fits_returnStatement fits h
  case ifStatement => exact fits_ifStatement fits h
  case variableList => exact fits_variableList fits h
  case importFrom => exact fits_importFrom fits (ends _ rfl) h
  case importClause =>
    cases h
    intro n hn
    obtain ⟨p, hp, inside⟩ := List.mem_flatMap.mp hn
    cases found : p.list? with
    | none => simp [found] at inside
    | some ns => exact Part.fits_list (fits p hp) found n (by simpa [found] using inside)
  case decorator => exact fits_decorator fits h
  case property => exact fits_property fits h
  case propertyDefault => exact fits_propertyDefault fits h
  case assign =>
    simp only [assign] at h
    split at h <;> cases h
    exact fits_code rfl trivial (by simpa using fits)
  case call =>
    simp only [call] at h
    split at h <;> cases h
    exact fits_code rfl trivial (by simpa using fits)
  case objectMethod => exact fits_objectMethod fits (ends _ rfl) h
  case newExpression =>
    simp only [newExpression] at h
    split at h
    · rename_i callee last
      split at h <;> cases h
      rename_i arguments found
      have callee := fits (.node callee) (by simp)
      have arguments := Part.fits_list (fits last (by simp)) found
      exact fits_code rfl trivial (by simp_all)
    · cases h
  case functionExpression => exact fits_functionExpression fits h
  case arrowFunction =>
    simp only [arrowFunction] at h
    split at h <;> cases h
    exact fits_code rfl trivial (by simpa [or_imp, forall_and] using fits)
  case arrowEmpty =>
    cases h
    simp
  case arrowList =>
    obtain ⟨patterns, found, rfl⟩ := ok_of_map h
    have nodes := Part.fits_compact fits
    exact fits_toPatterns (fun n hn p found => fits_toPattern (nodes n hn) found) found
  case classExpression => exact fits_classExpression fits h
  case classMethod => exact fits_classMethod fits (ends _ rfl) h
  case classProperty => exact fits_classProperty fits h
  case emptyMember =>
    cases h
    trivial

theorem fits_jsxIdentifier (t : Token) :
    (jsxIdentifier t).Parsed .tag ∧ (jsxIdentifier t).Parsed .markupName := by
  simp [jsxIdentifier, Node.fits_mk]

theorem fits_jsxNamespacedName {r : Role} (role : r = .tag ∨ r = .markupName)
    (h : jsxNamespacedName parts = .ok part) : part.Fits r := by
  simp only [jsxNamespacedName] at h
  split at h <;> cases h
  rcases role with rfl | rfl <;> simp [Node.fits_mk, fits_jsxIdentifier]

theorem fits_container (fits : ∀ p ∈ parts, p.Fits .code)
    (h : apply .container parts = .ok part) : part.Fits .child ∧ part.Fits .attributeValue := by
  simp only [apply, onNode] at h
  split at h <;> cases h
  rename_i n
  have own : n.Parsed .code := fits (.node n) (by simp)
  have content := own.content
  simp [Node.fits_mk, own, content]

/-- The parts of an element between its tags come apart into attributes and children. -/
theorem fits_element {name : Node} {ns : List Node} (tag : name.Parsed .tag)
    (each : ∀ n ∈ ns, n.Parsed .attribute ∨ n.Parsed .child) (closes : Bool) :
    (element name ns closes).Parsed .code := by
  have sorted (n : Node) : isAttribute n = n.form.plays .full .attribute := by
    obtain ⟨place, form⟩ := n
    cases form <;> rfl
  have apart (n : Node) (child : n.form.plays .full .child = true) :
      n.form.plays .full .attribute = false := by
    obtain ⟨place, form⟩ := n
    cases form <;> simp at child ⊢
  refine fits_code rfl trivial ?_
  intro part member
  simp only [Form.parts, List.mem_append, List.mem_cons, List.mem_map, List.mem_filter,
    sorted] at member
  rcases member with (rfl | ⟨n, ⟨hn, plays⟩, rfl⟩) | ⟨n, ⟨hn, plays⟩, rfl⟩
  · exact tag
  · refine (each n hn).resolve_right ?_
    intro child
    rw [apart n child.plays] at plays
    cases plays
  · refine (each n hn).resolve_left ?_
    intro other
    rw [other.plays] at plays
    cases plays

end Build

/-- The role of what a nonterminal derives. -/
def Nonterminal.role : Nonterminal → Role
  | .children | .child => .child
  | .tagName | .memberName | .memberNameObject => .tag
  | .attributes | .oneAttribute => .attribute
  | .attributeName => .markupName
  | .attributeValue => .attributeValue
  | _ => .code

/-- What the nonterminal derives is always a single part, and actions rely on it. -/
def Nonterminal.isSingle : Nonterminal → Bool
  | .tagName | .memberName | .attributeName => .true
  | _ => .false

/-- The value can be what the symbol stands for. -/
def Symbol.Fits : Symbol → List Part → Prop
  | .terminal _, value => ∃ t : Token, t.Scanned ∧ value = [.token t]
  | .nonterminal a, value =>
    (∀ p ∈ value, p.Fits a.role) ∧ (a.isSingle = true → ∃ p, value = [p])

/-- The parts can be what the slots keep. -/
@[simp] def SlotsFit : List Slot → List Part → Prop
  | [], parts => parts = []
  | .absent :: slots, parts => ∃ rest, parts = .absent :: rest ∧ SlotsFit slots rest
  | .skip _ :: slots, parts => SlotsFit slots parts
  | .keep s :: slots, parts =>
    ∃ value rest, parts = value ++ rest ∧ s.Fits value ∧ SlotsFit slots rest

/-- What the slot keeps plays the role, or is a token. -/
def Slot.suits (r : Role) : Slot → Bool
  | .keep (.nonterminal a) => a.role = r
  | _ => true

def Slot.isSkip : Slot → Bool
  | .skip _ => true
  | _ => false

theorem fits_of_suits {r : Role} {slots : List Slot} {parts : List Part}
    (suits : slots.all (Slot.suits r) = true) (fit : SlotsFit slots parts) :
    ∀ p ∈ parts, p.Fits r := by
  induction slots generalizing parts with
  | nil =>
    cases fit
    exact fun p hp => absurd hp List.not_mem_nil
  | cons slot slots ih =>
    simp only [List.all_cons, Bool.and_eq_true] at suits
    cases slot with
    | absent =>
      obtain ⟨rest, rfl, fit⟩ := fit
      intro p hp
      rcases List.mem_cons.mp hp with rfl | later
      · trivial
      · exact ih suits.2 fit p later
    | skip t => exact ih suits.2 fit
    | keep s =>
      obtain ⟨value, rest, rfl, own, fit⟩ := fit
      intro p hp
      rcases List.mem_append.mp hp with first | later
      · cases s with
        | terminal t =>
          obtain ⟨t, scanned, rfl⟩ := own
          rw [List.mem_singleton.mp first]
          exact scanned
        | nonterminal a =>
          have role : a.role = r := by simpa [Slot.suits] using suits.1
          exact role ▸ own.1 p first
      · exact ih suits.2 fit p later

/-- The last symbol that the slots keep, if no absent part comes after it. -/
def Slot.last? : List Slot → Option Symbol
  | [] => none
  | .keep s :: slots => if slots.all (·.isSkip) then some s else last? slots
  | _ :: slots => last? slots

theorem Reads.eq_nil {slots : List Slot} {word : List Token} {parts : List Part}
    (skips : slots.all (·.isSkip) = true) (h : Reads slots word parts) : parts = [] := by
  induction slots generalizing word parts with
  | nil =>
    cases h
    rfl
  | cons slot slots ih =>
    simp only [List.all_cons, Bool.and_eq_true] at skips
    cases h with
    | skip t reads => exact ih skips.2 reads
    | absent | keep => cases skips.1

theorem Reads.endsIn {slots : List Slot} {word : List Token} {parts : List Part} {s : Symbol}
    (last : Slot.last? slots = some s) (h : Reads slots word parts) : EndsIn s parts := by
  induction slots generalizing word parts with
  | nil => cases last
  | cons slot slots ih =>
    cases h with
    | skip t reads => exact ih last reads
    | absent reads =>
      obtain ⟨before, word, value, rfl, derives⟩ := ih last reads
      exact ⟨.absent :: before, word, value, rfl, derives⟩
    | @keep _ _ first _ value rest own reads =>
      rw [Slot.last?] at last
      split at last
      · rename_i skips
        cases last
        rw [reads.eq_nil skips]
        exact ⟨[], first, value, by simp, own⟩
      · obtain ⟨before, word, after, rfl, derives⟩ := ih last reads
        exact ⟨value ++ before, word, after, by simp, derives⟩

/-- The production makes code of code, or hands on parts in the role of its left side. -/
def Production.isPlain (p : Production) : Bool :=
  match p.action with
  | none => !p.left.isSingle && p.slots.all (Slot.suits p.left.role)
  | some action =>
    !action.isMarkup && p.left.role = .code && !p.left.isSingle &&
      p.slots.all (Slot.suits .code) && (action.last?.all (Slot.last? p.slots = some ·))

theorem fits_of_isPlain {p : Production} {word : List Token} {parts value : List Part}
    (plain : p.isPlain = true) (reads : Reads p.slots word parts) (fit : SlotsFit p.slots parts)
    (built : p.build parts = .ok value) :
    Symbol.Fits (.nonterminal p.left) value := by
  simp only [Production.isPlain] at plain
  simp only [Production.build] at built
  split at built
  · rename_i none
    simp only [none, Bool.and_eq_true, Bool.not_eq_true'] at plain
    cases built
    exact ⟨fits_of_suits plain.2 fit, fun single => absurd single (by simp [plain.1])⟩
  · rename_i action some
    simp only [some, Bool.and_eq_true, Bool.not_eq_true', decide_eq_true_eq] at plain
    obtain ⟨⟨⟨⟨code, role⟩, several⟩, suits⟩, last⟩ := plain
    obtain ⟨part, applied, rfl⟩ := ok_of_map built
    refine ⟨?_, fun single => absurd single (by simp [several])⟩
    intro q hq
    rw [List.mem_singleton.mp hq, role]
    have ends : ∀ s, action.last? = .some s → EndsIn s parts := by
      intro s own
      rw [own] at last
      exact reads.endsIn (of_decide_eq_true last)
    exact Build.fits_apply code (fits_of_suits suits fit) ends applied

theorem slotsFit_append {left right : List Slot} {parts : List Part} :
    SlotsFit (left ++ right) parts ↔
      ∃ first rest, parts = first ++ rest ∧ SlotsFit left first ∧ SlotsFit right rest := by
  induction left generalizing parts with
  | nil =>
    constructor
    · exact fun fit => ⟨[], parts, rfl, rfl, fit⟩
    · rintro ⟨_, rest, rfl, rfl, fit⟩
      exact fit
  | cons slot left ih =>
    cases slot with
    | skip t => exact ih
    | absent =>
      constructor
      · rintro ⟨rest, rfl, fit⟩
        obtain ⟨first, last, rfl, own, others⟩ := ih.mp fit
        exact ⟨.absent :: first, last, rfl, ⟨first, rfl, own⟩, others⟩
      · rintro ⟨_, last, rfl, ⟨first, rfl, own⟩, others⟩
        exact ⟨first ++ last, rfl, ih.mpr ⟨first, last, rfl, own, others⟩⟩
    | keep s =>
      constructor
      · rintro ⟨value, rest, rfl, here, fit⟩
        obtain ⟨first, last, rfl, own, others⟩ := ih.mp fit
        exact ⟨value ++ first, last, by simp, ⟨value, first, rfl, here, own⟩, others⟩
      · rintro ⟨_, last, rfl, ⟨value, first, rfl, here, own⟩, others⟩
        exact ⟨value, first ++ last, by simp, here, ih.mpr ⟨first, last, rfl, own, others⟩⟩

/-- An element is made of its name, its attributes and its children. -/
theorem fits_between {name : Node} {first second : List Part} (tag : name.Parsed .tag)
    (attributes : ∀ p ∈ first, p.Fits .attribute) (children : ∀ p ∈ second, p.Fits .child)
    (closes : Bool) :
    (Build.element name (Part.compact (first ++ second)) closes).Parsed .code := by
  refine Build.fits_element tag ?_ closes
  intro m hm
  rw [Part.compact, List.filterMap_append, List.mem_append] at hm
  rcases hm with hm | hm
  · exact .inl (Part.fits_compact attributes m hm)
  · exact .inr (Part.fits_compact children m hm)

section Elements

variable {parts value : List Part}

theorem fits_paired (left right : List Slot)
    (attributes : left.all (Slot.suits .attribute) = true)
    (children : right.all (Slot.suits .child) = true)
    (fit : SlotsFit (.skip .less :: .keep (.nonterminal .tagName) ::
      (left ++ (right ++ [.skip .closing, .keep (.nonterminal .tagName), .skip .greater]))) parts)
    (built : (Build.apply .pairedElement parts).map ([·]) = .ok value) :
    ∃ n : Node, value = [.node n] ∧ n.Parsed .code := by
  obtain ⟨_, rest, rfl, ⟨tag, single⟩, fit⟩ := fit
  obtain ⟨name, rfl⟩ := single rfl
  obtain ⟨first, rest, rfl, own, fit⟩ := slotsFit_append.mp fit
  obtain ⟨second, _, rfl, others, last⟩ := slotsFit_append.mp fit
  obtain ⟨_, _, rfl, ⟨_, single⟩, rfl⟩ := last
  obtain ⟨closing, rfl⟩ := single rfl
  obtain ⟨part, applied, rfl⟩ := ok_of_map built
  cases name with
  | node n =>
    simp only [Build.apply, Build.paired, List.singleton_append, List.append_nil] at applied
    split at applied
    · obtain ⟨element, made, rfl⟩ := ok_of_map applied
      simp only [Build.pairedElement] at made
      split at made <;> cases made
      refine ⟨_, rfl, ?_⟩
      rw [← List.append_assoc, List.dropLast_concat]
      exact fits_between (tag (.node n) (List.mem_singleton_self _))
        (fits_of_suits attributes own) (fits_of_suits children others) false
    · cases applied
  | _ => cases applied

theorem fits_selfClosing (left : List Slot)
    (attributes : left.all (Slot.suits .attribute) = true)
    (fit : SlotsFit (.skip .less :: .keep (.nonterminal .tagName) ::
      (left ++ [.skip .selfClosing])) parts)
    (built : (Build.apply .selfClosingElement parts).map ([·]) = .ok value) :
    ∃ n : Node, value = [.node n] ∧ n.Parsed .code := by
  obtain ⟨_, rest, rfl, ⟨tag, single⟩, fit⟩ := fit
  obtain ⟨name, rfl⟩ := single rfl
  obtain ⟨first, rest, rfl, own, rfl⟩ := slotsFit_append.mp fit
  obtain ⟨part, applied, rfl⟩ := ok_of_map built
  cases name with
  | node n =>
    cases applied
    refine ⟨_, rfl, ?_⟩
    exact fits_between (tag (.node n) (List.mem_singleton_self _))
      (fits_of_suits attributes own) (fun p hp => absurd hp List.not_mem_nil) true
  | _ => cases applied

theorem fits_elementAlternatives {a : Nonterminal} {p : Production}
    (member : p ∈ elementAlternatives.flatMap (Alternative.productions a))
    (fit : SlotsFit p.slots parts) (built : p.build parts = .ok value) :
    ∃ n : Node, value = [.node n] ∧ n.Parsed .code := by
  simp only [elementAlternatives, builds, Alternative.productions, Piece.consecutive,
    Piece.optional, Piece.keep, Piece.skip, List.flatMap_cons, List.flatMap_nil, List.map_cons,
    List.map_nil, List.append_nil, List.cons_append, List.nil_append, List.mem_cons,
    List.not_mem_nil, or_false] at member
  rcases member with rfl | rfl | rfl | rfl | rfl | rfl
  · exact fits_paired [.keep (.nonterminal .attributes)]
      [.skip .greater, .keep (.nonterminal .children)] rfl rfl fit built
  · exact fits_paired [.keep (.nonterminal .attributes)]
      [.skip .greater] rfl rfl fit built
  · exact fits_paired [] [.skip .greater, .keep (.nonterminal .children)]
      rfl rfl fit built
  · exact fits_paired [] [.skip .greater] rfl rfl fit built
  · exact fits_selfClosing [.keep (.nonterminal .attributes)] rfl fit built
  · exact fits_selfClosing [] rfl fit built

end Elements

/-- The nonterminals with a production that makes markup. -/
def Nonterminal.isMarkup : Nonterminal → Bool
  | .element | .child | .tagName | .memberName | .memberNameObject | .oneAttribute | .attributeName
  | .attributeValue => .true
  | _ => .false

theorem isPlain_of_mem {a : Nonterminal} (code : a.isMarkup = false) :
    ∀ p ∈ a.productions, p.isPlain = true := by
  have all : ∀ b ∈ nonterminals, b.isMarkup = false → ∀ p ∈ b.productions, p.isPlain = true := by
    decide +kernel
  exact all a (mem_nonterminals a) code

section Markup

variable {a : Nonterminal} {parts value : List Part}

/-- A value of one part that plays the role of the nonterminal. -/
theorem fits_single {p : Part} (h : p.Fits a.role) : Symbol.Fits (.nonterminal a) [p] :=
  ⟨fun _ hq => List.mem_singleton.mp hq ▸ h, fun _ => ⟨p, rfl⟩⟩

theorem fits_built {action : Action} {p : Production} (same : p.action = some action)
    (make : ∀ part, Build.apply action parts = .ok part → part.Fits a.role)
    (built : p.build parts = .ok value) : Symbol.Fits (.nonterminal a) value := by
  rw [Production.build, same] at built
  obtain ⟨part, applied, rfl⟩ := ok_of_map built
  exact fits_single (make part applied)

theorem fits_name {p : Production} (role : a.role = .tag ∨ a.role = .markupName)
    (same : p.action = some .jsxIdentifier ∨ p.action = some .jsxNamespacedName)
    (built : p.build parts = .ok value) : Symbol.Fits (.nonterminal a) value := by
  rcases same with same | same
  · refine fits_built same ?_ built
    intro part applied
    refine Build.fits_onToken ?_ applied
    rintro t ⟨⟩
    rcases role with role | role <;> rw [role] <;> simp [Build.fits_jsxIdentifier]
  · exact fits_built same (fun part applied => Build.fits_jsxNamespacedName role applied) built

/-- A production that hands on what another nonterminal of its role stands for. -/
theorem fits_passed (b : Nonterminal) {p : Production} (role : b.role = a.role)
    (single : b.isSingle = true) (same : p.action = none)
    (fit : SlotsFit [.keep (.nonterminal b)] parts) (built : p.build parts = .ok value) :
    Symbol.Fits (.nonterminal a) value := by
  rw [Production.build, same] at built
  cases built
  obtain ⟨_, _, rfl, own, rfl⟩ := fit
  rw [List.append_nil]
  exact ⟨role ▸ own.1, fun _ => own.2 single⟩

theorem fits_member (fit : SlotsFit [.keep (.nonterminal .memberNameObject), .skip .dot,
    .keep (.terminal .jsxName)] parts) {part : Part}
    (h : Build.apply .jsxMember parts = .ok part) : part.Fits .tag := by
  have own : ∀ p ∈ parts, p.Fits .tag := fits_of_suits rfl fit
  refine Build.fits_onNodeToken ?_ own h
  intro n t own
  simp [Node.fits_mk, own, Build.fits_jsxIdentifier]

/-- The name of an attribute comes first, and its value may be left out. -/
theorem fits_attribute {slots : List Slot} (suits : slots.all (Slot.suits .attributeValue) = true)
    (fit : SlotsFit (.keep (.nonterminal .attributeName) :: slots) parts) {part : Part}
    (h : Build.apply .jsxAttribute parts = .ok part) : part.Fits .attribute := by
  obtain ⟨_, rest, rfl, ⟨own, single⟩, fit⟩ := fit
  obtain ⟨name, rfl⟩ := single rfl
  simp only [Build.apply, Build.onNodeOptional] at h
  split at h
  · rename_i n last same
    obtain ⟨rfl, rfl⟩ := List.cons.inj same
    split at h <;> cases h
    rename_i m found
    have name : n.Parsed .markupName := own (.node n) (List.mem_singleton_self _)
    have value :=
      Part.fits_optional (fits_of_suits suits fit last (List.mem_singleton_self _)) found
    refine .intro rfl (fun _ => trivial) ?_
    simpa [name] using value
  · cases h

theorem fits_literal {make : Token → Except ParseError Node} {r : Role} {part : Part}
    (each : ∀ t n, make t = .ok n → n.Parsed r)
    (h : (Build.onToken fun t => (make t).map .node) parts = .ok part) : part.Fits r := by
  refine Build.fits_onToken ?_ h
  intro t built
  obtain ⟨n, made, rfl⟩ := ok_of_map built
  exact each t n made

theorem fits_jsxText {t : Token} {n : Node} (h : Build.jsxText t = .ok n) :
    n.Parsed .child := by
  simp only [Build.jsxText] at h
  split at h <;> cases h
  simp [Node.fits_mk]

theorem fits_jsxString {t : Token} {n : Node} (h : Build.jsxString t = .ok n) :
    n.Parsed .attributeValue := by
  simp only [Build.jsxString] at h
  split at h <;> cases h
  simp [Node.fits_mk]

/-- What a production makes is what its left side stands for. -/
theorem fits_production {p : Production} {word : List Token} (member : p ∈ a.productions)
    (reads : Reads p.slots word parts) (fit : SlotsFit p.slots parts)
    (built : p.build parts = .ok value) : Symbol.Fits (.nonterminal a) value := by
  cases plain : a.isMarkup with
  | false =>
    rw [← left_of_mem_productions member]
    exact fits_of_isPlain (isPlain_of_mem plain p member) reads fit built
  | true =>
    cases a <;> simp only [Nonterminal.isMarkup, reduceCtorEq] at plain <;>
      simp only [Nonterminal.productions, alternatives, builds, passes, token,
        Alternative.productions, Piece.consecutive, Piece.placed, Piece.keep, Piece.skip,
        List.flatMap_cons, List.flatMap_nil, List.map_cons, List.map_nil, List.append_nil,
        List.cons_append, List.nil_append, List.mem_cons, List.not_mem_nil, or_false] at member
    case element =>
      obtain ⟨n, rfl, own⟩ := fits_elementAlternatives member fit built
      exact fits_single own
    case child =>
      rcases member with rfl | rfl | rfl | member
      · refine fits_built rfl ?_ built
        exact fun part applied => fits_literal (fun t n made => fits_jsxText made) applied
      · refine fits_built rfl ?_ built
        exact fun part applied => (Build.fits_container (fits_of_suits rfl fit) applied).1
      · refine fits_built rfl ?_ built
        rintro part ⟨⟩
        simp [Nonterminal.role, Node.plain, Node.fits_mk]
      · obtain ⟨n, rfl, own⟩ := fits_elementAlternatives member fit built
        exact fits_single own.child
    case tagName =>
      rcases member with rfl | rfl | rfl
      · exact fits_name (.inl rfl) (.inl rfl) built
      · exact fits_passed .memberName rfl rfl rfl fit built
      · exact fits_name (.inl rfl) (.inr rfl) built
    case memberName =>
      subst member
      exact fits_built rfl (fun part applied => fits_member fit applied) built
    case memberNameObject =>
      rcases member with rfl | rfl
      · exact fits_name (.inl rfl) (.inl rfl) built
      · exact fits_passed .memberName rfl rfl rfl fit built
    case oneAttribute =>
      rcases member with rfl | rfl | rfl
      · exact fits_built rfl (fun part applied => fits_attribute rfl fit applied) built
      · exact fits_built rfl (fun part applied => fits_attribute rfl fit applied) built
      · refine fits_built rfl ?_ built
        intro part applied
        have code : ∀ q ∈ parts, q.Fits .code := fits_of_suits rfl fit
        refine Build.fits_onNode ?_ code applied
        intro n own
        simp [Nonterminal.role, Node.fits_mk, own]
    case attributeName =>
      rcases member with rfl | rfl
      · exact fits_name (.inr rfl) (.inl rfl) built
      · exact fits_name (.inr rfl) (.inr rfl) built
    case attributeValue =>
      rcases member with rfl | rfl
      · refine fits_built rfl ?_ built
        exact fun part applied => fits_literal (fun t n made => fits_jsxString made) applied
      · refine fits_built rfl ?_ built
        exact fun part applied => (Build.fits_container (fits_of_suits rfl fit) applied).2

end Markup

/-- Whatever a symbol derives plays the role of the symbol. -/
theorem Derives.fits {s : Symbol} {word : List Token} {value : List Part}
    (h : Derives s word value) (scanned : ∀ t ∈ word, t.Scanned) : s.Fits value := by
  induction h using Derives.rec
    (motive_2 := fun slots word parts _ => (∀ t ∈ word, t.Scanned) → SlotsFit slots parts) with
  | token t => exact ⟨t, scanned t List.mem_cons_self, rfl⟩
  | production member reads built fit => exact fits_production member reads (fit scanned) built
  | nil => rfl
  | absent _ fit scanned => exact ⟨_, rfl, fit scanned⟩
  | skip t _ fit scanned => exact fit fun u hu => scanned u (List.mem_cons_of_mem t hu)
  | keep _ _ own fit scanned =>
    rw [List.forall_mem_append] at scanned
    exact ⟨_, _, rfl, own scanned.1, fit scanned.2⟩

theorem parseTree_fits {source : Text} {n : Node} (h : parseTree source = .ok n) :
    n.Parsed .code := by
  obtain ⟨word, scanned, derives⟩ := parseTree_derives h
  exact (derives.fits scanned).1 (.node n) (List.mem_singleton_self _)

/-- The tree of a text is code, with markup inside elements only. -/
theorem parse_fits {source name : Text} {n : Node} (h : parse source name = .ok n) :
    n.Parsed .code := by
  obtain ⟨tree, read, rfl⟩ := ok_of_map h
  split
  · exact parseTree_fits read
  · exact (parseTree_fits read).inFile name fun _ _ _ spelled => spelled

theorem parse_program {source name : Text} {n : Node} (h : parse source name = .ok n) :
    ∃ place body, n = ⟨place, .program body⟩ := by
  obtain ⟨tree, read, rfl⟩ := ok_of_map h
  obtain ⟨word, -, derives⟩ := parseTree_derives read
  obtain ⟨place, body, same⟩ :=
    derives_list .program .program (by decide) (fun _ => ⟨_, _, rfl⟩) derives
  cases same
  split
  · exact ⟨_, _, rfl⟩
  · rw [Node.inFile, Node.fold_mk]
    exact ⟨_, _, rfl⟩

end Grammar

end Hyperscript
