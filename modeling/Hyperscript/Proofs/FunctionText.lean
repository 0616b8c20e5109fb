import Hyperscript.Proofs.ObjectText

/-!
# What the texts of functions and classes mean

Names, parameters, superclasses and decorators may be missing, which picks the production. Each of
them fills its part of the row, so that the productions are told apart only when the row is whole.
-/
namespace Hyperscript

/-- An identifier that no word of the grammar is spelled like. -/
def Node.IsFree (n : Node) : Prop := ∃ place name, n = ⟨place, .identifier name⟩ ∧ IsFreeName name

namespace Grammar

variable {Next : Terminal → Prop} {place : Place} {k : Terminal} {w text first second : Text}
variable {id superClass : Option Node} {params decorators : List Node} {body key : Node}
variable {texts above : List Text} {slots : List Slot} {V : List Part → Prop}

section Names

/-- What reads a name, or its absence. -/
def nameSlots (id : Option Node) : List Slot :=
  if id.isSome then [.keep (.terminal .name)] else [.absent]

/-- A word and the name behind it, before what else there is to read. -/
theorem FillsBefore.named (mem : (k, w) ∈ Terminal.spellings) (isName : IsName w)
    (free : ∀ n ∈ id, n.IsFree) (detached : Detached text) (rest : FillsBefore Next slots text V) :
    FillsBefore Next (.skip k :: (nameSlots id ++ slots)) (w ++ (Layout.optionalName id ++ text))
      fun parts => ∃ part name others, part.optionalToken? = some name ∧
        (name.map Build.identifier).map Node.unplaced = id.map Node.asRead ∧ V others ∧
          parts = part :: others := by
  cases id with
  | none =>
    refine (FillsBefore.word mem isName detached rest.absent).mono ?_
    rintro _ ⟨others, holds, rfl⟩
    exact ⟨.absent, none, others, rfl, rfl, holds, rfl⟩
  | some n =>
    obtain ⟨namePlace, name, rfl, isFree⟩ := free n rfl
    rw [Layout.optionalName, List.append_assoc]
    refine (FillsBefore.spaced mem (.keep (.name isFree) detached rest)).mono ?_
    rintro _ ⟨_, others, ⟨t, word, rfl⟩, holds, rfl⟩
    obtain rfl : t.text = name := congrArg Word.text word
    refine ⟨.token t, some t, others, rfl, congrArg some ?_, holds, rfl⟩
    exact Node.unplaced_eq_asRead rfl

/-- What reads what a class extends, or its absence. -/
def extensionSlots (superClass : Option Node) : List Slot :=
  if superClass.isSome then [.skip .extendsWord, .keep (.nonterminal (.chain true .callMember))]
  else [.absent]

/-- What a class extends, as it is printed. -/
def extensionText (parent : Option Text) : Text :=
  match parent with
  | none => []
  | some t => " extends " ++ t

/-- The text denotes the node, or both are missing. -/
abbrev DenotesOption (x : Symbol) : Option Node → Option Text → Prop :=
  Option.Rel fun n t => Denotes x t (IsNode n)

theorem FillsBefore.extension {parent : Option Text}
    (own : DenotesOption (.nonterminal (.chain true .callMember)) superClass parent)
    (detached : Detached text) (rest : FillsBefore Next slots text V) :
    FillsBefore Next (extensionSlots superClass ++ slots) (extensionText parent ++ text)
      fun parts => ∃ part m others, part.optional? = some m ∧
        m.map Node.unplaced = superClass.map Node.asRead ∧ V others ∧ parts = part :: others := by
  cases own with
  | none =>
    refine rest.absent.mono ?_
    rintro _ ⟨others, holds, rfl⟩
    exact ⟨.absent, none, others, rfl, rfl, holds, rfl⟩
  | @some n parentText own =>
    have text_eq : extensionText (some parentText) ++ text =
        " " ++ ("extends" ++ (" " ++ (parentText ++ text))) := by
      simp [extensionText, Text.ofString]
    rw [text_eq]
    refine (FillsBefore.gap blank_space (.spaced (k := .extendsWord) (w := "extends") (by decide)
      (.keep own detached rest))).mono ?_
    rintro _ ⟨_, others, ⟨m, rfl, same⟩, holds, rfl⟩
    exact ⟨.node m, some m, others, rfl, congrArg some same, holds, rfl⟩

end Names

section Functions

theorem denotes_function (free : ∀ n ∈ id, n.IsFree) (others : DenoteItems .param params texts)
    (last : Denotes (.nonterminal .block) second (IsNode body)) :
    Denotes (.nonterminal .functionExpression) (Layout.functionText id texts second)
      (IsNode ⟨place, .functionExpression id params body⟩) := by
  have row : Fills _ _ _ := FillsBefore.named (k := .functionWord) (w := "function") (by decide)
    (by decide) free (.mark (k := .parenOpen) (by decide) _)
    (.parameters others (.gap blank_space (.last last fun _ h => h)))
  have text_eq : Layout.functionText id texts second = "function" ++ (Layout.optionalName id ++
      ("(" ++ (Layout.commas texts ++ (")" ++ (" " ++ second))))) := by
    simp [Layout.functionText, Text.ofString]
  have found : ∃ i ∈ core .functionExpression, barred .functionExpression i = [] ∧
      Nonterminal.functionExpression.productions[i]? = some ⟨.functionExpression,
        .skip .functionWord :: (nameSlots id ++ .skip .parenOpen ::
          (parameterSlots params ++ [.skip .parenClose, .keep (.nonterminal .block)])),
        some .functionExpression⟩ := by
    rw [nameSlots, parameterSlots]
    split <;> split
    · exact ⟨1, by decide, rfl, rfl⟩
    · exact ⟨0, by decide, rfl, rfl⟩
    · exact ⟨3, by decide, rfl, rfl⟩
    · exact ⟨2, by decide, rfl, rfl⟩
  obtain ⟨i, mem, open_, found⟩ := found
  have opened : Opened (Layout.functionText id texts second) := by
    rw [text_eq]
    exact ⟨_, _, rfl, by decide, by decide⟩
  rw [text_eq] at opened ⊢
  refine .production mem found open_ opened row ?_
  rintro _ ⟨part, name, _, known, same, ⟨part', ms, _, listed, same', ⟨n, rfl, same''⟩, rfl⟩, rfl⟩
  have built : Build.apply .functionExpression [part, part', .node n] = .ok (.node
      ⟨Located.place [.optional (name.map Build.identifier), .node n],
        .functionExpression (name.map Build.identifier) ms n⟩) := by
    simp [Build.apply, Build.functionExpression, known, listed]
  exact ⟨_, build_of_apply built, .intro (by simp only [Form.map, Form.asRead, same, same', same''])⟩

/-- Read as a parameter of an arrow function, the expression is the binding. -/
def Converts (e n : Node) : Prop :=
  ∀ m : Node, m.unplaced = e.asRead → ∃ b, Build.toPattern m = .ok b ∧ b.unplaced = n.asRead

theorem toPatterns_of_converts {es ms : List Node} (h : List.Forall₂ Converts es params)
    (same : ms.map Node.unplaced = es.map Node.asRead) :
    ∃ bs, Build.toPatterns ms = .ok bs ∧ bs.map Node.unplaced = params.map Node.asRead := by
  induction h generalizing ms with
  | nil =>
    obtain rfl := List.map_eq_nil_iff.mp same
    exact ⟨[], rfl, rfl⟩
  | cons first _ ih =>
    obtain ⟨m, ms, rfl, alike, others⟩ := List.map_eq_cons_iff.mp same
    obtain ⟨b, made, good⟩ := first m alike
    obtain ⟨bs, mades, goods⟩ := ih others
    exact ⟨b :: bs, by rw [Build.toPatterns, made, mades]; rfl, by simp [good, goods]⟩

theorem denotes_arrowName {namePlace : Place} {name : Text} (free : IsFreeName name) :
    Denotes (.nonterminal .arrowParams) name (IsList [⟨namePlace, .identifier name⟩]) := by
  have own : Denotes (.terminal .name) name (IsToken ⟨.name, name⟩) := .name free
  refine .production (i := 0) (by decide) rfl rfl own.opened (.last own fun _ h => h) ?_
  rintro _ ⟨t, word, rfl⟩
  obtain rfl : t.text = name := congrArg Word.text word
  exact ⟨_, build_of_apply rfl, _, rfl, by simp [Build.identifier, Node.unplaced_mk, Node.asRead_mk,
    Form.map, Form.asRead]⟩

/-- Parameters in parentheses are a list of expressions at first. -/
theorem denotes_arrowList {es : List Node} (h : List.Forall₂ Converts es params)
    (own : DenoteItems .expression es texts) :
    Denotes (.nonterminal .arrowParams) ("(" ++ (Layout.commas texts ++ ")")) (IsList params) := by
  have separates : Separates .moreExpressions .expression := by constructor <;> decide
  have blank : ∀ c ∈ [] ++ (Text.ofString " " ++ []), Scan.isSpace c = true := by
    simpa using blank_space
  have closed : Fills _ _ _ := .mark (k := .parenClose) (w := ")") (by decide) .nil
  have detached : Detached (Text.ofString ")" ++ []) := .mark (k := .parenClose) (by decide) []
  have row : Fills _ _ _ := .listed (k := .parenOpen) (w := "(") separates (by decide) blank own
    detached closed
  rw [← commas_eq, List.append_nil] at row
  have opened : Opened ("(" ++ (Layout.commas texts ++ ")")) := ⟨_, _, rfl, by decide, by decide⟩
  cases es with
  | nil =>
    cases h
    refine .production (i := 1) (by decide) rfl rfl opened row ?_
    exact fun parts _ => ⟨_, build_of_apply rfl, [], rfl, rfl⟩
  | cons e rest =>
    have found : ∃ i ∈ core .arrowParams, barred .arrowParams i = [] ∧
        Nonterminal.arrowParams.productions[i]? = some ⟨.arrowParams, .skip .parenOpen ::
          (itemSlots .expression .moreExpressions (e :: rest).length ++ [.skip .parenClose]),
          some .arrowList⟩ := by
      cases rest with
      | nil => exact ⟨3, by decide, rfl, rfl⟩
      | cons => exact ⟨2, by decide, rfl, rfl⟩
    obtain ⟨i, mem, open_, found⟩ := found
    refine .production mem found open_ opened row ?_
    rintro _ ⟨value, _, nodes, rfl, rfl⟩
    obtain ⟨bs, made, good⟩ := toPatterns_of_converts h nodes.compact
    refine ⟨[.nodes bs], build_of_apply ?_, bs, rfl, good⟩
    simp [Build.apply, made, Except.map]

theorem denotes_arrow {brace : Bool} (own : Denotes (.nonterminal .arrowParams) first (IsList params))
    (last : Denotes (.nonterminal .arrowBody) second (IsNode body)) :
    Denotes (.nonterminal (.chain brace .assign)) (first ++ " => " ++ second)
      (IsNode ⟨place, .arrow params body⟩) := by
  have row : Fills _ _ _ := .keep own (.space _) (.gap blank_space
    (.spaced (k := .arrow) (w := "=>") (by decide) (.last last fun _ h => h)))
  have text_eq : first ++ " => " ++ second = first ++ (" " ++ ("=>" ++ (" " ++ second))) := by
    simp [Text.ofString]
  rw [text_eq]
  refine .pass (i := 2) (by cases brace <;> decide) rfl rfl
    (.production (i := 0) (by decide) rfl rfl (own.opened.append _) row ?_)
  rintro _ ⟨_, _, ⟨ms, rfl, same⟩, ⟨n, rfl, same'⟩, rfl⟩
  exact ⟨_, build_of_apply rfl, .intro (by simp [Form.map, Form.asRead, same, same'])⟩

end Functions

section Classes

/-- What reads decorators, or nothing. -/
def decoratorSlots (decorators : List Node) : List Slot :=
  if decorators.isEmpty then [] else [.keep (.nonterminal .decorators)]

theorem repeats_decorators : Repeats .decorators .decorator := by
  constructor <;> decide

/-- Each text denotes the decorator at its position. -/
abbrev DenoteDecorators (decorators : List Node) (texts : List Text) : Prop :=
  List.Forall₂ (fun n t => Denotes (.nonterminal .decorator) t (IsNode n)) decorators texts

theorem decorators_cons (depth : Nat) (t : Text) (others : List Text) :
    Layout.decorators depth (t :: others) =
      t ++ others.flatMap (lineGap depth ++ ·) ++ lineGap depth := by
  induction others generalizing t with
  | nil => simp [Layout.decorators, lineGap]
  | cons u others ih =>
    rw [Layout.decorators, List.flatMap_cons, ← Layout.decorators, ih u]
    simp [lineGap]

/-- Decorators on lines of their own, above what else there is to read. -/
theorem FillsBefore.decorated (own : DenoteDecorators decorators above) (depth : Nat)
    (rest : FillsBefore Next slots text V) :
    FillsBefore Next (decoratorSlots decorators ++ slots) (Layout.decorators depth above ++ text)
      fun parts => ∃ value others, AreNodes decorators value ∧ V others ∧ parts = value ++ others := by
  cases own with
  | nil => exact rest.mono fun parts holds => ⟨[], parts, ⟨[], rfl, rfl⟩, holds, rfl⟩
  | @cons n t decorators above first others =>
    have blank := blank_line depth
    have all := first.row repeats_decorators blank (by simp [lineGap, Text.ofString])
      (.of_denotes others)
    rw [decorators_cons, List.append_assoc]
    exact .keep all (.line depth text) (.gap blank rest)

/-- A class without decorators, as it is printed. -/
def bareClassText (id : Option Node) (parent : Option Text) (body : Text) : Text :=
  "class" ++ (Layout.optionalName id ++ (extensionText parent ++ (" " ++ body)))

theorem classText_eq (depth : Nat) (exporting : Text) (above : List Text) (parent : Option Text) :
    Layout.classText depth exporting above id parent second =
      Layout.decorators depth above ++ (exporting ++ bareClassText id parent second) := by
  cases parent <;> simp [Layout.classText, bareClassText, extensionText]

theorem denotes_class {parent : Option Text} (free : ∀ n ∈ id, n.IsFree)
    (extension : DenotesOption (.nonterminal (.chain true .callMember)) superClass parent)
    (last : Denotes (.nonterminal .classBody) second (IsNode body)) :
    Denotes (.nonterminal .classExpression) (bareClassText id parent second)
      (IsNode ⟨place, .classExpression id superClass body []⟩) := by
  have detached : Detached (extensionText parent ++ (" " ++ second)) := by
    cases parent <;> exact .of_closes (by decide)
  have row : Fills _ _ _ := FillsBefore.named (k := .classWord) (w := "class") (by decide)
    (by decide) free detached (.extension extension (.space _)
      (.gap blank_space (.last last fun _ h => h)))
  have found : ∃ i ∈ core .classExpression, barred .classExpression i = [] ∧
      Nonterminal.classExpression.productions[i]? = some ⟨.classExpression,
        .skip .classWord :: (nameSlots id ++ (extensionSlots superClass ++
          [.keep (.nonterminal .classBody)])), some .classExpression⟩ := by
    rw [nameSlots, extensionSlots]
    split <;> split
    · exact ⟨0, by decide, rfl, rfl⟩
    · exact ⟨1, by decide, rfl, rfl⟩
    · exact ⟨2, by decide, rfl, rfl⟩
    · exact ⟨3, by decide, rfl, rfl⟩
  obtain ⟨i, mem, open_, found⟩ := found
  have opened : Opened (bareClassText id parent second) := ⟨_, _, rfl, by decide, by decide⟩
  refine .production mem found open_ opened row ?_
  rintro _ ⟨part, name, _, known, same, ⟨part', m, _, optional, same', ⟨n, rfl, same''⟩, rfl⟩, rfl⟩
  have built : Build.apply .classExpression [part, part', .node n] = .ok (.node
      ⟨Located.place [.optional (name.map Build.identifier), .optional m, .node n],
        .classExpression (name.map Build.identifier) m n []⟩) := by
    simp [Build.apply, Build.classExpression, known, optional]
  exact ⟨_, build_of_apply built, .intro (by simp [Form.map, Form.asRead, same, same', same''])⟩

theorem encloses_classBody : Encloses .classBody .classMembers .classBody := by
  constructor <;> decide

theorem repeats_classMembers : Repeats .classMembers .classMember := by
  constructor <;> decide

/-- What reads a word that may be missing. -/
def flagSlots (present : Bool) (x : Symbol) : List Slot := if present then [.keep x] else [.absent]

def staticText (isStatic : Bool) : Text := if isStatic then "static " else ""

theorem FillsBefore.static (isStatic : Bool) (rest : FillsBefore Next slots text V) :
    FillsBefore Next (flagSlots isStatic (.terminal .staticWord) ++ slots)
      (staticText isStatic ++ text) fun parts =>
        ∃ part mark others, part.optionalToken? = some mark ∧ mark.isSome = isStatic ∧ V others ∧
          parts = part :: others := by
  cases isStatic with
  | false =>
    refine rest.absent.mono ?_
    rintro _ ⟨others, holds, rfl⟩
    exact ⟨.absent, none, others, rfl, rfl, holds, rfl⟩
  | true =>
    have own : Means (.terminal .staticWord) [⟨.staticWord, "static"⟩]
        (IsToken ⟨.staticWord, "static"⟩) :=
      .token ⟨.staticWord, "static"⟩ fun reserved => nomatch reserved.1
    have row : FillsBefore Next _ _ _ := .keepSpaced own (by decide) rest
    refine row.mono ?_
    rintro _ ⟨_, others, ⟨t, -, rfl⟩, holds, rfl⟩
    exact ⟨.token t, some t, others, rfl, rfl, holds, rfl⟩

/-- The word that makes a method an accessor, if it is one. -/
def accessorText (kind : Text) : Text := if kind = "get" || kind = "set" then kind ++ " " else ""

theorem FillsBefore.accessor {kind : Text} (known : kind ∈ ["method", "get", "set"].map Text.ofString)
    (rest : FillsBefore Next slots text V) :
    FillsBefore Next (flagSlots (kind ≠ Text.ofString "method") (.nonterminal .accessor) ++ slots)
      (accessorText kind ++ text) fun parts =>
        ∃ part others, (match part with | .word w => w | _ => Text.ofString "method") = kind ∧ V others ∧
          parts = part :: others := by
  have own {k : Terminal} {w : Text} {i : Nat} (mem : i ∈ core .accessor)
      (found : Nonterminal.accessor.productions[i]? =
        some ⟨.accessor, [.keep (.terminal k)], some .word⟩) (spelled : (k, w) ∈ Terminal.spellings) :
      Means (.nonterminal .accessor) [⟨k, w⟩] (· = [.word w]) := by
    refine .production mem found rfl (.last (.token ⟨k, w⟩ fun reserved =>
      ne_name_of_mem_spellings spelled reserved.1) fun _ h => h) ?_
    rintro _ ⟨t, same, rfl⟩
    obtain rfl : t.text = w := congrArg Word.text same
    exact ⟨_, build_of_apply rfl, rfl⟩
  simp only [List.map_cons, List.map_nil, List.mem_cons, List.not_mem_nil, or_false] at known
  rcases known with rfl | rfl | rfl
  · refine rest.absent.mono ?_
    rintro _ ⟨others, holds, rfl⟩
    exact ⟨.absent, others, rfl, holds, rfl⟩
  · have row : FillsBefore Next _ _ _ :=
      .keepSpaced (own (i := 0) (k := .getWord) (w := "get") (by decide) rfl (by decide)) (by decide) rest
    refine row.mono ?_
    rintro _ ⟨_, others, rfl, holds, rfl⟩
    exact ⟨.word "get", others, rfl, holds, rfl⟩
  · have row : FillsBefore Next _ _ _ :=
      .keepSpaced (own (i := 1) (k := .setWord) (w := "set") (by decide) rfl (by decide)) (by decide) rest
    refine row.mono ?_
    rintro _ ⟨_, others, rfl, holds, rfl⟩
    exact ⟨.word "set", others, rfl, holds, rfl⟩

end Classes

section Members

variable {computed isStatic : Bool} {kind : Text} {value : Option Node}

theorem Opened.static (isStatic : Bool) (h : Opened text) :
    Opened (staticText isStatic ++ text) := by
  cases isStatic with
  | false => exact h
  | true => exact ⟨_, _, rfl, by decide, by decide⟩

theorem Opened.accessor (kind : Text) (h : Opened text) : Opened (accessorText kind ++ text) := by
  rw [accessorText]
  split
  · rename_i word
    simp only [Bool.or_eq_true, decide_eq_true_eq] at word
    rcases word with rfl | rfl <;> exact ⟨_, _, rfl, by decide, by decide⟩
  · exact h

theorem Opened.decorated (own : DenoteDecorators decorators above) (depth : Nat) (h : Opened text) :
    Opened (Layout.decorators depth above ++ text) := by
  cases own with
  | nil => exact h
  | cons first others =>
    rw [decorators_cons, List.append_assoc, List.append_assoc]
    exact first.opened.append _

theorem isDecorator_of_asRead {m n : Node} (same : m.unplaced = n.asRead) :
    Build.isDecorator m = Build.isDecorator n := by
  have unplaced_kept : ∀ k : Node, Build.isDecorator k.unplaced = Build.isDecorator k := by
    rintro ⟨place, form⟩
    rw [Node.unplaced_mk]
    cases form <;> rfl
  have asRead_kept : ∀ k : Node, Build.isDecorator k.asRead = Build.isDecorator k := by
    rintro ⟨place, form⟩
    rw [Node.asRead_mk]
    cases form <;> rfl
  rw [← unplaced_kept m, same, asRead_kept]

theorem filter_isDecorator {ms : List Node} (same : ms.map Node.unplaced = decorators.map Node.asRead)
    (marks : ∀ n ∈ decorators, Build.isDecorator n = true) : ms.filter Build.isDecorator = ms := by
  refine List.filter_eq_self.mpr fun m mem => ?_
  have inside := List.mem_map_of_mem (f := Node.unplaced) mem
  rw [same] at inside
  obtain ⟨n, mem, alike⟩ := List.mem_map.mp inside
  rw [isDecorator_of_asRead alike.symm, marks n mem]

theorem leadingDecorators_append {ms : List Node} {tail : List Part} {count : Nat}
    (length : tail.length = count) (same : ms.map Node.unplaced = decorators.map Node.asRead)
    (marks : ∀ n ∈ decorators, Build.isDecorator n = true) :
    Build.leadingDecorators count (ms.map .node ++ tail) = ms ∧
      (ms.map Part.node ++ tail).drop ((ms.map Part.node ++ tail).length - count) = tail := by
  have start : (ms.map Part.node ++ tail).length - count = (ms.map Part.node).length := by
    rw [List.length_append, length, Nat.add_sub_cancel]
  rw [Build.leadingDecorators, start, List.take_left, List.drop_left, compact_nodes]
  exact ⟨filter_isDecorator same marks, rfl⟩

theorem method_production (bare isStatic isAccessor none : Bool) : ∃ i ∈ core .classMember,
    Nonterminal.classMember.productions[i]? = some ⟨.classMember,
      (if bare then [] else [.keep (.nonterminal .decorators)]) ++
        (flagSlots isStatic (.terminal .staticWord) ++
          (flagSlots isAccessor (.nonterminal .accessor) ++ .keep (.nonterminal .key) ::
            .skip .parenOpen :: ((if none then [.absent] else [.keep (.nonterminal .params)]) ++
              [.skip .parenClose, .keep (.nonterminal .block)]))), some .classMethod⟩ := by
  revert bare isStatic isAccessor none
  decide +kernel

theorem denotes_classMethod (above_own : DenoteDecorators decorators above)
    (marks : ∀ n ∈ decorators, Build.isDecorator n = true)
    (known : kind ∈ ["method", "get", "set"].map Text.ofString)
    (own : Denotes (.nonterminal .key) first (IsKey key computed))
    (others : DenoteItems .param params texts)
    (last : Denotes (.nonterminal .block) second (IsNode body)) (depth : Nat) :
    Denotes (.nonterminal .classMember)
      (Layout.decorators depth above ++ (staticText isStatic ++ (accessorText kind ++
        (first ++ ("(" ++ (Layout.commas texts ++ (")" ++ (" " ++ second))))))))
      (IsNode ⟨place, .classMethod key params body kind isStatic computed decorators⟩) := by
  have row : Fills _ _ _ := FillsBefore.decorated above_own depth (.static isStatic (.accessor known
    (.keep own (.mark (k := .parenOpen) (by decide) _) (.parameters others
      (.gap blank_space (.last last fun _ h => h))))))
  obtain ⟨i, mem, found⟩ := method_production decorators.isEmpty isStatic
    (kind ≠ Text.ofString "method") params.isEmpty
  refine .production mem found rfl
    ((((own.opened.append _).accessor kind).static isStatic).decorated above_own depth) row ?_
  rintro _ ⟨_, _, ⟨ds, rfl, same⟩, ⟨mark, static, _, isMark, rfl, ⟨word, _, kindOf, ⟨_, _, ⟨part, m, rfl,
    keyOf, keySame⟩, ⟨part', ms, _, listed, paramsSame, ⟨n, rfl, bodySame⟩, rfl⟩, rfl⟩, rfl⟩, rfl⟩, rfl⟩
  obtain ⟨leading, dropped⟩ := leadingDecorators_append
    (show [mark, word, part, part', .node n].length = 5 from rfl) same marks
  have built : Build.apply .classMethod (ds.map .node ++ [mark, word, part, part', .node n]) =
      .ok (.node ⟨Build.memberPlace ds static m,
        .classMethod m ms n kind static.isSome computed ds⟩) := by
    cases kindOf
    cases word <;>
      simp only [Build.apply, Build.classMethod, leading, dropped, isMark, keyOf, listed]
  exact ⟨_, build_of_apply built, .intro (by
    simp [Form.map, Form.asRead, same, keySame, paramsSame, bodySame])⟩

theorem property_production (bare isStatic none : Bool) : ∃ i ∈ core .classMember,
    Nonterminal.classMember.productions[i]? = some ⟨.classMember,
      (if bare then [] else [.keep (.nonterminal .decorators)]) ++
        (flagSlots isStatic (.terminal .staticWord) ++ .keep (.nonterminal .key) ::
          ((if none then [.absent] else [.skip .assign, .keep (.nonterminal .expression)]) ++
            [.skip .semicolon])), some .classProperty⟩ := by
  revert bare isStatic none
  decide +kernel

/-- What something is initialised with, as it is printed. -/
def initialText (initial : Option Text) : Text :=
  match initial with
  | none => []
  | some t => " = " ++ t

/-- What reads what a property is initialised with, or its absence. -/
def initialSlots (value : Option Node) : List Slot :=
  if value.isNone then [.absent] else [.skip .assign, .keep (.nonterminal .expression)]

theorem fills_initial {initial : Option Text}
    (own : DenotesOption (.nonterminal .expression) value initial) :
    Fills (initialSlots value ++ [.skip .semicolon]) (initialText initial ++ ";") fun parts =>
      ∃ part m, part.optional? = some m ∧ m.map Node.unplaced = value.map Node.asRead ∧
        parts = [part] := by
  have ends : Fills _ _ _ := .mark (k := .semicolon) (w := ";") (by decide) .nil
  cases own with
  | none =>
    refine ends.absent.mono ?_
    rintro _ ⟨_, rfl, rfl⟩
    exact ⟨.absent, none, rfl, rfl, rfl⟩
  | @some n t own =>
    have row : Fills _ _ _ := .gap blank_space (.spaced (k := .assign) (w := "=") (by decide)
      (.keep own (.mark (k := .semicolon) (by decide) []) ends))
    rw [List.append_nil] at row
    have text_eq : initialText (some t) ++ Text.ofString ";" =
        " " ++ ("=" ++ (" " ++ (t ++ ";"))) := by
      simp [initialText, Text.ofString]
    rw [text_eq]
    refine row.mono ?_
    rintro _ ⟨_, _, ⟨m, rfl, same⟩, rfl, rfl⟩
    exact ⟨.node m, some m, rfl, congrArg some same, rfl⟩

theorem denotes_classProperty {initial : Option Text} (above_own : DenoteDecorators decorators above)
    (marks : ∀ n ∈ decorators, Build.isDecorator n = true)
    (own : Denotes (.nonterminal .key) first (IsKey key computed))
    (other : DenotesOption (.nonterminal .expression) value initial) (depth : Nat) :
    Denotes (.nonterminal .classMember)
      (Layout.decorators depth above ++ (staticText isStatic ++ (first ++ (initialText initial ++ ";"))))
      (IsNode ⟨place, .classProperty key value isStatic computed decorators⟩) := by
  have detached : Detached (initialText initial ++ ";") := by
    cases initial <;> exact .of_closes (by decide)
  have row : Fills _ _ _ := FillsBefore.decorated above_own depth (.static isStatic
    (.keep own detached (fills_initial other)))
  obtain ⟨i, mem, found⟩ := property_production decorators.isEmpty isStatic value.isNone
  refine .production mem found rfl
    (((own.opened.append _).static isStatic).decorated above_own depth) row ?_
  rintro _ ⟨_, _, ⟨ds, rfl, same⟩, ⟨mark, static, _, isMark, rfl, ⟨_, _, ⟨part, m, rfl, keyOf, keySame⟩,
    ⟨part', v, optional, valueSame, rfl⟩, rfl⟩, rfl⟩, rfl⟩
  obtain ⟨leading, dropped⟩ := leadingDecorators_append
    (show [mark, part, part'].length = 3 from rfl) same marks
  have built : Build.apply .classProperty (ds.map .node ++ [mark, part, part']) =
      .ok (.node ⟨Build.memberPlace ds static m, .classProperty m v static.isSome computed ds⟩) := by
    simp only [Build.apply, Build.classProperty, leading, dropped, isMark, keyOf, optional]
  exact ⟨_, build_of_apply built, .intro (by
    simp [Form.map, Form.asRead, same, keySame, valueSame])⟩

theorem denotes_decoratorMember {namePlace : Place} {object : Node} {name : Text}
    (isName : IsName name) (own : Denotes (.nonterminal .decoratorTarget) first (IsNode object)) :
    Denotes (.nonterminal .decoratorTarget) (first ++ "." ++ name)
      (IsNode ⟨place, .member object ⟨namePlace, .identifier name⟩ false⟩) := by
  have detached := detached_dot isName []
  rw [List.append_nil] at detached
  have row : Fills _ _ _ := .keep own detached (.dotted isName (.token ⟨.name, name⟩))
  rw [List.append_assoc]
  refine .production (i := 1) (by decide) rfl rfl (own.opened.append _) row ?_
  rintro _ ⟨_, _, ⟨m, rfl, same⟩, ⟨t, word, rfl⟩, rfl⟩
  obtain rfl : t.text = name := congrArg Word.text word
  refine ⟨_, build_of_apply rfl, .intro ?_⟩
  simp [Form.map, Form.asRead, Build.identifier, Node.unplaced_mk, Node.asRead_mk, same]

theorem denotes_decorator (own : Denotes (.nonterminal .decoratorTarget) first (IsNode body)) :
    Denotes (.nonterminal .decorator) ("@" ++ first) (IsNode ⟨place, .decorator body⟩) := by
  have row : Fills _ _ _ := .mark (k := .atSign) (w := "@") (by decide)
    (.keep own .nil (.absent .nil))
  rw [List.append_nil] at row
  have opened : Opened ("@" ++ first) := ⟨_, _, rfl, by decide, by decide⟩
  refine .production (i := 1) (by decide) rfl rfl opened row ?_
  rintro _ ⟨_, _, ⟨m, rfl, same⟩, ⟨_, rfl, rfl⟩, rfl⟩
  exact ⟨_, build_of_apply rfl, .intro (by simp [Form.map, Form.asRead, same])⟩

/-- A decorator with arguments is a call. -/
theorem denotes_decoratorCall {callPlace : Place} {arguments : List Node} {spacious : Bool}
    (own : Denotes (.nonterminal .decoratorTarget) first (IsNode body)) (detached : Detached second)
    (others : Denotes (.nonterminal .arguments) second (IsList arguments)) :
    Denotes (.nonterminal .decorator) ("@" ++ (first ++ second))
      (IsNode ⟨place, .decorator ⟨callPlace, .call body arguments spacious⟩⟩) := by
  have row : Fills _ _ _ := .mark (k := .atSign) (w := "@") (by decide)
    (.keep own detached (.last others fun _ h => h))
  have opened : Opened ("@" ++ (first ++ second)) := ⟨_, _, rfl, by decide, by decide⟩
  refine .production (i := 0) (by decide) rfl rfl opened row ?_
  rintro _ ⟨_, _, ⟨m, rfl, same⟩, ⟨ms, rfl, alike⟩, rfl⟩
  refine ⟨_, build_of_apply rfl, .intro ?_⟩
  simp [Form.map, Form.asRead, Node.unplaced_mk, Node.asRead_mk, same, alike]

end Members


end Grammar

end Hyperscript
