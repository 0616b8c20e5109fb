import Hyperscript.Proofs.CoreParsing
import Hyperscript.Proofs.Walk
import Hyperscript.Tree.Printer

/-!
# What rows of words mean

A row of words means a node as a symbol when the core derives the node from the words, wherever
they stand. Places cannot matter then, and a text shows neither the layout that a call asks for nor
whether a string was spelled before it was printed, so what is derived is the node as it is read
back.
-/
namespace Hyperscript

namespace Form

variable {α β : Type}

/-- The form without what its printed text does not show. -/
def essence : Form α → Form α
  | .call callee arguments _ => .call callee arguments false
  | .string value _ => .string value none
  | form => form

/-- The form as it is read back: a call asks for no layout, and a string is spelled. -/
def asRead : Form α → Form α
  | .call callee arguments _ => .call callee arguments false
  | .string value spelling => .string value (some (spelling.getD value.quote))
  | form => form

theorem essence_map_asRead (f : α → β) (form : Form α) :
    (form.asRead.map f).essence = (form.map f).essence := by
  cases form <;> rfl

end Form

namespace Node

/-- The node without places, layout of calls and spelling of strings. -/
def erase : Node → Node := fold fun _ form => .plain form.essence

theorem erase_eq (n : Node) : n.erase = .plain (n.form.map erase).essence := fold_eq _ n

/-- The tree that is read from the printed text of a node, without places. -/
def asRead : Node → Node := fold fun _ form => .plain form.asRead

theorem asRead_mk (place : Place) (form : Form Node) :
    asRead ⟨place, form⟩ = .plain (form.map asRead).asRead := fold_mk _ place form

theorem unplaced_eq_asRead {place other : Place} {form form' : Form Node}
    (same : form.map unplaced = (form'.map asRead).asRead) :
    unplaced ⟨place, form⟩ = asRead ⟨other, form'⟩ := by
  rw [unplaced_mk, asRead_mk, same]

theorem unplaced_inFile (file : Text) (n : Node) : (n.inFile file).unplaced = n.unplaced := by
  induction n using Node.induction with
  | step n ih =>
    rw [inFile, fold_eq, unplaced_mk, Form.map_map, unplaced, fold_eq]
    exact congrArg plain (Form.map_congr ih)

theorem erase_unplaced (n : Node) : n.unplaced.erase = n.erase := by
  induction n using Node.induction with
  | step n ih =>
    rw [unplaced, fold_eq, erase_eq, erase_eq n]
    refine congrArg (fun form => plain (Form.essence form)) ?_
    exact (Form.map_map ..).trans (Form.map_congr ih)

theorem erase_asRead (n : Node) : n.asRead.erase = n.erase := by
  induction n using Node.induction with
  | step n ih =>
    rw [asRead, fold_eq, erase_eq, erase_eq n]
    refine congrArg plain ?_
    refine (Form.essence_map_asRead ..).trans (congrArg Form.essence ?_)
    exact (Form.map_map ..).trans (Form.map_congr ih)

theorem erase_of_asRead {m n : Node} (same : m.unplaced = n.asRead) : m.erase = n.erase := by
  rw [← erase_unplaced, same, erase_asRead]

/-- What is read back has the kind of the node that was printed. -/
theorem isDeclarationLike_of_asRead {m n : Node} (same : m.unplaced = n.asRead) :
    m.isDeclarationLike = n.isDeclarationLike := by
  have unplaced_kept : ∀ k : Node, k.unplaced.isDeclarationLike = k.isDeclarationLike := by
    rintro ⟨place, form⟩
    rw [unplaced_mk]
    cases form <;> rfl
  have asRead_kept : ∀ k : Node, k.asRead.isDeclarationLike = k.isDeclarationLike := by
    rintro ⟨place, form⟩
    rw [asRead_mk]
    cases form <;> rfl
  rw [← unplaced_kept m, same, asRead_kept]

end Node

namespace Precedence

/-- How tight the expressions of a level bind at least. -/
def strengths : List (Nat × Grammar.Level) :=
  [(assignment, .assign), (conditional, .conditional), (4, .logicalOr), (5, .logicalAnd),
   (9, .equality), (10, .relational), (12, .additive), (13, .multiplicative), (unary, .unary),
   (postfixed, .postfixed), (call, .callMember)]

/-- The loosest level whose expressions bind at least as tight as the number says. -/
def level (n : Nat) : Grammar.Level := ((strengths.find? (n ≤ ·.1)).map (·.2)).getD .primary

theorem level_of_lt {n : Nat} (h : call < n) : level n = .primary := by
  have loose : ∀ e ∈ strengths, e.1 ≤ call := by decide
  have none : strengths.find? (n ≤ ·.1) = none := by
    refine List.find?_eq_none.mpr fun e mem => ?_
    have le := loose e mem
    simp only [decide_eq_true_eq]
    omega
  rw [level, none]
  rfl

theorem level_mono {m n : Nat} (h : m ≤ n) : (level m).index ≤ (level n).index := by
  by_cases tight : call < n
  · rw [level_of_lt tight]
    cases level m <;> decide
  · have all : ∀ n ≤ call, ∀ m ≤ n, (level m).index ≤ (level n).index := by decide
    exact all n (Nat.le_of_not_lt tight) m h

end Precedence

namespace Grammar

/-- Whenever one of the terminals comes next, the words are read as the symbol with such a value. -/
def Yields (Next : Terminal → Prop) (x : Symbol) (words : List Word) (V : List Part → Prop) :
    Prop :=
  ∀ tokens : List Token, tokens.map Token.word = words →
    ∃ value, CoreDerives Next x tokens value ∧ V value

/-- The words do not start with a name that is spelled like a word. -/
def StartFree (words : List Word) : Prop := ∀ w ∈ words.head?, ¬ w.IsReserved

/-- The same for words that can stand anywhere. -/
structure MeansBefore (Next : Terminal → Prop) (x : Symbol) (words : List Word)
    (V : List Part → Prop) : Prop where
  free : StartFree words
  yields : Yields Next x words V

/-- As this symbol the words always have such a value, whatever comes next. -/
abbrev Means (x : Symbol) (words : List Word) (V : List Part → Prop) : Prop :=
  MeansBefore (fun _ => True) x words V

/-- The slots gather such parts from the words, whenever one of the terminals comes next. -/
def Collects (Next : Terminal → Prop) (slots : List Slot) (words : List Word)
    (V : List Part → Prop) : Prop :=
  ∀ tokens : List Token, tokens.map Token.word = words →
    ∃ parts, CoreReads Next slots tokens parts ∧ V parts

/-- The same for words that can stand anywhere. -/
structure Gathers (Next : Terminal → Prop) (slots : List Slot) (words : List Word)
    (V : List Part → Prop) : Prop where
  free : StartFree words
  collects : Collects Next slots words V

/-- The value is a token of the word. -/
def IsToken (w : Word) (value : List Part) : Prop := ∃ t : Token, t.word = w ∧ value = [.token t]

/-- The value is the node as it is read back. -/
def IsNode (n : Node) (value : List Part) : Prop :=
  ∃ m : Node, value = [.node m] ∧ m.unplaced = n.asRead

/-- The same for a list of nodes. -/
def AreNodes (ns : List Node) (value : List Part) : Prop :=
  ∃ ms : List Node, value = ms.map .node ∧ ms.map Node.unplaced = ns.map Node.asRead

/-- A node is read back if its form is, apart from places. -/
theorem IsNode.intro {place other : Place} {form form' : Form Node}
    (same : form.map Node.unplaced = (form'.map Node.asRead).asRead) :
    IsNode ⟨other, form'⟩ [.node ⟨place, form⟩] :=
  ⟨_, rfl, Node.unplaced_eq_asRead same⟩

namespace StartFree

theorem append {first words : List Word} (h : StartFree first) (h' : StartFree words) :
    StartFree (first ++ words) := by
  cases first with
  | nil => exact h'
  | cons w rest => exact h

theorem of_kind {w : Word} (fixed : w.kind ≠ .name) (rest : List Word) : StartFree (w :: rest) :=
  fun v first reserved => fixed (by cases first; exact reserved.1)

/-- Tokens that start so are not mistaken for words. -/
theorem unmistaken {words : List Word} (h : StartFree words) {tokens : List Token}
    (same : tokens.map Token.word = words) (x : Symbol) (slots : List Slot) :
    ∀ t ∈ tokens.head?, IsUnmistaken x slots t := by
  intro t first reserved
  refine absurd reserved (h t.word ?_)
  rw [← same, List.head?_map, Option.mem_def.mp first]
  rfl

end StartFree

variable {Own Next : Terminal → Prop}

section Rows

variable {slots : List Slot} {words first : List Word} {V W : List Part → Prop} {x : Symbol}

/-- A symbol at the start of a row, with what comes next in the row allowed to come next. -/
theorem Collects.keepBefore (own : Yields Own x first W) (h : Gathers Next slots words V)
    (next : ∀ w ∈ words.head?, Own w.kind) (ends : words = [] → ∀ k, Next k → Own k) :
    Collects Next (.keep x :: slots) (first ++ words) fun parts =>
      ∃ value rest, W value ∧ V rest ∧ parts = value ++ rest := by
  intro tokens same
  obtain ⟨front, behind, rfl, front', behind'⟩ := List.map_eq_append_iff.mp same
  obtain ⟨value, derives, good⟩ := own front front'
  obtain ⟨parts, reads, holds⟩ := h.collects behind behind'
  refine ⟨_, .keep derives ?_ ?_ reads, value, parts, good, holds, rfl⟩
  · intro t mem
    refine ⟨h.free.unmistaken behind' x slots t mem, next t.word ?_⟩
    rw [← behind', List.head?_map, Option.mem_def.mp mem]
    rfl
  · rintro rfl
    exact ends behind'.symm

theorem Collects.keep (own : Yields (fun _ => True) x first W) (h : Gathers Next slots words V) :
    Collects Next (.keep x :: slots) (first ++ words) fun parts =>
      ∃ value rest, W value ∧ V rest ∧ parts = value ++ rest :=
  .keepBefore own h (fun _ _ => trivial) fun _ _ _ => trivial

namespace Gathers

theorem mono (h : Gathers Next slots words V) (le : ∀ parts, V parts → W parts) :
    Gathers Next slots words W := by
  refine ⟨h.free, fun tokens same => ?_⟩
  obtain ⟨parts, reads, holds⟩ := h.collects tokens same
  exact ⟨parts, reads, le parts holds⟩

theorem nil : Gathers Next [] [] (· = []) := by
  refine ⟨nofun, fun tokens same => ?_⟩
  obtain rfl := List.map_eq_nil_iff.mp same
  exact ⟨[], .nil, rfl⟩

theorem absent (h : Gathers Next slots words V) :
    Gathers Next (.absent :: slots) words fun parts => ∃ rest, V rest ∧ parts = .absent :: rest := by
  refine ⟨h.free, fun tokens same => ?_⟩
  obtain ⟨parts, reads, holds⟩ := h.collects tokens same
  exact ⟨_, .absent reads, parts, holds, rfl⟩

/-- A terminal, behind which a name may be spelled like a word if none is usable there. -/
theorem skipNamed (w : Word) (fixed : w.kind ≠ .name)
    (named : ∀ v ∈ words.head?, v.IsReserved → IsName v.text ∧
      (w.kind ∈ nameMarks ∨ ∃ y ∈ namedSymbols, nextSymbol? slots = some y))
    (h : Collects Next slots words V) : Gathers Next (.skip w.kind :: slots) (w :: words) V := by
  refine ⟨.of_kind fixed words, fun tokens same => ?_⟩
  obtain ⟨t, rest, rfl, first, others⟩ := List.map_eq_cons_iff.mp same
  obtain ⟨parts, reads, holds⟩ := h rest others
  subst first
  refine ⟨parts, .skip t ?_ reads, holds⟩
  intro u mem reserved
  have spelled : u.word ∈ words.head? := by
    rw [← others, List.head?_map, Option.mem_def.mp mem]
    rfl
  obtain ⟨name, where_⟩ := named u.word spelled reserved
  exact ⟨name, t.kind, rfl, where_⟩

theorem skip (w : Word) (fixed : w.kind ≠ .name) (h : Gathers Next slots words V) :
    Gathers Next (.skip w.kind :: slots) (w :: words) V :=
  skipNamed w fixed (fun v first reserved => absurd reserved (h.free v first)) h.collects

theorem keep (own : Means x first W) (h : Gathers Next slots words V) :
    Gathers Next (.keep x :: slots) (first ++ words) fun parts =>
      ∃ value rest, W value ∧ V rest ∧ parts = value ++ rest :=
  ⟨own.free.append h.free, .keep own.yields h⟩

/-- A row that starts with a terminal starts with a word of this kind. -/
theorem starts {k : Terminal} (h : Gathers Next (.skip k :: slots) words V) :
    ∃ w rest, words = w :: rest ∧ w.kind = k := by
  have same : (words.map fun w => Token.mk w.kind w.text {}).map Token.word = words := by
    simp [Function.comp_def, Token.word]
  obtain ⟨parts, reads, -⟩ := h.collects _ same
  cases words with
  | nil => cases reads
  | cons w rest =>
    cases reads
    exact ⟨w, rest, rfl, rfl⟩

/-- A symbol before a terminal that may come next. -/
theorem keepBefore {k : Terminal} (own : MeansBefore Own x first W) (allowed : Own k)
    (h : Gathers Next (.skip k :: slots) words V) :
    Gathers Next (.keep x :: .skip k :: slots) (first ++ words) fun parts =>
      ∃ value rest, W value ∧ V rest ∧ parts = value ++ rest := by
  obtain ⟨w, rest, rfl, kind⟩ := h.starts
  refine ⟨own.free.append h.free, .keepBefore own.yields h ?_ nofun⟩
  rintro v ⟨⟩
  exact kind ▸ allowed

/-- The last symbol of a row has to stand whatever may come behind the row. -/
theorem last (own : MeansBefore Own x first W) (le : ∀ k, Next k → Own k) :
    Gathers Next [.keep x] first W := by
  have all : Collects Next _ _ _ := .keepBefore own.yields .nil nofun fun _ => le
  rw [List.append_nil] at all
  refine ⟨own.free, fun tokens same => ?_⟩
  obtain ⟨parts, reads, value, _, good, rfl, rfl⟩ := all tokens same
  exact ⟨_, reads, by rwa [List.append_nil]⟩

/-- The same when nothing but a missing part is left. -/
theorem lastAbsent (own : MeansBefore Own x first W) (le : ∀ k, Next k → Own k) :
    Gathers Next [.keep x, .absent] first fun parts =>
      ∃ value, W value ∧ parts = value ++ [.absent] := by
  have all : Collects Next _ _ _ := .keepBefore own.yields (.absent .nil) nofun fun _ => le
  rw [List.append_nil] at all
  refine ⟨own.free, fun tokens same => ?_⟩
  obtain ⟨_, reads, value, _, good, ⟨_, rfl, rfl⟩, rfl⟩ := all tokens same
  exact ⟨_, reads, value, good, rfl⟩

end Gathers

/-- A row of a single symbol. -/
theorem Collects.only (own : Yields (fun _ => True) x words W) : Collects Next [.keep x] words W := by
  have row : Collects Next _ _ _ := .keep own .nil
  rw [List.append_nil] at row
  intro tokens same
  obtain ⟨_, reads, value, _, good, rfl, rfl⟩ := row tokens same
  exact ⟨_, reads, by rwa [List.append_nil]⟩

end Rows

theorem Yields.token (w : Word) :
    Yields Next (.terminal w.kind) [w] (IsToken w) := by
  intro tokens same
  obtain ⟨t, rest, rfl, first, others⟩ := List.map_eq_cons_iff.mp same
  obtain rfl := List.map_eq_nil_iff.mp others
  subst first
  exact ⟨_, .token t, t, rfl, rfl⟩

/-- A production with an action hands over the one part that the action makes. -/
theorem build_of_apply {a : Nonterminal} {slots : List Slot} {action : Action} {parts : List Part}
    {part : Part} (h : Build.apply action parts = .ok part) :
    Production.build ⟨a, slots, some action⟩ parts = .ok [part] := by
  simp [Production.build, h, Except.map]

section Productions

variable {a : Nonterminal} {i : Nat} {p : Production} {x : Symbol} {words : List Word}
variable {V W : List Part → Prop}

theorem Yields.production (mem : i ∈ core a) (found : a.productions[i]? = some p)
    (fitting : ∀ k, Next k → k ∉ barred a i) (row : Collects Next p.slots words V)
    (build : ∀ parts, V parts → ∃ value, p.build parts = .ok value ∧ W value) :
    Yields Next (.nonterminal a) words W := by
  intro tokens same
  obtain ⟨parts, reads, holds⟩ := row tokens same
  obtain ⟨value, built, good⟩ := build parts holds
  exact ⟨value, .production mem found fitting reads built, good⟩

namespace MeansBefore

theorem token (w : Word) (free : ¬ w.IsReserved) :
    MeansBefore Next (.terminal w.kind) [w] (IsToken w) :=
  ⟨fun v same => by cases same; exact free, .token w⟩

theorem mono (h : MeansBefore Next x words V) (le : ∀ value, V value → W value) :
    MeansBefore Next x words W := by
  refine ⟨h.free, fun tokens same => ?_⟩
  obtain ⟨value, derives, good⟩ := h.yields tokens same
  exact ⟨value, derives, le value good⟩

theorem production (mem : i ∈ core a) (found : a.productions[i]? = some p)
    (fitting : ∀ k, Next k → k ∉ barred a i) (row : Gathers Next p.slots words V)
    (build : ∀ parts, V parts → ∃ value, p.build parts = .ok value ∧ W value) :
    MeansBefore Next (.nonterminal a) words W :=
  ⟨row.free, .production mem found fitting row.collects build⟩

/-- A production that is nothing but one symbol hands its value over. -/
theorem pass (mem : i ∈ core a) (found : a.productions[i]? = some ⟨a, [.keep x], none⟩)
    (fitting : ∀ k, Next k → k ∉ barred a i) (h : MeansBefore Next x words V) :
    MeansBefore Next (.nonterminal a) words V :=
  production mem found fitting (.last h fun _ => id) fun parts good => ⟨parts, rfl, good⟩

end MeansBefore

namespace Means

theorem token (w : Word) (free : ¬ w.IsReserved) :
    Means (.terminal w.kind) [w] (IsToken w) :=
  MeansBefore.token w free

/-- A production that may stand before everything that may follow its nonterminal. -/
theorem production (mem : i ∈ core a) (found : a.productions[i]? = some p)
    (open_ : barred a i = []) (row : Gathers (fun _ => True) p.slots words V)
    (build : ∀ parts, V parts → ∃ value, p.build parts = .ok value ∧ W value) :
    Means (.nonterminal a) words W :=
  MeansBefore.production mem found (fun k _ => by simp [open_]) row build

theorem pass (mem : i ∈ core a) (found : a.productions[i]? = some ⟨a, [.keep x], none⟩)
    (open_ : barred a i = []) (h : Means x words V) : Means (.nonterminal a) words V :=
  MeansBefore.pass mem found (fun k _ => by simp [open_]) h

end Means

end Productions

/-- The next tighter level. -/
def Level.tighter (l : Level) : Level := (Level.all[l.index + 1]?).getD .primary

theorem tighter_production : ∀ brace, ∀ l ∈ Level.all, l ≠ .primary →
    (Level.tighter l).index = l.index + 1 ∧ 0 ∈ core (.chain brace l) ∧
      (Nonterminal.chain brace l).productions[0]? =
        some ⟨.chain brace l, [.keep (.nonterminal (.chain brace (Level.tighter l)))], none⟩ := by
  decide

theorem mem_all (l : Level) : l ∈ Level.all := by
  cases l <;> decide

theorem index_injective {l m : Level} (h : l.index = m.index) : l = m := by
  have all : ∀ l ∈ Level.all, ∀ m ∈ Level.all, l.index = m.index → l = m := by decide
  exact all l (mem_all l) m (mem_all m) h

namespace Means

variable {words : List Word} {V W : List Part → Prop}

/-- What has a meaning at some level has the same one at every looser level. -/
theorem lift {brace : Bool} {l m : Level} (h : Means (.nonterminal (.chain brace m)) words V)
    (le : l.index ≤ m.index) : Means (.nonterminal (.chain brace l)) words V := by
  obtain ⟨count, same⟩ := Nat.exists_eq_add_of_le le
  induction count generalizing l with
  | zero => rwa [index_injective same.symm]
  | succ count ih =>
    have inner : l ≠ .primary := by
      rintro rfl
      have last : m.index ≤ Level.primary.index := by cases m <;> decide
      omega
    obtain ⟨next, mem, found⟩ := tighter_production brace l (mem_all l) inner
    exact pass mem found rfl (ih (by omega) (by omega))

/-- A primary may always stand where a brace could. -/
theorem primary (h : Means (.nonterminal (.chain false .primary)) words V) (brace : Bool)
    (l : Level) : Means (.nonterminal (.chain brace l)) words V := by
  have last : l.index ≤ Level.primary.index := by cases l <;> decide
  refine lift (m := .primary) ?_ last
  cases brace with
  | false => exact h
  | true => exact pass (i := 0) (by decide) rfl rfl h

end Means

section Lists

theorem AreNodes.append {ms ns : List Node} {v w : List Part} (hv : AreNodes ms v)
    (hw : AreNodes ns w) : AreNodes (ms ++ ns) (v ++ w) := by
  obtain ⟨as, rfl, same⟩ := hv
  obtain ⟨bs, rfl, same'⟩ := hw
  exact ⟨as ++ bs, by simp, by simp [same, same']⟩

theorem IsNode.areNodes {n : Node} {v : List Part} (h : IsNode n v) : AreNodes [n] v := by
  obtain ⟨m, rfl, same⟩ := h
  exact ⟨[m], rfl, by simp [same]⟩

theorem compact_nodes (ns : List Node) : Part.compact (ns.map .node) = ns := by
  rw [Part.compact, List.filterMap_map]
  exact List.filterMap_some

theorem AreNodes.compact {ns : List Node} {parts : List Part} (h : AreNodes ns parts) :
    (Part.compact parts).map Node.unplaced = ns.map Node.asRead := by
  obtain ⟨ms, rfl, same⟩ := h
  rw [compact_nodes, same]

/-- The words of each item with a comma before them. -/
def commaWords (items : List (List Word)) : List Word := items.flatMap (⟨.comma, ","⟩ :: ·)

/-- The words of the items with commas between them. -/
def listWords : List (List Word) → List Word
  | [] => []
  | words :: rest => words ++ commaWords rest

/-- The nonterminal reads the items after the first, each with a comma before it. -/
structure Separates (more item : Nonterminal) : Prop where
  open_ : barred more 0 = [] ∧ barred more 1 = []
  first : 0 ∈ core more ∧
    more.productions[0]? = some ⟨more, [.skip .comma, .keep (.nonterminal item)], none⟩
  next : 1 ∈ core more ∧ more.productions[1]? =
    some ⟨more, [.keep (.nonterminal more), .skip .comma, .keep (.nonterminal item)], none⟩

/-- What reads so many items. -/
def itemSlots (item more : Nonterminal) : Nat → List Slot
  | 0 => []
  | 1 => [.keep (.nonterminal item)]
  | _ => [.keep (.nonterminal item), .keep (.nonterminal more)]

/-- The words are an item of a list. A name may start them that is spelled like a word, if no word
is usable there. -/
structure IsItem (item : Nonterminal) (n : Node) (words : List Word) : Prop where
  named : ∀ w ∈ words.head?, w.IsReserved → IsName w.text ∧ .nonterminal item ∈ namedSymbols
  yields : Yields (fun _ => True) (.nonterminal item) words (AreNodes [n])

/-- Each node is what the words at its position mean as an item. -/
abbrev AreItems (item : Nonterminal) (ns : List Node) (items : List (List Word)) : Prop :=
  List.Forall₂ (IsItem item) ns items

variable {item more : Nonterminal} {n : Node} {ns : List Node} {words : List Word}
variable {items : List (List Word)} {slots : List Slot} {V : List Part → Prop}

theorem IsItem.of_means (h : Means (.nonterminal item) words (IsNode n)) :
    IsItem item n words :=
  ⟨fun w first reserved => absurd reserved (h.free w first),
    (h.mono fun _ => IsNode.areNodes).yields⟩

/-- A comma before an item. -/
theorem IsItem.comma (h : IsItem item n words) :
    Gathers Next [.skip .comma, .keep (.nonterminal item)] (⟨.comma, ","⟩ :: words)
      (AreNodes [n]) := by
  refine .skipNamed ⟨.comma, ","⟩ (by decide) ?_ ?_
  · intro w first reserved
    obtain ⟨name, named⟩ := h.named w first reserved
    exact ⟨name, .inr ⟨_, named, rfl⟩⟩
  · exact .only h.yields

/-- The items after the first are read from left to right. -/
theorem means_more (h : Separates more item) {read : List Word} {done : List Node}
    (start : Means (.nonterminal more) read (AreNodes done)) (own : AreItems item ns items) :
    Means (.nonterminal more) (read ++ commaWords items) (AreNodes (done ++ ns)) := by
  induction own generalizing read done with
  | nil => simpa [commaWords] using start
  | @cons n words ns items first _ ih =>
    have step : Means (.nonterminal more) (read ++ ⟨.comma, ","⟩ :: words)
        (AreNodes (done ++ [n])) := by
      refine .production h.next.1 h.next.2 h.open_.2 (.keep start first.comma) ?_
      rintro parts ⟨v, w, before, last, rfl⟩
      exact ⟨_, rfl, before.append last⟩
    simpa [commaWords] using ih step

/-- All items in a row, before whatever else there is to read. -/
theorem collects_items (h : Separates more item) (own : AreItems item ns items)
    (rest : Gathers Next slots words V) :
    Collects Next (itemSlots item more ns.length ++ slots) (listWords items ++ words) fun parts =>
      ∃ value others, AreNodes ns value ∧ V others ∧ parts = value ++ others := by
  cases own with
  | nil =>
    intro tokens same
    obtain ⟨parts, reads, holds⟩ := rest.collects tokens same
    exact ⟨parts, reads, [], parts, ⟨[], rfl, rfl⟩, holds, rfl⟩
  | @cons n words' ns items first others =>
    cases others with
    | nil =>
      rw [listWords, commaWords, List.flatMap_nil, List.append_nil]
      exact .keep first.yields rest
    | @cons n' words'' ns items second others =>
      have start : Means (.nonterminal more) (⟨.comma, ","⟩ :: words'') (AreNodes [n']) :=
        .production h.first.1 h.first.2 h.open_.1 second.comma fun parts good => ⟨_, rfl, good⟩
      have same : listWords (words' :: words'' :: items) ++ words =
          words' ++ (⟨.comma, ","⟩ :: words'' ++ commaWords items ++ words) := by
        simp [listWords, commaWords]
      rw [same]
      have row : Collects Next _ _ _ :=
        .keep first.yields (.keep (means_more h start others) rest)
      intro tokens same
      obtain ⟨parts, reads, v, _, nodes, ⟨w, others, nodes', holds, rfl⟩, rfl⟩ := row tokens same
      refine ⟨_, reads, v ++ w, others, nodes.append nodes', holds, ?_⟩
      rw [List.append_assoc]

/-- The words of items start like the first item. -/
theorem named_items (more : Nonterminal) (slots : List Slot) (own : AreItems item ns items) (rest : StartFree words) :
    ∀ w ∈ (listWords items ++ words).head?, w.IsReserved →
      IsName w.text ∧
        ∃ y ∈ namedSymbols, nextSymbol? (itemSlots item more ns.length ++ slots) = some y := by
  intro w first reserved
  cases own with
  | nil => exact absurd reserved (rest w first)
  | @cons n words' ns items own others =>
    cases words' with
    | nil =>
      obtain ⟨value, derives, -⟩ := own.yields [] rfl
      obtain ⟨t, more, none, -⟩ := derives.opens
      cases none
    | cons v words' =>
      obtain ⟨name, named⟩ := own.named v rfl (by cases first; exact reserved)
      cases first
      exact ⟨name, _, named, by cases others <;> rfl⟩

/-- Between items and what they are behind of nothing is taken for a word that is none. -/
theorem Gathers.listed (h : Separates more item) (mark : Word) (fixed : mark.kind ≠ .name)
    (own : AreItems item ns items) (rest : Gathers Next slots words V) :
    Gathers Next (.skip mark.kind :: (itemSlots item more ns.length ++ slots))
      (mark :: (listWords items ++ words)) fun parts =>
        ∃ value others, AreNodes ns value ∧ V others ∧ parts = value ++ others :=
  .skipNamed mark fixed
    (fun w first reserved =>
      ⟨(named_items more slots own rest.free w first reserved).1,
        .inr (named_items more slots own rest.free w first reserved).2⟩)
    (collects_items h own rest)

end Lists

end Grammar

end Hyperscript
