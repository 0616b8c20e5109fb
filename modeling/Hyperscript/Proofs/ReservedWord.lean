import Hyperscript.Proofs.CoreGrammar
import Hyperscript.Proofs.Opening
import Mathlib.Data.List.Nodup

/-!
# Words that no expression has for a name

A name may be spelled like a word of the grammar, where the word itself cannot stand. The words that
open a declaration can stand wherever an expression may start, so the lexer never takes them for the
name of one. What the table has to say for this is checked state by state; from then on a derivation
can be trusted to make no expression of such a name.
-/
namespace Hyperscript.Grammar

/-- What is known of a token that was read where these terminals are usable. -/
structure Token.ReadFor (usable : Terminal → Bool) (t : Token) : Prop where
  scanned : t.Scanned
  spelled : ∀ w, (t.kind, w) ∈ Terminal.spellings → t.text = w
  free : t.kind = .name → ∀ entry ∈ Terminal.spellings, entry.2 = t.text → usable entry.1 = false

section Lexer

variable {usable : Terminal → Bool}

theorem kinds_nodup : (Terminal.spellings.map Prod.fst).Nodup := by decide +kernel

/-- Each word and each mark has one spelling. -/
theorem spelling_unique {kind : Terminal} {v w : Text} (hv : (kind, v) ∈ Terminal.spellings)
    (hw : (kind, w) ∈ Terminal.spellings) : v = w := by
  have same : (kind, v) = (kind, w) := List.inj_on_of_nodup_map kinds_nodup hv hw rfl
  exact congrArg Prod.snd same

/-- A name that is not taken for a word is spelled like no usable word. -/
theorem free_of_ofName {kind : Terminal} {w : Text}
    (h : Terminal.ofName usable kind w = .name) :
    ∀ entry ∈ Terminal.spellings, entry.2 = w → usable entry.1 = false := by
  rcases ofName_cases usable kind w with same | word
  · rw [same] at h
    subst h
    intro entry member spelled
    apply Bool.eq_false_iff.mpr
    intro use
    simp only [Terminal.ofName, decide_true, Bool.true_or, if_true] at same
    cases found : Terminal.spellings.find? fun e => e.2 = w && usable e.1 with
    | none => exact absurd (by simp [spelled, use]) (List.find?_eq_none.mp found entry member)
    | some e =>
      rw [found] at same
      exact ne_name_of_mem_spellings (List.mem_of_find?_eq_some found) same
  · exact absurd h (ne_name_of_mem_spellings word)

theorem readFor_of_first {t : Text} {kind : Terminal} {length : Nat}
    (h : Lexeme.first usable t = .token kind length) (position : Position) :
    Token.ReadFor usable ⟨kind, t.take length, position⟩ := by
  have scanned := scanned_of_first h position
  simp only [Lexeme.first] at h
  split at h
  · cases h
  · cases found : Lexeme.ofClass usable t with
    | some lexeme =>
      rw [found] at h
      obtain ⟨⟨own, find⟩, hit, same⟩ := Option.map_eq_some_iff.mp found
      have inside := List.mem_of_find?_eq_some hit
      cases same.trans h
      refine ⟨scanned, ?_, fun name => free_of_ofName name⟩
      intro w spelled
      rcases ofName_cases usable own (t.take (find t)) with kept | word
      · dsimp only at spelled
        rw [kept] at spelled
        exact absurd inside (not_mem_classes spelled find)
      · exact spelling_unique word spelled
    | none =>
      rw [found] at h
      cases fixed : Lexeme.ofSpelling usable t with
      | none => simp only [fixed, Option.orElse_none, Option.getD_none, reduceCtorEq] at h
      | some lexeme =>
        simp only [fixed, Option.orElse_none, Option.getD_some] at h
        obtain ⟨⟨own, w⟩, hit, same⟩ := Option.map_eq_some_iff.mp fixed
        have inside := List.mem_of_find?_eq_some hit
        have start := List.find?_some hit
        rw [Bool.and_eq_true] at start
        cases same.trans h
        refine ⟨scanned, ?_, fun name => absurd name (ne_name_of_mem_spellings inside)⟩
        intro v spelled
        cases spelling_unique inside spelled
        exact (List.prefix_iff_eq_take.mp (List.isPrefixOf_iff_prefix.mp start.1)).symm

/-- Every token that the lexer finds is known in this way. -/
theorem next_readFor {fuel : Nat} {input rest : Input} {token : Token}
    (h : input.next usable fuel = .ok (token, rest)) : token.ReadFor usable := by
  induction fuel generalizing input with
  | zero => cases h
  | succ fuel ih =>
    have scanned := next_scanned h
    rw [Input.next] at h
    split at h
    · cases h
      have other : ∀ w, (Terminal.finish, w) ∉ Terminal.spellings := by
        intro w spelled
        have absent : Terminal.finish ∉ Terminal.spellings.map Prod.fst := by decide
        exact absent (List.mem_map.mpr ⟨_, spelled, rfl⟩)
      refine ⟨scanned, fun w spelled => absurd spelled (other w), ?_⟩
      rintro ⟨⟩
    · split at h
      · cases h
      · exact ih h
      · rename_i found
        cases h
        exact readFor_of_first found _

theorem advance_readFor {c next : Configuration} {stack : List Frame}
    (h : c.advance stack = .ok next) :
    next.token.ReadFor (Table.row (stateOf stack)).accepts := by
  simp only [Configuration.advance] at h
  split at h
  · rename_i found
    cases h
    exact next_readFor found
  · cases h

end Lexer

/-- A name that is spelled like a word that opens a declaration. -/
def Token.IsReserved (t : Token) : Prop := t.kind = .name ∧ t.text ∈ Text.openingWords

/-- The production makes an expression of a name, or a parameter that starts one. -/
def Production.isNaming (p : Production) : Bool :=
  decide (p.action = some .arrowName) ||
    decide (p.left = .chain .false .primary ∧ p.action = some .identifier)

namespace Row

/-- What was read last may be made an expression of here. -/
def names (r : Row) : Bool :=
  r.reductions.any fun entry => (entry.2.1.productions[entry.2.2]?).any Production.isNaming

/-- What the parser reads just before a name that starts no expression. -/
def preludes : List Nonterminal :=
  [.variableKind, .decorators, .decorator, .decoratorTarget, .key, .classMembers, .classMember,
   .accessor]

/-- A name that comes next does not become an expression: what is reduced before it leads to such a
state again, and what is shifted is not made an expression of. -/
def guards (r : Row) : Bool :=
  match r.shift? .name with
  | some g => !(Table.row g).names
  | none => (r.reduction? .name).all fun p => p.left ∈ preludes

/-- Where a word cannot stand that opens a declaration, a name spelled like it is guarded against. -/
def isGuarded (r : Row) : Bool :=
  ((r.accepts .functionWord && r.accepts .classWord) || r.guards) &&
    r.gotos.all fun entry => decide (entry.1 ∉ preludes) || (Table.row entry.2).guards

theorem mem_gotos {r : Row} {a : Nonterminal} {g : Nat} (h : r.goto? a = some g) :
    (a, g) ∈ r.gotos := by
  obtain ⟨⟨b, g'⟩, found, rfl⟩ := Option.map_eq_some_iff.mp h
  have same := List.find?_some found
  rw [decide_eq_true_eq] at same
  exact same ▸ List.mem_of_find?_eq_some found

theorem names_of_reduction {r : Row} {t : Terminal} {p : Production} (found : r.reduction? t = some p)
    (naming : p.isNaming = true) : r.names = true := by
  simp only [reduction?, Option.bind_eq_some_iff] at found
  obtain ⟨entry, hit, same⟩ := found
  exact List.any_eq_true.mpr ⟨entry, List.mem_of_find?_eq_some hit, by rw [same]; exact naming⟩

end Row

theorem states_guarded : (List.range 640).all (fun s => (Table.row s).isGuarded) = true := by
  decide +kernel

theorem isGuarded_row (s : Nat) : (Table.row s).isGuarded = true := by
  by_cases h : s < 640
  · exact List.all_eq_true.mp states_guarded s (List.mem_range.mpr h)
  · rw [Table.row_of_le (Nat.le_of_not_lt h)]
    decide

/-- A reserved name is only read where it is guarded against. -/
theorem Token.ReadFor.guards {s : Nat} {t : Token} (h : t.ReadFor (Table.row s).accepts)
    (reserved : t.IsReserved) : (Table.row s).guards = true := by
  obtain ⟨name, spelled⟩ := reserved
  have known : (Terminal.functionWord, Text.ofString "function") ∈ Terminal.spellings ∧
      (Terminal.classWord, Text.ofString "class") ∈ Terminal.spellings := by decide
  have guarded := isGuarded_row s
  simp only [Row.isGuarded, Bool.and_eq_true, Bool.or_eq_true] at guarded
  refine guarded.1.resolve_left ?_
  rintro ⟨function, other⟩
  simp only [Text.openingWords, List.mem_cons, List.not_mem_nil, or_false] at spelled
  rcases spelled with same | same
  · have unusable := h.free name _ known.1 same.symm
    rw [function] at unusable
    cases unusable
  · have unusable := h.free name _ known.2 same.symm
    rw [other] at unusable
    cases unusable

/-- What is known of every token. -/
def Token.IsRead (t : Token) : Prop :=
  t.Scanned ∧ ∀ w, (t.kind, w) ∈ Terminal.spellings → t.text = w

mutual

/-- A value that the symbol has in some text, where no expression is made of a reserved name. -/
inductive Parses : Symbol → List Part → Prop
  | token {t : Token} : t.IsRead → Parses (.terminal t.kind) [.token t]
  | production {a : Nonterminal} {p : Production} {parts value : List Part} :
      p ∈ a.productions → ParsesRow p.slots parts → p.build parts = .ok value →
      (p.isNaming = true → ∀ t, parts = [.token t] → ¬ t.IsReserved) →
      Parses (.nonterminal a) value

/-- The parts that a row of slots keeps of such values. -/
inductive ParsesRow : List Slot → List Part → Prop
  | nil : ParsesRow [] []
  | absent {slots : List Slot} {parts : List Part} :
      ParsesRow slots parts → ParsesRow (.absent :: slots) (.absent :: parts)
  | skip {k : Terminal} {slots : List Slot} {parts : List Part} :
      ParsesRow slots parts → ParsesRow (.skip k :: slots) parts
  | keep {s : Symbol} {slots : List Slot} {value parts : List Part} :
      Parses s value → ParsesRow slots parts → ParsesRow (.keep s :: slots) (value ++ parts)

end

section Machine

/-- The value of a frame belongs to its symbol, and a reserved name is not made an expression of in
the state behind it. -/
structure Frame.Parsed (f : Frame) : Prop where
  value : Parses f.symbol f.value
  unnamed : ∀ t : Token, t.IsReserved → f.symbol = .terminal .name → f.value = [.token t] →
    (Table.row f.state).names = false

theorem gather_parses {slots : List Slot} {frames : List Frame} {parts : List Part}
    (parsed : ∀ f ∈ frames, f.Parsed) (h : gather slots frames = some parts) :
    ParsesRow slots parts := by
  fun_induction gather slots frames generalizing parts with
  | case1 =>
    cases h
    exact .nil
  | case2 frames slots ih =>
    obtain ⟨rest, found, rfl⟩ := Option.map_eq_some_iff.mp h
    exact .absent (ih parsed found)
  | case3 t slots f frames same ih =>
    exact .skip (ih (fun g hg => parsed g (List.mem_cons_of_mem f hg)) h)
  | case4 => cases h
  | case5 slots f frames ih =>
    obtain ⟨rest, found, rfl⟩ := Option.map_eq_some_iff.mp h
    have own := (parsed f List.mem_cons_self).value
    exact .keep own (ih (fun g hg => parsed g (List.mem_cons_of_mem f hg)) found)
  | case6 => cases h
  | case7 => cases h

/-- A name is made an expression of where nothing else stands in the production. -/
theorem slots_of_isNaming {p : Production} (member : p ∈ p.left.productions)
    (naming : p.isNaming = true) : p.slots = [.keep (.terminal .name)] := by
  have each : ∀ a ∈ nonterminals, ∀ q ∈ a.productions, q.isNaming = true →
      q.slots = [.keep (.terminal .name)] := by decide +kernel
  exact each _ (mem_nonterminals _) p member naming

theorem reduce_parses {p : Production} {stack rest : List Frame} {value : List Part}
    (member : p ∈ p.left.productions) (parsed : ∀ f ∈ stack, f.Parsed)
    (names : p.isNaming = true → (Table.row (stateOf stack)).names = true)
    (h : reduce p stack = .ok (value, rest)) :
    Parses (.nonterminal p.left) value ∧ ∀ f ∈ rest, f.Parsed := by
  simp only [reduce] at h
  split at h
  · cases h
  · rename_i parts gathered
    have taken : ∀ f ∈ (stack.take p.right.length).reverse, f.Parsed := fun f hf =>
      parsed f (List.mem_of_mem_take (List.mem_reverse.mp hf))
    obtain ⟨made, built, same⟩ := ok_of_map h
    cases same
    refine ⟨.production member (gather_parses taken gathered) built ?_,
      fun f hf => parsed f (List.mem_of_mem_drop hf)⟩
    -- the name is the value of the frame on top, whose state is the current one
    rintro naming t rfl reserved
    have slots := slots_of_isNaming member naming
    have right : p.right = [.terminal .name] := by rw [Production.right, slots]; rfl
    rw [slots, right] at gathered
    cases stack with
    | nil => cases gathered
    | cons f below =>
      simp only [List.length_singleton, List.take_succ_cons, List.take_zero, List.reverse_singleton,
        gather] at gathered
      split at gathered
      · rename_i symbol
        simp only [Option.map_some, List.append_nil, Option.some.injEq] at gathered
        have unnamed := (parsed f List.mem_cons_self).unnamed t reserved symbol gathered
        cases (names naming).symm.trans unnamed
      · cases gathered

/-- What holds of a configuration all along: its values are derived, and a reserved name that comes
next is guarded against. -/
structure Configuration.IsGuarded (c : Configuration) : Prop where
  stack : ∀ f ∈ c.stack, f.Parsed
  token : c.token.IsRead
  guarded : c.token.IsReserved → (Table.row (stateOf c.stack)).guards = true

theorem Configuration.IsGuarded.of_advance {c next : Configuration} {stack : List Frame}
    (parsed : ∀ f ∈ stack, f.Parsed) (h : c.advance stack = .ok next) : next.IsGuarded := by
  have same := (advance_cases h).1
  have read := advance_readFor h
  refine ⟨same ▸ parsed, ⟨read.scanned, read.spelled⟩, ?_⟩
  rw [same]
  exact read.guards

/-- A move keeps to this, or ends in a program. -/
theorem step_parses {c : Configuration} {outcome : Configuration ⊕ Node} (own : c.IsGuarded)
    (h : c.step = .ok outcome) :
    (∃ next, outcome = .inl next ∧ next.IsGuarded) ∨
      ∃ n, outcome = .inr n ∧ Parses (.nonterminal .program) [.node n] := by
  rcases step_cases h with ⟨state, next, shifts, advanced, rfl⟩ |
    ⟨p, value, rest, unshifted, found, reduced, last⟩
  · refine .inl ⟨next, rfl, .of_advance ?_ advanced⟩
    refine List.forall_mem_cons.mpr ⟨⟨.token own.token, ?_⟩, own.stack⟩
    rintro t reserved - same
    cases same
    have guarded := own.guarded reserved
    rw [reserved.1] at shifts
    rw [Row.guards, shifts] at guarded
    simpa using guarded
  · obtain ⟨parsed, others⟩ := reduce_parses (Row.reduction_mem found) own.stack
      (Row.names_of_reduction found) reduced
    rcases last with ⟨n, rfl, isProgram, rfl⟩ | ⟨state, next, goes, rfl, token, stack⟩
    · rw [isProgram] at parsed
      exact .inr ⟨n, rfl, parsed⟩
    · refine .inl ⟨next, rfl, ?_, token ▸ own.token, ?_⟩
      · rw [stack]
        exact List.forall_mem_cons.mpr ⟨⟨parsed, fun _ _ other => by cases other⟩, others⟩
      · rw [token, stack]
        intro reserved
        have guarded := own.guarded reserved
        rw [reserved.1] at unshifted found
        rw [Row.guards, unshifted] at guarded
        dsimp only at guarded
        rw [found, Option.all_some, decide_eq_true_eq] at guarded
        have row := isGuarded_row (stateOf rest)
        rw [Row.isGuarded, Bool.and_eq_true] at row
        have goal := List.all_eq_true.mp row.2 _ (Row.mem_gotos goes)
        rw [Bool.or_eq_true, decide_eq_true_eq] at goal
        exact goal.resolve_left (not_not.mpr guarded)

theorem run_parses {fuel : Nat} {c : Configuration} {n : Node} (own : c.IsGuarded)
    (h : run fuel c = .ok n) : Parses (.nonterminal .program) [.node n] := by
  induction fuel generalizing c with
  | zero => cases h
  | succ fuel ih =>
    rw [run] at h
    cases moved : c.step with
    | error e => rw [moved] at h; cases h
    | ok outcome =>
      rw [moved] at h
      rcases step_parses own moved with ⟨next, rfl, later⟩ | ⟨m, rfl, parsed⟩
      · exact ih later h
      · cases h
        exact parsed

/-- The tree of a text is a value of the start symbol in this sense. -/
theorem parseTree_parses {source : Text} {n : Node} (h : parseTree source = .ok n) :
    Parses (.nonterminal .program) [.node n] := by
  obtain ⟨first, read, h⟩ := ok_of_bind h
  exact run_parses (.of_advance (fun f hf => absurd hf List.not_mem_nil) read) h

end Machine

end Hyperscript.Grammar
