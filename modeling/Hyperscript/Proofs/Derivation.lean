import Hyperscript.Grammar.Parser

/-!
# Derivations

A symbol derives a word of tokens with a value: a token is its own value, and a production makes
its value from what its slots keep. Whatever the table says, the parser's stack only holds values
that the symbols on it derive, so the tree of a text is a value of the start symbol. The tokens of
the word are texts of their classes, because the lexer found them.
-/
namespace Hyperscript.Grammar

theorem ok_of_map {ε α β : Type} {f : α → β} {x : Except ε α} {b : β} (h : x.map f = .ok b) :
    ∃ a, x = .ok a ∧ f a = b := by
  cases x with
  | error e => cases h
  | ok a => exact ⟨a, rfl, Except.ok.inj h⟩

theorem ok_of_bind {ε α β : Type} {f : α → Except ε β} {x : Except ε α} {b : β}
    (h : x >>= f = .ok b) : ∃ a, x = .ok a ∧ f a = .ok b := by
  cases x with
  | error e => cases h
  | ok a => exact ⟨a, rfl, h⟩

theorem ok_of_any {ε α : Type} {x : Except ε α} {check : α → Bool}
    (h : x.toOption.any check = true) : ∃ a, x = .ok a ∧ check a = true := by
  cases x with
  | error e => cases h
  | ok a => exact ⟨a, rfl, h⟩

/-- A token of a class is what the class finds at the start of some text. -/
def Token.Scanned (t : Token) : Prop :=
  ∀ scan, (t.kind, scan) ∈ Scan.classes →
    ∃ whole, scan whole ≠ 0 ∧ t.text = whole.take (scan whole)

section Scanned

variable {usable : Terminal → Bool} {kind : Terminal}

/-- Words and marks form no class. -/
theorem not_mem_classes {spelled : Text} (fixed : (kind, spelled) ∈ Terminal.spellings)
    (scan : Text → Nat) : (kind, scan) ∉ Scan.classes := by
  have apart : ∀ entry ∈ Terminal.spellings, entry.1 ∉ Scan.classes.map Prod.fst := by
    decide
  exact fun inside => apart _ fixed (List.mem_map.mpr ⟨_, inside, rfl⟩)

/-- Each class has one way to find its members. -/
theorem classes_unique {first second : Text → Nat} (one : (kind, first) ∈ Scan.classes)
    (other : (kind, second) ∈ Scan.classes) : first = second := by
  simp only [Scan.classes, List.mem_cons, Prod.mk.injEq, List.not_mem_nil, or_false] at one other
  grind

/-- A name is of its class or is a word. -/
theorem ofName_cases (usable : Terminal → Bool) (kind : Terminal) (spelled : Text) :
    Terminal.ofName usable kind spelled = kind ∨
      (Terminal.ofName usable kind spelled, spelled) ∈ Terminal.spellings := by
  rw [Terminal.ofName]
  split
  · cases found : Terminal.spellings.find? fun entry => entry.2 = spelled && usable entry.1 with
    | none => exact .inl rfl
    | some entry =>
      have same := List.find?_some found
      simp only [Bool.and_eq_true, decide_eq_true_eq] at same
      exact .inr (same.1 ▸ List.mem_of_find?_eq_some found)
  · exact .inl rfl

theorem scanned_of_first {t : Text} {length : Nat}
    (h : Lexeme.first usable t = .token kind length) (position : Position) :
    Token.Scanned ⟨kind, t.take length, position⟩ := by
  intro scan ofClass
  simp only [Lexeme.first] at h
  split at h
  · cases h
  · cases found : Lexeme.ofClass usable t with
    | some lexeme =>
      rw [found] at h
      obtain ⟨⟨own, find⟩, hit, same⟩ := Option.map_eq_some_iff.mp found
      have usable := List.find?_some hit
      simp only [Bool.and_eq_true, decide_eq_true_eq] at usable
      cases same.trans h
      rcases ofName_cases _ own (t.take (find t)) with kept | word
      · dsimp only at ofClass
        rw [kept] at ofClass
        cases classes_unique (List.mem_of_find?_eq_some hit) ofClass
        exact ⟨t, usable.2, rfl⟩
      · exact absurd ofClass (not_mem_classes word scan)
    | none =>
      rw [found] at h
      cases spelled : Lexeme.ofSpelling usable t with
      | none =>
        simp only [spelled, Option.orElse_none, Option.getD_none, reduceCtorEq] at h
      | some lexeme =>
        simp only [spelled, Option.orElse_none, Option.getD_some] at h
        obtain ⟨entry, hit, same⟩ := Option.map_eq_some_iff.mp spelled
        cases same.trans h
        exact absurd ofClass (not_mem_classes (List.mem_of_find?_eq_some hit) scan)

/-- Every token that the lexer finds is a text of its class. -/
theorem next_scanned {fuel : Nat} {input rest : Input} {token : Token}
    (h : input.next usable fuel = .ok (token, rest)) : token.Scanned := by
  induction fuel generalizing input with
  | zero => cases h
  | succ fuel ih =>
    rw [Input.next] at h
    split at h
    · cases h
      intro scan ofClass
      have absent : Terminal.finish ∉ Scan.classes.map Prod.fst := by decide
      exact absurd (List.mem_map.mpr ⟨_, ofClass, rfl⟩) absent
    · split at h
      · cases h
      · exact ih h
      · rename_i found
        cases h
        exact scanned_of_first found _

end Scanned

mutual

/-- The tokens can be read as the symbol, with this value. -/
inductive Derives : Symbol → List Token → List Part → Prop
  | token (t : Token) : Derives (.terminal t.kind) [t] [.token t]
  | production {a : Nonterminal} {p : Production} {word : List Token} {parts value : List Part} :
      p ∈ a.productions → Reads p.slots word parts → p.build parts = .ok value →
      Derives (.nonterminal a) word value

/-- The slots read the tokens one after the other and keep these parts. -/
inductive Reads : List Slot → List Token → List Part → Prop
  | nil : Reads [] [] []
  | absent {slots : List Slot} {word : List Token} {parts : List Part} :
      Reads slots word parts → Reads (.absent :: slots) word (.absent :: parts)
  | skip {slots : List Slot} {word : List Token} {parts : List Part} (t : Token) :
      Reads slots word parts → Reads (.skip t.kind :: slots) (t :: word) parts
  | keep {s : Symbol} {slots : List Slot} {first word : List Token} {value parts : List Part} :
      Derives s first value → Reads slots word parts →
      Reads (.keep s :: slots) (first ++ word) (value ++ parts)

end

theorem mem_nonterminals (a : Nonterminal) : a ∈ nonterminals := by
  cases a with
  | chain brace level => cases brace <;> cases level <;> decide +kernel
  | _ => decide +kernel

theorem left_of_mem_productions {a : Nonterminal} {p : Production} (h : p ∈ a.productions) :
    p.left = a := by
  simp only [Nonterminal.productions, List.mem_flatMap, Alternative.productions,
    List.mem_map] at h
  obtain ⟨_, _, _, _, rfl⟩ := h
  rfl

/-- A terminal derives single tokens of its kind only. -/
theorem Derives.terminal_inv {k : Terminal} {word : List Token} {value : List Part}
    (h : Derives (.terminal k) word value) :
    ∃ t : Token, t.kind = k ∧ word = [t] ∧ value = [.token t] := by
  cases h with
  | token t => exact ⟨t, rfl, rfl, rfl⟩

/-- The value of a frame belongs to its symbol, for tokens that the lexer found. -/
def Frame.Derived (f : Frame) : Prop :=
  ∃ word, (∀ t ∈ word, t.Scanned) ∧ Derives f.symbol word f.value

theorem gather_reads {slots : List Slot} {frames : List Frame} {parts : List Part}
    (derived : ∀ f ∈ frames, f.Derived) (h : gather slots frames = some parts) :
    ∃ word, (∀ t ∈ word, t.Scanned) ∧ Reads slots word parts := by
  fun_induction gather slots frames generalizing parts with
  | case1 =>
    cases h
    exact ⟨[], fun t ht => absurd ht List.not_mem_nil, .nil⟩
  | case2 frames slots ih =>
    obtain ⟨rest, found, rfl⟩ := Option.map_eq_some_iff.mp h
    obtain ⟨word, scanned, reads⟩ := ih derived found
    exact ⟨word, scanned, .absent reads⟩
  | case3 t slots f frames same ih =>
    obtain ⟨word, scanned, reads⟩ := ih (fun g hg => derived g (List.mem_cons_of_mem f hg)) h
    obtain ⟨first, here, own⟩ := derived f (List.mem_cons_self)
    rw [same] at own
    obtain ⟨token, rfl, rfl, -⟩ := own.terminal_inv
    have all := List.forall_mem_cons.mpr ⟨here token List.mem_cons_self, scanned⟩
    exact ⟨token :: word, all, .skip token reads⟩
  | case4 => cases h
  | case5 slots f frames ih =>
    obtain ⟨rest, found, rfl⟩ := Option.map_eq_some_iff.mp h
    obtain ⟨word, scanned, reads⟩ := ih (fun g hg => derived g (List.mem_cons_of_mem f hg)) found
    obtain ⟨first, here, own⟩ := derived f (List.mem_cons_self)
    exact ⟨first ++ word, List.forall_mem_append.mpr ⟨here, scanned⟩, .keep own reads⟩
  | case6 => cases h
  | case7 => cases h

theorem Row.reduction_mem {r : Row} {t : Terminal} {p : Production} (h : r.reduction? t = some p) :
    p ∈ p.left.productions := by
  simp only [Row.reduction?, Option.bind_eq_some_iff] at h
  obtain ⟨entry, -, found⟩ := h
  have member := List.mem_of_getElem? found
  rwa [left_of_mem_productions member]

theorem advance_cases {c next : Configuration} {stack : List Frame}
    (h : c.advance stack = .ok next) : next.stack = stack ∧ next.token.Scanned := by
  simp only [Configuration.advance] at h
  split at h
  · rename_i found
    cases h
    exact ⟨rfl, next_scanned found⟩
  · cases h

/-- What a move can be: a shift, which finds another token, a reduction that leaves a frame, or the
reduction to a program. -/
theorem step_cases {c : Configuration} {outcome : Configuration ⊕ Node}
    (h : c.step = .ok outcome) :
    (∃ state next, (Table.row (stateOf c.stack)).shift? c.token.kind = some state ∧
      c.advance (⟨state, .terminal c.token.kind, [.token c.token]⟩ :: c.stack) = .ok next ∧
      outcome = .inl next) ∨
    ∃ p value stack, (Table.row (stateOf c.stack)).shift? c.token.kind = none ∧
      (Table.row (stateOf c.stack)).reduction? c.token.kind = some p ∧
      reduce p c.stack = .ok (value, stack) ∧
      ((∃ n, outcome = .inr n ∧ p.left = .program ∧ value = [.node n]) ∨
        ∃ state next, (Table.row (stateOf stack)).goto? p.left = some state ∧
          outcome = .inl next ∧ next.token = c.token ∧
          next.stack = ⟨state, .nonterminal p.left, value⟩ :: stack) := by
  simp only [Configuration.step] at h
  split at h
  · rename_i state shifts
    obtain ⟨next, moved, rfl⟩ := ok_of_map h
    exact .inl ⟨state, next, shifts, moved, rfl⟩
  · rename_i unshifted
    split at h
    · split at h <;> cases h
    · rename_i p found
      obtain ⟨⟨value, stack⟩, reduced, h⟩ := ok_of_bind h
      refine .inr ⟨p, value, stack, unshifted, found, reduced, ?_⟩
      dsimp only at h
      split at h
      · rename_i n isProgram
        cases h
        exact .inl ⟨n, rfl, isProgram, rfl⟩
      · split at h
        · rename_i state goes
          cases h
          exact .inr ⟨state, _, goes, rfl, rfl, rfl⟩
        · cases h

theorem reduce_derives {p : Production} {stack rest : List Frame} {value : List Part}
    (member : p ∈ p.left.productions) (derived : ∀ f ∈ stack, f.Derived)
    (h : reduce p stack = .ok (value, rest)) :
    (∃ word, (∀ t ∈ word, t.Scanned) ∧ Derives (.nonterminal p.left) word value) ∧
      ∀ f ∈ rest, f.Derived := by
  simp only [reduce] at h
  split at h
  · cases h
  · rename_i parts gathered
    have taken : ∀ f ∈ (stack.take p.right.length).reverse, f.Derived := fun f hf =>
      derived f (List.mem_of_mem_take (List.mem_reverse.mp hf))
    obtain ⟨word, scanned, reads⟩ := gather_reads taken gathered
    obtain ⟨made, built, same⟩ := ok_of_map h
    cases same
    exact ⟨⟨word, scanned, .production member reads built⟩,
      fun f hf => derived f (List.mem_of_mem_drop hf)⟩

/-- A run ends in a program that the start symbol derives, if the values on the stack are derived
by their symbols. -/
theorem run_derives {fuel : Nat} {c : Configuration} {n : Node} (derived : ∀ f ∈ c.stack, f.Derived)
    (scanned : c.token.Scanned) (h : run fuel c = .ok n) :
    ∃ word, (∀ t ∈ word, t.Scanned) ∧ Derives (.nonterminal .program) word [.node n] := by
  induction fuel generalizing c with
  | zero => cases h
  | succ fuel ih =>
    rw [run] at h
    cases moved : c.step with
    | error e => rw [moved] at h; cases h
    | ok outcome =>
      rw [moved] at h
      rcases step_cases moved with
        ⟨state, next, -, advanced, rfl⟩ | ⟨p, value, rest, -, found, reduced, last⟩
      · obtain ⟨same, later⟩ := advance_cases advanced
        refine ih ?_ later h
        intro f hf
        rw [same] at hf
        rcases List.mem_cons.mp hf with rfl | below
        · exact ⟨[c.token], fun t ht => List.mem_singleton.mp ht ▸ scanned, .token c.token⟩
        · exact derived f below
      · obtain ⟨⟨word, all, own⟩, others⟩ :=
          reduce_derives (Row.reduction_mem found) derived reduced
        rcases last with ⟨m, rfl, isProgram, rfl⟩ | ⟨state, next, -, rfl, token, same⟩
        · cases h
          rw [isProgram] at own
          exact ⟨word, all, own⟩
        · refine ih ?_ (token ▸ scanned) h
          intro f hf
          rw [same] at hf
          rcases List.mem_cons.mp hf with rfl | below
          · exact ⟨word, all, own⟩
          · exact others f below

/-- The tree of a text is a value of the start symbol. -/
theorem parseTree_derives {source : Text} {n : Node} (h : parseTree source = .ok n) :
    ∃ word, (∀ t ∈ word, t.Scanned) ∧ Derives (.nonterminal .program) word [.node n] := by
  obtain ⟨first, read, h⟩ := ok_of_bind h
  obtain ⟨stack, scanned⟩ := advance_cases read
  refine run_derives ?_ scanned h
  rw [stack]
  exact fun f hf => absurd hf List.not_mem_nil

end Hyperscript.Grammar
