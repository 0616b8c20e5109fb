import Hyperscript.Proofs.CoreGrammar
import Hyperscript.Proofs.Spelling

/-!
# The parser reads the core

Whatever the core productions derive from the tokens of a text, the parser finds: from every state
with a move to a symbol it reads the tokens of the symbol and leaves their value on the stack, if
the token behind them may follow the symbol. The number of moves is bounded by the number of tokens.

A derivation says what may come next after its tokens, because an `if` without an `else` must not be
followed by one, and a declaration without a semicolon must not be carried on as an expression.
-/
namespace Hyperscript.Grammar

def nextSymbol? (slots : List Slot) : Option Symbol := (slots.filterMap Slot.symbol?).head?

/-- Behind this symbol and before these slots the token is not mistaken for a word: it is spelled
like none, or no word can be used there. -/
def IsUnmistaken (x : Symbol) (slots : List Slot) (t : Token) : Prop :=
  t.word.IsReserved → IsName t.text ∧ ∃ k, x = .terminal k ∧
    (k ∈ nameMarks ∨ ∃ y ∈ namedSymbols, nextSymbol? slots = some y)

mutual

/-- The tokens can be read as the symbol with core productions only, whenever what comes next is
one of the terminals. -/
inductive CoreDerives : (Terminal → Prop) → Symbol → List Token → List Part → Prop
  | token {Next : Terminal → Prop} (t : Token) : CoreDerives Next (.terminal t.kind) [t] [.token t]
  | production {Next : Terminal → Prop} {a : Nonterminal} {i : Nat} {p : Production}
      {tokens : List Token} {parts value : List Part} :
      i ∈ core a → a.productions[i]? = some p → (∀ k, Next k → k ∉ barred a i) →
      CoreReads Next p.slots tokens parts → p.build parts = .ok value →
      CoreDerives Next (.nonterminal a) tokens value

/-- The slots read the tokens one after the other, with core productions only. -/
inductive CoreReads : (Terminal → Prop) → List Slot → List Token → List Part → Prop
  | nil {Next : Terminal → Prop} : CoreReads Next [] [] []
  | absent {Next : Terminal → Prop} {slots : List Slot} {tokens : List Token} {parts : List Part} :
      CoreReads Next slots tokens parts →
      CoreReads Next (.absent :: slots) tokens (.absent :: parts)
  | skip {Next : Terminal → Prop} {slots : List Slot} {tokens : List Token} {parts : List Part}
      (t : Token) : (∀ u ∈ tokens.head?, IsUnmistaken (.terminal t.kind) slots u) →
      CoreReads Next slots tokens parts → CoreReads Next (.skip t.kind :: slots) (t :: tokens) parts
  | keep {Own Next : Terminal → Prop} {x : Symbol} {slots : List Slot} {first tokens : List Token}
      {value parts : List Part} : CoreDerives Own x first value →
      (∀ u ∈ tokens.head?, IsUnmistaken x slots u ∧ Own u.kind) →
      (tokens = [] → ∀ k, Next k → Own k) → CoreReads Next slots tokens parts →
      CoreReads Next (.keep x :: slots) (first ++ tokens) (value ++ parts)

end

variable {Own Next : Terminal → Prop}

/-- The token can be the first one of the symbol: it is of the right kind, and every state with a
move to the symbol accepts it. -/
structure Opens (x : Symbol) (t : Token) : Prop where
  kind_mem : t.kind ∈ x.first
  accepted : ∀ s g, enter? s x = some g → (Table.row s).accepts t.kind = true

theorem accepts_of_enter {s g : Nat} {t : Terminal} (entered : enter? s (.terminal t) = some g) :
    (Table.row s).accepts t = true ∧ (Table.row s).shift? t = some g ∧
      (Table.row g).isPlain = true := by
  obtain ⟨shifted, plain⟩ := Option.filter_eq_some_iff.mp entered
  exact ⟨Row.accepts_of_shift shifted, shifted, plain⟩

/-- In a plain state no terminal of markup is usable. -/
theorem isPlain_accepts {s : Nat} (plain : (Table.row s).isPlain = true) :
    IsPlain (Table.row s).accepts :=
  fun _ mem => Row.accepts_eq_false plain mem

theorem Opens.token (t : Token) : Opens (.terminal t.kind) t :=
  ⟨List.mem_singleton.mpr rfl, fun _ _ entered => (accepts_of_enter entered).1⟩

/-- A production opens with whatever its first symbol opens with. -/
theorem Opens.production {a : Nonterminal} {i : Nat} {p : Production} {x : Symbol} {t : Token}
    (mem : i ∈ core a) (found : a.productions[i]? = some p) (first : p.right.head? = some x)
    (h : Opens x t) : Opens (.nonterminal a) t := by
  have left : p.left = a := left_of_mem_productions (List.mem_of_getElem? found)
  obtain ⟨rest, right⟩ : ∃ rest, p.right = x :: rest := List.head?_eq_some_iff.mp first
  have isCore := isCore_of_mem mem found
  simp only [Production.isCore, right, left, Bool.and_eq_true, decide_eq_true_eq] at isCore
  obtain ⟨⟨⟨opens, -⟩, -⟩, -⟩ := isCore
  refine ⟨Terminal.mem_of_subset opens h.kind_mem, ?_⟩
  intro s g entered
  obtain ⟨q, path, -⟩ := path_of_enter entered mem found
  rw [right, path?, Option.bind_eq_some_iff] at path
  obtain ⟨next, enteredFirst, -⟩ := path
  exact h.accepted s next enteredFirst

theorem CoreDerives.opens {x : Symbol} {tokens : List Token} {value : List Part}
    (h : CoreDerives Next x tokens value) : ∃ t rest, tokens = t :: rest ∧ Opens x t := by
  induction h using CoreDerives.rec
    (motive_2 := fun _ slots tokens _ _ => ∀ x, nextSymbol? slots = some x →
      ∃ t rest, tokens = t :: rest ∧ Opens x t) with
  | token t => exact ⟨t, [], rfl, .token t⟩
  | @production _ a i p tokens parts value mem found _ _ _ ih =>
    have isCore := isCore_of_mem mem found
    obtain ⟨x, rest, right⟩ : ∃ x rest, p.right = x :: rest := by
      cases right : p.right with
      | nil => simp [Production.isCore, right] at isCore
      | cons x rest => exact ⟨x, rest, rfl⟩
    have first : p.right.head? = some x := by rw [right]; rfl
    obtain ⟨t, others, same, opens⟩ := ih x first
    exact ⟨t, others, same, opens.production mem found first⟩
  | nil _ none => cases none
  | absent _ ih x first => exact ih x first
  | skip t _ _ _ _ first =>
    cases first
    exact ⟨t, _, rfl, .token t⟩
  | keep _ _ _ _ ih _ _ first =>
    cases first
    obtain ⟨t, rest, rfl, opens⟩ := ih
    exact ⟨t, _, rfl, opens⟩

/-- Where less may come next, what could be read still can be. -/
theorem CoreReads.weaken {Less : Terminal → Prop} (le : ∀ k, Less k → Next k) {slots : List Slot}
    {tokens : List Token} {parts : List Part} (h : CoreReads Next slots tokens parts) :
    CoreReads Less slots tokens parts := by
  induction slots generalizing tokens parts with
  | nil =>
    cases h
    exact .nil
  | cons slot slots ih =>
    cases h with
    | absent reads => exact .absent (ih reads)
    | skip t free reads => exact .skip t free (ih reads)
    | keep derives next ends reads =>
      exact .keep derives next (fun none k less => ends none k (le k less)) (ih reads)

theorem CoreDerives.weaken {Less : Terminal → Prop} (le : ∀ k, Less k → Next k) {x : Symbol}
    {tokens : List Token} {value : List Part} (h : CoreDerives Next x tokens value) :
    CoreDerives Less x tokens value := by
  cases h with
  | token t => exact .token t
  | production mem found fitting reads built =>
    exact .production mem found (fun k less => fitting k (le k less)) (reads.weaken le) built

theorem CoreReads.opens {slots : List Slot} {tokens : List Token} {parts : List Part}
    (h : CoreReads Next slots tokens parts) {x : Symbol} (first : nextSymbol? slots = some x) :
    ∃ t others, tokens = t :: others ∧ Opens x t := by
  induction h using CoreReads.rec (motive_1 := fun _ _ _ _ _ => True) with
  | nil => cases first
  | absent _ ih => exact ih first
  | skip t _ _ _ =>
    cases first
    exact ⟨t, _, rfl, .token t⟩
  | keep own _ _ _ _ =>
    cases first
    obtain ⟨t, others, rfl, opens⟩ := own.opens
    exact ⟨t, _, rfl, opens⟩
  | _ => trivial

theorem CoreReads.eq_nil {slots : List Slot} {tokens : List Token} {parts : List Part}
    (h : CoreReads Next slots tokens parts) (right : slots.filterMap Slot.symbol? = []) :
    tokens = [] := by
  induction h using CoreReads.rec (motive_1 := fun _ _ _ _ _ => True) with
  | nil => rfl
  | absent _ ih => exact ih right
  | skip => cases right
  | keep => cases right
  | _ => trivial

/-- The machine gets from one configuration to the other in so many moves. -/
def Moves (count : Nat) (c d : Configuration) : Prop := ∀ fuel, run (count + fuel) c = run fuel d

namespace Moves

theorem refl (c : Configuration) : Moves 0 c c := fun fuel => by rw [Nat.zero_add]

theorem trans {m n : Nat} {c d e : Configuration} (first : Moves m c d) (later : Moves n d e) :
    Moves (m + n) c e := fun fuel => by
  rw [Nat.add_assoc, first, later]

theorem step {c d : Configuration} (h : c.step = .ok (.inl d)) : Moves 1 c d := fun fuel => by
  rw [Nat.add_comm, run, h]

end Moves

def Configuration.Sees (c : Configuration) (tokens : List Token) : Prop :=
  Ahead c.token c.input tokens

/-- The kind of the next token; at the end of the text it is the end. -/
def nextKind (tokens : List Token) : Terminal := (tokens.head?.map Token.kind).getD .finish

theorem Configuration.Sees.kind_eq {c : Configuration} {tokens : List Token}
    (h : c.Sees tokens) : c.token.kind = nextKind tokens := by
  cases tokens with
  | nil => exact h
  | cons t rest => exact congrArg Token.kind h.1

/-- A token that has a shift is shifted, if the state behind it admits the next one. -/
theorem moves_shift {c : Configuration} {t : Token} {rest : List Token} {s g : Nat}
    (state : stateOf c.stack = s) (entered : enter? s (.terminal t.kind) = some g)
    (sees : c.Sees (t :: rest))
    (admitted : ∀ u ∈ rest.head?, u.word.Admitted (Table.row g).accepts) :
    ∃ d, Moves 1 c d ∧ d.stack = ⟨g, .terminal t.kind, [.token t]⟩ :: c.stack ∧ d.Sees rest := by
  obtain ⟨-, shifted, plain⟩ := accepts_of_enter entered
  obtain ⟨rfl, holds⟩ := sees
  obtain ⟨token, input, read, ahead⟩ :=
    Input.next_of_holds holds (isPlain_accepts plain) admitted
  let stack : List Frame := ⟨g, .terminal c.token.kind, [.token c.token]⟩ :: c.stack
  let last := if token.kind = .finish then c.last else token.position
  refine ⟨⟨stack, token, input, last⟩, .step ?_, rfl, ahead⟩
  have advanced : c.advance stack = .ok ⟨stack, token, input, last⟩ := by
    simp only [Configuration.advance]
    rw [show stateOf stack = g from rfl, read]
  simp only [Configuration.step, state, shifted]
  rw [advanced]
  rfl

/-- A production whose frames are on the stack is reduced where the table says so. -/
theorem moves_reduce {c : Configuration} {p : Production} {frames base : List Frame}
    {parts value : List Part} {g : Nat}
    (shift : (Table.row (stateOf c.stack)).shift? c.token.kind = none)
    (reduction : (Table.row (stateOf c.stack)).reduction? c.token.kind = some p)
    (stack : c.stack = frames.reverse ++ base) (length : frames.length = p.right.length)
    (gathered : gather p.slots frames = some parts) (built : p.build parts = .ok value)
    (inner : p.left ≠ .program) (entered : enter? (stateOf base) (.nonterminal p.left) = some g) :
    Moves 1 c { c with stack := ⟨g, .nonterminal p.left, value⟩ :: base } := by
  have reduced : reduce p c.stack = .ok (value, base) := by
    have count : p.right.length = frames.reverse.length := by rw [List.length_reverse, length]
    simp only [reduce, stack, count, List.take_left, List.drop_left, List.reverse_reverse,
      gathered, built]
    rfl
  have found : (Table.row (stateOf base)).goto? p.left = some g := entered
  refine .step ?_
  simp only [Configuration.step, shift, reduction, reduced, bind, Except.bind]
  split
  · rename_i n same
    exact absurd same inner
  · simp only [found]
    rfl

theorem follow_mono {few many : Bool} (h : few = true → many = true) (a : Nonterminal)
    {t : Terminal} (mem : t ∈ follow few a) : t ∈ follow many a := by
  cases few with
  | true => rwa [h rfl]
  | false =>
    cases many with
    | false => exact mem
    | true =>
      unfold follow at mem ⊢
      split at mem <;> simp_all

/-- The tokens behind a symbol may be there. Behind a terminal the state has to admit the next one,
and behind a nonterminal it has to be one of those that may follow. Behind a key the state has to
have a move on it. -/
def Follows (s g : Nat) (rest : List Token) : Symbol → Prop
  | .terminal _ => ∀ t ∈ rest.head?, t.word.Admitted (Table.row g).accepts
  | .nonterminal a =>
    nextKind rest ∈ follow (assignable s) a ∧ (∀ t ∈ rest.head?, ¬ t.word.IsReserved) ∧
      (a = .key → (enter? g (.terminal (nextKind rest))).isSome = true)

/-- What is behind a row of symbols that ends in the state: one of the last terminals, which is
allowed to be next, and no name that could be mistaken there. -/
structure IsBehind (Next : Terminal → Prop) (last : List Terminal) (q : Nat) (rest : List Token) :
    Prop where
  next : nextKind rest ∈ last
  allowed : Next (nextKind rest)
  free : ∀ t ∈ rest.head?, ¬ t.word.IsReserved
  admitted : ∀ t ∈ rest.head?, t.word.Admitted (Table.row q).accepts

/-- From every state with a move to the symbol the machine reads the tokens as the symbol. -/
def IsRead (Next : Terminal → Prop) (x : Symbol) (tokens : List Token) (value : List Part) : Prop :=
  ∀ (g : Nat) (c : Configuration) (rest : List Token),
    enter? (stateOf c.stack) x = some g → c.Sees (tokens ++ rest) →
    Follows (stateOf c.stack) g rest x → Next (nextKind rest) →
    ∃ count d, Moves count c d ∧ d.stack = ⟨g, x, value⟩ :: c.stack ∧ d.Sees rest ∧
      count + x.rank ≤ 32 * tokens.length

/-- From every state with a path for the slots the machine reads the tokens into frames from which
the slots gather the parts. -/
def AreRead (Next : Terminal → Prop) (slots : List Slot) (tokens : List Token)
    (parts : List Part) : Prop :=
  ∀ (q : Nat) (c : Configuration) (rest : List Token) (target : Bool) (last : List Terminal),
    path? (stateOf c.stack) (slots.filterMap Slot.symbol?) = some q →
    (target = true → assignable (stateOf c.stack) = true) →
    Linked target last (slots.filterMap Slot.symbol?) = true →
    c.Sees (tokens ++ rest) → IsBehind Next last q rest →
    ∃ count d frames, Moves count c d ∧ d.stack = frames.reverse ++ c.stack ∧
      frames.length = (slots.filterMap Slot.symbol?).length ∧
      gather slots frames = some parts ∧ stateOf d.stack = q ∧ d.Sees rest ∧
      count + ranks (slots.filterMap Slot.symbol?) ≤ 32 * tokens.length

theorem isRead_token (t : Token) : IsRead Next (.terminal t.kind) [t] [.token t] := by
  intro g c rest entered sees follows _
  obtain ⟨d, moves, stack, later⟩ := moves_shift rfl entered sees follows
  exact ⟨1, d, moves, stack, later, Nat.le_refl 32⟩

/-- A name that is spelled like a word is admitted where no word is usable. -/
theorem admitted_of_wordless {s : Nat} {t : Token} (wordless : (Table.row s).isWordless = true)
    (accepted : (Table.row s).accepts t.kind = true) (name : IsName t.text) :
    t.word.Admitted (Table.row s).accepts := by
  refine ⟨accepted, fun _ entry mem same => Row.accepts_eq_false wordless ?_⟩
  have whole : Scan.name entry.2 = entry.2.length := by
    rw [same]
    exact name.2
  exact List.mem_map.mpr ⟨entry, List.mem_filter.mpr ⟨mem, by simpa using whole⟩, rfl⟩

/-- The state behind a terminal admits the first token of the symbol that is due. -/
theorem IsUnmistaken.admitted {s g h : Nat} {k : Terminal} {y : Symbol} {slots : List Slot}
    {t : Token} (unmistaken : IsUnmistaken (.terminal k) slots t)
    (entered : enter? s (.terminal k) = some g) (due : nextSymbol? slots = some y)
    (opens : Opens y t) (later : enter? g y = some h) :
    t.word.Admitted (Table.row g).accepts := by
  have accepted := opens.accepted g h later
  by_cases reserved : t.word.IsReserved
  · obtain ⟨name, _, ⟨⟩, mark | ⟨y', named, same⟩⟩ := unmistaken reserved
    · exact admitted_of_wordless (isWordless_of_nameMark mark entered) accepted name
    · rw [due] at same
      cases same
      exact admitted_of_wordless (isWordless_of_namedSymbol named later) accepted name
  · exact .of_unreserved accepted reserved

/-- What the first symbol of a linked row is followed by: the first token of the next symbol, or
what comes after the row. -/
theorem follows_of_linked {x : Symbol} {slots : List Slot} {tokens rest : List Token}
    {parts : List Part} {s g q : Nat} {target : Bool} {last : List Terminal}
    (reads : CoreReads Next slots tokens parts)
    (unmistaken : ∀ t ∈ tokens.head?, IsUnmistaken x slots t)
    (entered : enter? s x = some g) (path : path? g (slots.filterMap Slot.symbol?) = some q)
    (may : target = true → assignable s = true)
    (linked : Linked target last (x :: slots.filterMap Slot.symbol?) = true)
    (behind : IsBehind Next last q rest) :
    Follows s g (tokens ++ rest) x ∧ Linked false last (slots.filterMap Slot.symbol?) = true := by
  cases right : slots.filterMap Slot.symbol? with
  | nil =>
    rw [reads.eq_nil right, List.nil_append]
    rw [right] at path linked
    cases path
    refine ⟨?_, rfl⟩
    cases x with
    | terminal t => exact behind.admitted
    | nonterminal a =>
      simp only [Linked, Bool.and_eq_true, decide_eq_true_eq] at linked
      exact ⟨follow_mono may a (Terminal.mem_of_subset linked.1 behind.next), behind.free,
        fun key => absurd key linked.2⟩
  | cons y others =>
    have due : nextSymbol? slots = some y := by rw [nextSymbol?, right]; rfl
    obtain ⟨t, more, rfl, opens⟩ := reads.opens due
    rw [right] at path linked
    obtain ⟨h, later, -⟩ := Option.bind_eq_some_iff.mp path
    have own := unmistaken t rfl
    cases x with
    | terminal u =>
      refine ⟨fun t' same => ?_, linked⟩
      cases same
      exact own.admitted entered due opens later
    | nonterminal a =>
      simp only [Linked, Bool.and_eq_true, Bool.or_eq_true, decide_eq_true_eq] at linked
      obtain ⟨⟨first, terminal⟩, rest⟩ := linked
      refine ⟨⟨follow_mono may a (Terminal.mem_of_subset first opens.kind_mem), ?_, ?_⟩, rest⟩
      · intro t' same reserved
        cases same
        obtain ⟨-, k, none, -⟩ := own reserved
        cases none
      · intro key
        obtain other | isTerminal := terminal
        · exact absurd key other
        · cases y with
          | nonterminal b => cases isTerminal
          | terminal k =>
            have kind : t.kind = k := List.mem_singleton.mp opens.kind_mem
            change (enter? g (.terminal t.kind)).isSome = true
            rw [kind, later]
            rfl

/-- One symbol and then the rest of a row. -/
theorem areRead_cons {x : Symbol} {slots : List Slot} {first tokens : List Token}
    {value parts : List Part} (isRead : IsRead Own x first value)
    (unmistaken : ∀ t ∈ tokens.head?, IsUnmistaken x slots t ∧ Own t.kind)
    (ends : tokens = [] → ∀ k, Next k → Own k)
    (reads : CoreReads Next slots tokens parts) (areRead : AreRead Next slots tokens parts)
    {q : Nat} {c : Configuration} {rest : List Token} {target : Bool} {last : List Terminal}
    (path : path? (stateOf c.stack) (x :: slots.filterMap Slot.symbol?) = some q)
    (may : target = true → assignable (stateOf c.stack) = true)
    (linked : Linked target last (x :: slots.filterMap Slot.symbol?) = true)
    (sees : c.Sees ((first ++ tokens) ++ rest)) (behind : IsBehind Next last q rest) :
    ∃ count d g frames, Moves count c d ∧
      d.stack = ((⟨g, x, value⟩ : Frame) :: frames).reverse ++ c.stack ∧
      frames.length = (slots.filterMap Slot.symbol?).length ∧
      gather slots frames = some parts ∧ stateOf d.stack = q ∧ d.Sees rest ∧
      count + (x.rank + ranks (slots.filterMap Slot.symbol?)) ≤
        32 * (first ++ tokens).length := by
  obtain ⟨g, entered, path⟩ := Option.bind_eq_some_iff.mp path
  obtain ⟨follows, linked⟩ := follows_of_linked reads (fun t mem => (unmistaken t mem).1) entered
    path may linked behind
  have allowed : Own (nextKind (tokens ++ rest)) := by
    cases tokens with
    | nil => exact ends rfl _ behind.allowed
    | cons t more => exact (unmistaken t rfl).2
  rw [List.append_assoc] at sees
  obtain ⟨m, d, firstMoves, stack, sees, few⟩ :=
    isRead g c (tokens ++ rest) entered sees follows allowed
  have state : stateOf d.stack = g := by rw [stack]; rfl
  obtain ⟨n, e, frames, moves, stack', length, gathered, reached, sees, fewer⟩ :=
    areRead q d rest false last (by rwa [state]) Bool.noConfusion linked sees behind
  refine ⟨m + n, e, g, frames, firstMoves.trans moves, ?_, length, gathered, reached, sees, ?_⟩
  · rw [stack', stack, List.reverse_cons, List.append_assoc]
    rfl
  · rw [List.length_append]
    omega

/-- The symbols of a core production can be read in a row wherever its left side is due. -/
theorem linked_of_enter {a : Nonterminal} {i s g : Nat} {p : Production} (mem : i ∈ core a)
    (found : a.productions[i]? = some p) (entered : enter? s (.nonterminal a) = some g) :
    Linked (assignable s) (after (assignable s) a i) p.right = true ∧
      (Symbol.nonterminal a).rank + 1 ≤ ranks p.right := by
  have left : p.left = a := left_of_mem_productions (List.mem_of_getElem? found)
  have isCore := isCore_of_mem mem found
  rw [Production.isCore, left, Bool.and_eq_true, Bool.and_eq_true, Bool.and_eq_true,
    Bool.or_eq_true, decide_eq_true_eq, decide_eq_true_eq] at isCore
  obtain ⟨⟨⟨-, rank⟩, linkedTarget⟩, linked⟩ := isCore
  refine ⟨?_, rank⟩
  cases may : assignable s with
  | true => exact linkedTarget
  | false =>
    rcases linked with (rfl | rfl) | linked
    · exact absurd (assignable_of_enter entered) (by simp [may])
    · exact absurd (assignable_of_enter entered) (by simp [may])
    · exact linked

/-- The step from the slots of a core production to its left side: the frames are reduced. -/
theorem isRead_production {a : Nonterminal} {i : Nat} {p : Production} {tokens : List Token}
    {parts value : List Part} (mem : i ∈ core a) (found : a.productions[i]? = some p)
    (fitting : ∀ k, Next k → k ∉ barred a i) (areRead : AreRead Next p.slots tokens parts)
    (built : p.build parts = .ok value) : IsRead Next (.nonterminal a) tokens value := by
  intro g c rest entered sees follows allowed
  have left : p.left = a := left_of_mem_productions (List.mem_of_getElem? found)
  obtain ⟨q, path, only⟩ := path_of_enter entered mem found
  obtain ⟨linked, rank⟩ := linked_of_enter mem found entered
  obtain ⟨next, free, key⟩ := follows
  have next : nextKind rest ∈ after (assignable (stateOf c.stack)) a i :=
    List.mem_filter.mpr ⟨next, by simpa using fitting _ allowed⟩
  obtain ⟨shift, reduction, accepted⟩ := only _ next key
  have admitted : ∀ t ∈ rest.head?, t.word.Admitted (Table.row q).accepts := by
    intro t first
    have kind : nextKind rest = t.word.kind := by
      simp [nextKind, Option.mem_def.mp first, Token.word]
    rw [kind] at accepted
    exact .of_unreserved accepted (free t first)
  obtain ⟨count, d, frames, moves, stack, length, gathered, state, sees, few⟩ :=
    areRead q c rest _ _ path id linked sees ⟨next, allowed, free, admitted⟩
  have inner : p.left ≠ .program := by
    rw [left]
    rintro rfl
    cases mem
  rw [← sees.kind_eq, ← state] at shift reduction
  have reduced : Moves 1 d { d with stack := ⟨g, .nonterminal a, value⟩ :: c.stack } := by
    have last := moves_reduce shift reduction stack length gathered built inner (by rwa [left])
    rwa [left] at last
  refine ⟨count + 1, _, moves.trans reduced, rfl, sees, ?_⟩
  have few : count + ranks p.right ≤ 32 * tokens.length := few
  omega

/-- Whatever the core derives from tokens is read from them. -/
theorem CoreDerives.isRead {x : Symbol} {tokens : List Token} {value : List Part}
    (h : CoreDerives Next x tokens value) : IsRead Next x tokens value := by
  induction h using CoreDerives.rec
    (motive_2 := fun Next slots tokens parts _ => AreRead Next slots tokens parts) with
  | token t => exact isRead_token t
  | production mem found allowed _ built ih =>
    exact isRead_production mem found allowed ih built
  | nil =>
    intro q c rest target last path _ _ sees _
    cases path
    exact ⟨0, c, [], .refl c, rfl, rfl, rfl, rfl, sees, Nat.le_refl 0⟩
  | absent _ ih =>
    intro q c rest target last path may linked sees behind
    obtain ⟨count, d, frames, moves, stack, length, gathered, later⟩ :=
      ih q c rest target last path may linked sees behind
    exact ⟨count, d, frames, moves, stack, length, by simp [gather, gathered], later⟩
  | @skip Next _ _ _ t unmistaken reads ih =>
    intro q c rest target last path may linked sees behind
    have isRead : IsRead (fun _ => True) (.terminal t.kind) [t] [.token t] := isRead_token t
    obtain ⟨count, d, g, frames, moves, stack, length, gathered, later⟩ :=
      areRead_cons isRead (fun u mem => ⟨unmistaken u mem, trivial⟩) (fun _ _ _ => trivial) reads
        ih path may linked sees behind
    refine ⟨count, d, _, moves, stack, ?_, ?_, later⟩
    · exact congrArg (· + 1) length
    · simp [gather, gathered]
  | keep _ unmistaken ends reads isRead ih =>
    intro q c rest target last path may linked sees behind
    obtain ⟨count, d, g, frames, moves, stack, length, gathered, later⟩ :=
      areRead_cons isRead unmistaken ends reads ih path may linked sees behind
    refine ⟨count, d, _, moves, stack, ?_, ?_, later⟩
    · exact congrArg (· + 1) length
    · simp [gather, gathered]

/-- At the end of the text the statements become a program. -/
theorem step_program {d : Configuration} {g : Nat} {value : List Part}
    (entered : enter? 0 (.nonterminal .statements) = some g)
    (stack : d.stack = [⟨g, .nonterminal .statements, value⟩]) (finished : d.token.kind = .finish) :
    d.step = .ok (.inr (.plain (.program (Part.compact value)))) := by
  let p : Production := ⟨.program, [.keep (.nonterminal .statements)], some .program⟩
  have last : ∀ q ∈ enter? 0 (.nonterminal .statements),
      (Table.row q).shift? .finish = none ∧ (Table.row q).reduction? .finish = some p := by
    decide
  obtain ⟨shift, reduction⟩ := last g entered
  have state : stateOf d.stack = g := by rw [stack]; rfl
  have reduced : reduce p d.stack =
      .ok ([.node (.plain (.program (Part.compact value)))], []) := by
    rw [stack]
    simp [p, reduce, Production.right, Slot.symbol?, gather, Production.build, Build.apply,
      Build.onList, Except.map]
  simp only [Configuration.step, finished, state, shift, reduction, reduced]
  rfl

/-- A text that spells statements of the core is parsed as a program of these statements. -/
theorem parseTree_of_derives {source : Text} {tokens : List Token} {value : List Part}
    (holds : (Input.start source).Holds tokens) (short : tokens.length ≤ source.length)
    (free : ∀ t ∈ tokens.head?, ¬ t.word.IsReserved) (finished : Next .finish)
    (derives : CoreDerives Next (.nonterminal .statements) tokens value) :
    parseTree source = .ok (.plain (.program (Part.compact value))) := by
  obtain ⟨g, entered⟩ : ∃ g, enter? 0 (.nonterminal .statements) = some g := ⟨_, rfl⟩
  obtain ⟨t, others, rfl, opens⟩ := derives.opens
  have plain : (Table.row 0).isPlain = true := by decide
  obtain ⟨token, input, read, ahead⟩ := Input.next_of_holds holds (isPlain_accepts plain)
    (fun u same => by
      cases same
      exact .of_unreserved (opens.accepted 0 g entered) (free t rfl))
  let start : Configuration :=
    ⟨[], token, input, if token.kind = .finish then {} else token.position⟩
  have last : Terminal.finish ∈ follow (assignable 0) .statements := List.mem_cons_self
  obtain ⟨count, d, moves, stack, sees, few⟩ := derives.isRead g start [] entered
    (by rwa [List.append_nil]) ⟨last, fun u none => (by cases none), nofun⟩ finished
  have advanced : Configuration.advance [] ⟨[], ⟨.finish, [], {}⟩, .start source, {}⟩ =
      .ok start := by
    simp only [Configuration.advance]
    rw [show stateOf [] = 0 from rfl, read]
  obtain ⟨more, enough⟩ : ∃ more, movesPerToken * (source.length + 2) = count + (more + 1) := by
    refine ⟨movesPerToken * (source.length + 2) - count - 1, ?_⟩
    rw [movesPerToken]
    omega
  simp only [parseTree, advanced, bind, Except.bind]
  rw [enough, moves, run, step_program entered stack sees]

end Hyperscript.Grammar
