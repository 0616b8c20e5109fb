import Hyperscript.Proofs.Derivation

/-!
# The core of the grammar

The productions that printed code needs: all of those without markup, apart from the ones for a
comma at the end of a list and, but for functions and classes, for a statement without its
semicolon. For these the table is complete: in every state with a move to a nonterminal there is a
path for each of its core productions, and at the end of the path the production is the only move on
everything that may follow. Which terminals may follow an expression depends on its level, and on
whether the state takes the target of an assignment.
-/
namespace Hyperscript.Grammar

/-- The core productions of a nonterminal, by their position among its productions. -/
def core : Nonterminal → List Nat
  | .statements | .block | .ifStatement | .expressionStatement | .variableList | .declarator
  | .moreDeclarators | .importSpecifier | .moreImports | .exportSpecifier | .moreExports
  | .decorators | .decorator | .decoratorTarget | .moreProperties | .moreElements | .moreParams
  | .moreExpressions | .arrowBody | .argument | .moreArguments | .arrayItem | .moreItems
  | .moreMembers | .classBody | .classMembers | .accessor => [0, 1]
  | .statement => [0, 1, 2, 3, 5, 6, 7, 8, 9]
  | .returnStatement | .importDeclaration => [0, 2]
  | .throwStatement | .importDefault | .importNamespace | .arrowFunction | .propertyName
  | .newExpression => [0]
  | .variableKind | .decoratedDeclaration | .patternElement | .param | .newCallee => [0, 1, 2]
  | .importClause | .patternProperty | .objectMember => [0, 1, 2, 3, 4]
  | .importNamed | .arguments | .array | .object => [1, 3, 4]
  | .exportDeclaration => [0, 1, 2, 4, 5, 8, 12, 14]
  | .pattern => [0, 2, 4, 5, 7, 9, 10]
  | .params => [1, 3]
  | .arrowParams | .key | .functionExpression | .classExpression => [0, 1, 2, 3]
  | .chain _ .conditional | .chain _ .logicalAnd => [0, 1]
  | .chain _ .assign | .chain _ .logicalOr | .chain _ .additive | .chain _ .postfixed => [0, 1, 2]
  | .chain _ .equality => [0, 1, 2, 3, 4]
  | .chain _ .relational => [0, 1, 2, 3, 4, 5, 6]
  | .chain _ .multiplicative | .chain _ .callMember => [0, 1, 2, 3]
  | .chain _ .unary => [0, 1, 2, 3, 4, 5, 6, 7, 8, 9]
  | .chain true .primary => [0, 1]
  | .chain false .primary => [0, 1, 2, 3, 4, 5, 6, 7, 8, 9, 10, 11, 12]
  | .assignOperator => [0, 1, 2, 3, 4, 5, 6, 7, 8]
  | .classMember =>
    [0, 1, 2, 3, 4, 5, 6, 7, 8, 9, 10, 11, 12, 13, 14, 15, 16, 18, 20, 22, 24, 26, 28, 30]
  | _ => []

def assignMarks : List Terminal :=
  [.assign, .plusAssign, .minusAssign, .starAssign, .slashAssign, .percentAssign, .orAssign,
   .andAssign, .nullishAssign]

/-- What starts an expression and carries none on. -/
def freshOpeners : List Terminal :=
  [.name, .number, .string, .template, .thisWord, .trueWord, .falseWord, .nullWord, .newWord,
   .functionWord, .classWord, .bang, .tilde, .typeofWord, .voidWord, .deleteWord]

/-- What starts an expression, and carries on the one that stands before it. -/
def carryingOpeners : List Terminal :=
  [.parenOpen, .bracketOpen, .minus, .plus, .increment, .decrement]

/-- What an expression may start with that has no right to start with a brace. -/
def openers : List Terminal := freshOpeners ++ carryingOpeners

/-- What starts a statement that is no expression. -/
def statementOpeners : List Terminal :=
  [.returnWord, .throwWord, .ifWord, .constWord, .letWord, .varWord, .importWord, .exportWord,
   .atSign, .braceOpen]

def keyOpeners : List Terminal := [.name, .string, .number, .bracketOpen]

/-- What a member of a class may start with. -/
def memberOpeners : List Terminal := .atSign :: .staticWord :: .getWord :: .setWord :: keyOpeners

/-- What the first token of a symbol may be. -/
def Symbol.first : Symbol → List Terminal
  | .terminal t => [t]
  | .nonterminal a =>
    match a with
    | .statements | .statement => statementOpeners ++ openers
    | .block | .importNamed | .object | .classBody => [.braceOpen]
    | .ifStatement => [.ifWord]
    | .returnStatement => [.returnWord]
    | .throwStatement => [.throwWord]
    | .variableList | .variableKind => [.constWord, .letWord, .varWord]
    | .declarator | .pattern => [.name, .braceOpen, .bracketOpen]
    | .moreDeclarators | .moreImports | .moreExports | .moreProperties | .moreElements | .moreParams
    | .moreExpressions | .moreArguments | .moreItems | .moreMembers => [.comma]
    | .importDeclaration => [.importWord]
    | .importClause => [.name, .braceOpen, .star]
    | .importDefault | .importSpecifier | .exportSpecifier | .decoratorTarget | .propertyName =>
      [.name]
    | .importNamespace => [.star]
    | .exportDeclaration => [.exportWord]
    | .decoratedDeclaration | .decorators | .decorator => [.atSign]
    | .patternProperty | .objectMember => .ellipsis :: keyOpeners
    | .patternElement | .params | .param => [.name, .braceOpen, .bracketOpen, .ellipsis]
    | .arrowFunction | .arrowParams => [.name, .parenOpen]
    | .assignOperator => assignMarks
    | .arguments => [.parenOpen]
    | .argument | .arrayItem => .ellipsis :: .braceOpen :: openers
    | .array => [.bracketOpen]
    | .key => keyOpeners
    | .newExpression => [.newWord]
    | .newCallee => [.name, .thisWord]
    | .functionExpression => [.functionWord]
    | .classExpression => [.classWord]
    | .classMembers | .classMember => memberOpeners
    | .accessor => [.getWord, .setWord]
    | .arrowBody | .chain true _ => .braceOpen :: openers
    | _ => openers

/-- What may come after an operand of this level, but not of a looser one. -/
def Level.operators : Level → List Terminal
  | .logicalOr => [.question, .orMark, .nullish]
  | .logicalAnd => [.andMark]
  | .equality => [.equal, .unequal, .strictEqual, .strictUnequal]
  | .relational => [.less, .greater, .lessEqual, .greaterEqual, .instanceofWord, .inWord]
  | .additive => [.plus, .minus]
  | .multiplicative => [.star, .slash, .percent]
  | .callMember => [.increment, .decrement, .dot, .bracketOpen, .parenOpen]
  | _ => []

/-- What may come after an expression of any level. -/
def expressionEnds : List Terminal :=
  [.parenClose, .bracketClose, .comma, .semicolon, .colon, .finish, .braceClose, .elseWord] ++
    statementOpeners ++ freshOpeners

def Level.follow (l : Level) : List Terminal :=
  expressionEnds ++ (Level.all.take (l.index + 1)).flatMap Level.operators

/-- What may come after a nonterminal, where it may be the target of an assignment or not. -/
def follow (assignable : Bool) : Nonterminal → List Terminal
  | .statements => .finish :: .braceClose :: (statementOpeners ++ openers)
  | .statement | .ifStatement | .expressionStatement | .returnStatement | .throwStatement
  | .importDeclaration | .exportDeclaration | .decoratedDeclaration =>
    .finish :: .braceClose :: .elseWord :: (statementOpeners ++ openers)
  | .block | .functionExpression | .classExpression | .classBody | .propertyName | .arguments =>
    memberOpeners ++ Level.primary.follow ++ assignMarks
  | .variableList => [.semicolon]
  | .variableKind => [.name, .braceOpen, .bracketOpen]
  | .declarator | .moreDeclarators => [.semicolon, .comma]
  | .importClause | .importNamespace | .importNamed => [.fromWord]
  | .importDefault => [.fromWord, .comma]
  | .importSpecifier | .moreImports | .exportSpecifier | .moreExports | .patternProperty
  | .moreProperties | .objectMember | .moreMembers => [.comma, .braceClose]
  | .decorators | .decorator => .classWord :: .exportWord :: memberOpeners
  | .decoratorTarget => .dot :: .parenOpen :: .classWord :: .exportWord :: memberOpeners
  | .pattern => [.assign, .comma, .semicolon, .parenClose, .bracketClose, .braceClose]
  | .patternElement | .moreElements | .arrayItem | .moreItems => [.comma, .bracketClose]
  | .params => [.parenClose]
  | .param | .moreParams | .moreExpressions | .argument | .moreArguments => [.comma, .parenClose]
  | .arrowParams => [.arrow]
  | .arrowFunction | .arrowBody => Level.assign.follow
  | .key => [.colon, .parenOpen, .assign, .semicolon]
  | .classMembers | .classMember => .braceClose :: memberOpeners
  | .accessor => keyOpeners
  | .chain _ .callMember | .chain _ .primary | .array | .newExpression | .object =>
    Level.primary.follow ++ if assignable then assignMarks else []
  | .chain _ l => l.follow
  | .assignOperator => .braceOpen :: openers
  | .newCallee => [.dot, .parenOpen]
  | _ => []

/-- What must not come after a production, though it may come after others of the nonterminal: an
`else` belongs to the last `if` without one, and an expression without a semicolon is carried on by
whatever can do so. -/
def barred : Nonterminal → Nat → List Terminal
  | .ifStatement, 1 => [.elseWord]
  | .expressionStatement, 1 | .exportDeclaration, 1 => carryingOpeners
  | _, _ => []

/-- What may come after a production of a nonterminal. -/
def after (assignable : Bool) (a : Nonterminal) (i : Nat) : List Terminal :=
  (follow assignable a).filter fun t => !(barred a i).contains t

/-- The moves that a symbol leaves over, out of thirty-two for each of its tokens. -/
def Symbol.rank : Symbol → Nat
  | .terminal _ => 31
  | .nonterminal a =>
    match a with
    | .chain brace l => l.index + (if brace then 3 else 4)
    | .statements | .params | .classMembers | .decorators => 1
    | .statement | .declarator | .importClause | .argument | .arrayItem | .moreArguments
    | .moreItems | .param | .patternElement | .classMember | .decorator => 2
    | .expressionStatement | .arrowBody => 3
    | _ => 16

/-- The moves that the symbols of a row leave over together. -/
def ranks : List Symbol → Nat
  | [] => 0
  | x :: rest => x.rank + ranks rest

namespace Terminal

theorem index_injective {t u : Terminal} (h : t.index = u.index) : t = u := by
  rw [← ofNat_ctorIdx t, ← ofNat_ctorIdx u]
  exact congrArg ofNat h

/-- A set of terminals as the bits of a number. -/
def bits : List Terminal → Nat
  | [] => 0
  | t :: rest => 1 <<< t.index ||| bits rest

theorem testBit_bits (ts : List Terminal) (t : Terminal) :
    (bits ts).testBit t.index = true ↔ t ∈ ts := by
  induction ts with
  | nil => simp [bits]
  | cons u rest ih =>
    have same : u.index = t.index ↔ t = u := ⟨fun h => (index_injective h).symm, fun h => h ▸ rfl⟩
    simp only [bits, Nat.testBit_or, Bool.or_eq_true, List.mem_cons, Nat.one_shiftLeft,
      Nat.testBit_two_pow, decide_eq_true_eq, same, ih]

/-- Of two numbers for sets, whether the first set lies in the second. -/
def within (ts us : Nat) : Bool := ts &&& us == ts

/-- Of two numbers for sets, whether the sets have nothing in common. -/
def apart (ts us : Nat) : Bool := ts &&& us == 0

theorem testBit_of_within {ts us i : Nat} (h : within ts us = true)
    (mem : ts.testBit i = true) : us.testBit i = true := by
  have same : ts &&& us = ts := eq_of_beq h
  rw [← same, Nat.testBit_and, Bool.and_eq_true] at mem
  exact mem.2

theorem testBit_of_apart {ts us i : Nat} (h : apart ts us = true)
    (mem : ts.testBit i = true) : us.testBit i = false := by
  have same : ts &&& us = 0 := eq_of_beq h
  have both := Nat.testBit_and ts us i
  rwa [same, Nat.zero_testBit, mem, Bool.true_and, eq_comm] at both

def subset (ts us : List Terminal) : Bool := within (bits ts) (bits us)

def disjoint (ts us : List Terminal) : Bool := apart (bits ts) (bits us)

theorem mem_of_subset {ts us : List Terminal} {t : Terminal} (h : subset ts us = true)
    (mem : t ∈ ts) : t ∈ us :=
  (testBit_bits us t).mp (testBit_of_within h ((testBit_bits ts t).mpr mem))

theorem not_mem_of_disjoint {ts us : List Terminal} {t : Terminal} (h : disjoint ts us = true)
    (mem : t ∈ ts) : t ∉ us := by
  intro other
  have none := testBit_of_apart h ((testBit_bits ts t).mpr mem)
  rw [(testBit_bits us t).mpr other] at none
  cases none

end Terminal

namespace Row

def accepted (r : Row) : List Terminal := r.shifts.map (·.1) ++ r.reductions.flatMap (·.1)

/-- The entry of a production takes all the terminals, and no entry before it takes any of them.
Sets are numbers here, so that the check computes each of them once. -/
def takesAll (a : Nonterminal) (i ts : Nat) :
    Nat → List (List Terminal × Nonterminal × Nat) → Bool
  | _, [] => false
  | earlier, (lookahead, b, j) :: rest =>
    if b = a ∧ j = i then
      Terminal.within ts (Terminal.bits lookahead) && Terminal.apart ts earlier
    else takesAll a i ts (earlier ||| Terminal.bits lookahead) rest

/-- The production is the only move on these terminals. -/
def reducesOn (r : Row) (a : Nonterminal) (i ts : Nat) : Bool :=
  takesAll a i ts (Terminal.bits (r.shifts.map (·.1))) r.reductions

/-- No terminal of markup has a move in this state. -/
def isPlain (r : Row) : Bool :=
  Terminal.disjoint [.jsxText, .jsxName, .jsxString] r.accepted

theorem takesAll_spec {a : Nonterminal} {i ts earlier : Nat} {t : Terminal}
    {entries : List (List Terminal × Nonterminal × Nat)} (mem : ts.testBit t.index = true)
    (h : takesAll a i ts earlier entries = true) :
    earlier.testBit t.index = false ∧
      ∃ lookahead, entries.find? (·.1.contains t) = some (lookahead, a, i) := by
  fun_induction takesAll a i ts earlier entries with
  | case1 => cases h
  | case2 earlier lookahead b j rest same =>
    obtain ⟨rfl, rfl⟩ := same
    rw [Bool.and_eq_true] at h
    have taken : lookahead.contains t = true := by
      simpa using (Terminal.testBit_bits lookahead t).mp (Terminal.testBit_of_within h.1 mem)
    exact ⟨Terminal.testBit_of_apart h.2 mem, lookahead, List.find?_cons_of_pos taken⟩
  | case3 earlier lookahead b j rest other ih =>
    obtain ⟨fresh, found⟩ := ih h
    rw [Nat.testBit_or, Bool.or_eq_false_iff] at fresh
    refine ⟨fresh.1, ?_⟩
    have missing : t ∉ lookahead := fun inside => by
      rw [(Terminal.testBit_bits lookahead t).mpr inside] at fresh
      cases fresh.2
    rwa [List.find?_cons_of_neg (by simpa using missing)]

theorem reducesOn_spec {r : Row} {a : Nonterminal} {i : Nat} {ts : List Terminal} {t : Terminal}
    (mem : t ∈ ts) (h : r.reducesOn a i (Terminal.bits ts) = true) :
    r.shift? t = none ∧ r.reduction? t = a.productions[i]? ∧ r.accepts t = true := by
  obtain ⟨fresh, lookahead, found⟩ := takesAll_spec ((Terminal.testBit_bits ts t).mpr mem) h
  refine ⟨?_, ?_, ?_⟩
  · simp only [shift?, Option.map_eq_none_iff, List.find?_eq_none, decide_eq_true_eq]
    intro entry mem same
    rw [(Terminal.testBit_bits _ t).mpr (List.mem_map.mpr ⟨entry, mem, same⟩)] at fresh
    cases fresh
  · rw [reduction?, found]
    rfl
  · have taken := List.find?_some found
    simp only [accepts, Bool.or_eq_true, List.any_eq_true]
    exact .inr ⟨_, List.mem_of_find?_eq_some found, taken⟩

theorem accepts_of_shift {r : Row} {t : Terminal} {g : Nat} (h : r.shift? t = some g) :
    r.accepts t = true := by
  obtain ⟨entry, found, -⟩ := Option.map_eq_some_iff.mp h
  have same := List.find?_some found
  simp only [accepts, Bool.or_eq_true, List.any_eq_true]
  exact .inl ⟨entry, List.mem_of_find?_eq_some found, same⟩

theorem mem_of_accepts {r : Row} {t : Terminal} (h : r.accepts t = true) : t ∈ r.accepted := by
  simp only [accepts, Bool.or_eq_true, List.any_eq_true, decide_eq_true_eq] at h
  simp only [accepted, List.mem_append, List.mem_map, List.mem_flatMap]
  apply h.imp id
  rintro ⟨entry, mem, taken⟩
  exact ⟨entry, mem, by simpa using taken⟩

/-- Nothing of these terminals is usable in the state. -/
theorem accepts_eq_false {r : Row} {ts : List Terminal} (h : Terminal.disjoint ts r.accepted = true)
    {t : Terminal} (mem : t ∈ ts) : r.accepts t = false :=
  Bool.eq_false_iff.mpr fun accepts => Terminal.not_mem_of_disjoint h mem (mem_of_accepts accepts)

end Row

/-- The state behind a symbol. Behind a terminal a token is read, so that state has to be plain. -/
def enter? (s : Nat) : Symbol → Option Nat
  | .terminal t => ((Table.row s).shift? t).filter fun g => (Table.row g).isPlain
  | .nonterminal a => (Table.row s).goto? a

/-- The state behind a row of symbols. -/
def path? (s : Nat) : List Symbol → Option Nat
  | [] => some s
  | x :: rest => (enter? s x).bind (path? · rest)

/-- The state takes expressions that may be assignments. -/
def assignable (s : Nat) : Bool :=
  (enter? s (.nonterminal (.chain true .assign))).isSome ||
    (enter? s (.nonterminal (.chain false .assign))).isSome

/-- A production can be read from a state, and at its end it is the only move on what may follow. A
key that is a name ends where the state behind it has a move. -/
def isReadable (target : Bool) (s : Nat) (a : Nonterminal) (g i : Nat) : Bool :=
  match a.productions[i]? with
  | none => false
  | some p =>
    match path? s p.right with
    | none => false
    | some q =>
      if a = .key ∧ i = 0 then
        (follow false .key).all fun t =>
          (enter? g (.terminal t)).isNone || (Table.row q).reducesOn a i (Terminal.bits [t])
      else (Table.row q).reducesOn a i (Terminal.bits (after target a i))

/-- The core productions of everything the state has a move to can be read from there. -/
def isComplete (s : Nat) : Bool :=
  bif assignable s then
    (Table.row s).gotos.all fun (a, g) => (core a).all fun i => isReadable true s a g i
  else (Table.row s).gotos.all fun (a, g) => (core a).all fun i => isReadable false s a g i

theorem states_complete : (List.range 640).all isComplete = true := by
  decide +kernel

theorem Table.row_of_le {s : Nat} (h : 640 ≤ s) : row s = ⟨[], [], []⟩ := by
  have past : rows.length ≤ s / 32 := by
    have count : rows.length = 20 := rfl
    omega
  simp [row, List.getElem?_eq_none past]

/-- What holds of the states of the table and of the empty row holds of every state. -/
theorem Table.of_states {P : Nat → Bool} (states : (List.range 640).all P = true)
    (others : ∀ s, row s = ⟨[], [], []⟩ → P s = true) (s : Nat) : P s = true := by
  by_cases h : s < 640
  · exact List.all_eq_true.mp states s (List.mem_range.mpr h)
  · exact others s (row_of_le (Nat.le_of_not_lt h))

theorem isReadable_of_enter {s g i : Nat} {a : Nonterminal}
    (entered : enter? s (.nonterminal a) = some g) (mem : i ∈ core a) :
    isReadable (assignable s) s a g i = true := by
  have complete := Table.of_states states_complete (fun s h => by simp [isComplete, h]) s
  obtain ⟨entry, first, rfl⟩ := Option.map_eq_some_iff.mp entered
  have same : entry.1 = a := by simpa using List.find?_some first
  have here := List.mem_of_find?_eq_some first
  subst same
  rw [isComplete] at complete
  cases takes : assignable s <;> rw [takes] at complete <;>
    exact List.all_eq_true.mp (List.all_eq_true.mp complete entry here) i mem

/-- Wherever the table has a move to a nonterminal, a core production of it has a path, and at its
end the production is the only move on whatever may follow. -/
theorem path_of_enter {s g i : Nat} {a : Nonterminal} {p : Production}
    (entered : enter? s (.nonterminal a) = some g) (mem : i ∈ core a)
    (found : a.productions[i]? = some p) :
    ∃ q, path? s p.right = some q ∧ ∀ t ∈ after (assignable s) a i,
      (a = .key → (enter? g (.terminal t)).isSome = true) →
      (Table.row q).shift? t = none ∧ (Table.row q).reduction? t = some p ∧
        (Table.row q).accepts t = true := by
  have here := isReadable_of_enter entered mem
  rw [isReadable, found] at here
  dsimp only at here
  split at here
  · cases here
  · rename_i q reached
    refine ⟨q, reached, ?_⟩
    intro t ht shifted
    rw [← found]
    split at here
    · rename_i named
      obtain ⟨rfl, rfl⟩ := named
      have own := List.all_eq_true.mp here t (List.mem_filter.mp ht).1
      rw [Bool.or_eq_true, Option.isNone_iff_eq_none] at own
      obtain none | reduces := own
      · rw [none] at shifted
        cases shifted rfl
      · exact Row.reducesOn_spec List.mem_cons_self reduces
    · exact Row.reducesOn_spec ht here

/-- The terminals that are spelled like a name. -/
def wordTerminals : List Terminal :=
  (Terminal.spellings.filter fun e => Scan.name e.2 = e.2.length).map (·.1)

/-- Behind these terminals nothing but a name is due. -/
def nameMarks : List Terminal := [.dot, .asWord]

/-- Where one of these is due no word is usable, so that a name may be spelled like one. -/
def namedSymbols : List Symbol :=
  [.nonterminal .objectMember, .nonterminal .patternProperty, .nonterminal .importSpecifier,
   .nonterminal .exportSpecifier]

def Row.isWordless (r : Row) : Bool := Terminal.disjoint wordTerminals r.accepted

def isStrict (s : Nat) : Bool :=
  ((Table.row s).shifts.all fun (t, g) => !nameMarks.contains t || (Table.row g).isWordless) &&
    ((Table.row s).gotos.all fun (a, _) =>
      !namedSymbols.contains (.nonterminal a) || (Table.row s).isWordless)

theorem states_strict : (List.range 640).all isStrict = true := by
  decide +kernel

theorem isWordless_of_nameMark {s g : Nat} {t : Terminal} (mem : t ∈ nameMarks)
    (entered : enter? s (.terminal t) = some g) : (Table.row g).isWordless = true := by
  have strict := Table.of_states states_strict (fun s h => by simp [isStrict, h]) s
  rw [isStrict, Bool.and_eq_true] at strict
  obtain ⟨shifted, -⟩ := Option.filter_eq_some_iff.mp entered
  obtain ⟨entry, first, rfl⟩ := Option.map_eq_some_iff.mp shifted
  have same : entry.1 = t := by simpa using List.find?_some first
  have own := List.all_eq_true.mp strict.1 entry (List.mem_of_find?_eq_some first)
  subst same
  simpa [mem] using own

theorem isWordless_of_namedSymbol {s g : Nat} {x : Symbol} (mem : x ∈ namedSymbols)
    (entered : enter? s x = some g) : (Table.row s).isWordless = true := by
  have strict := Table.of_states states_strict (fun s h => by simp [isStrict, h]) s
  rw [isStrict, Bool.and_eq_true] at strict
  obtain ⟨a, rfl⟩ : ∃ a, x = .nonterminal a := by
    have all : ∀ y ∈ namedSymbols, ∃ a, y = .nonterminal a := by simp [namedSymbols]
    exact all x mem
  obtain ⟨entry, first, rfl⟩ := Option.map_eq_some_iff.mp entered
  have same : entry.1 = a := by simpa using List.find?_some first
  have own := List.all_eq_true.mp strict.2 entry (List.mem_of_find?_eq_some first)
  subst same
  simpa [mem] using own

theorem assignable_of_enter {s g : Nat} {brace : Bool}
    (entered : enter? s (.nonterminal (.chain brace .assign)) = some g) : assignable s = true := by
  cases brace <;> simp [assignable, entered]

def Symbol.isTerminal : Symbol → Bool
  | .terminal _ => true
  | .nonterminal _ => false

/-- In a row of symbols each may come after the one before it, and `last` after them all. Only the
first may be the target of an assignment, and a key is followed by a terminal. -/
def Linked (assignable : Bool) (last : List Terminal) : List Symbol → Bool
  | [] => true
  | [.terminal _] => true
  | [.nonterminal a] => Terminal.subset last (follow assignable a) && decide (a ≠ .key)
  | .terminal _ :: y :: rest => Linked false last (y :: rest)
  | .nonterminal a :: y :: rest =>
    Terminal.subset y.first (follow assignable a) && (decide (a ≠ .key) || y.isTerminal) &&
      Linked false last (y :: rest)

/-- What holds of the right sides of core productions, apart from the table. -/
def Production.isCore (p : Production) (i : Nat) : Bool :=
  (match p.right with
    | [] => false
    | x :: _ => Terminal.subset x.first (Symbol.nonterminal p.left).first) &&
  decide ((Symbol.nonterminal p.left).rank + 1 ≤ ranks p.right) &&
  Linked true (after true p.left i) p.right &&
  (decide (p.left = .chain true .assign ∨ p.left = .chain false .assign) ||
    Linked false (after false p.left i) p.right)

theorem isCore_of_mem {a : Nonterminal} {i : Nat} {p : Production} (mem : i ∈ core a)
    (found : a.productions[i]? = some p) : p.isCore i = true := by
  have all : ∀ b ∈ nonterminals, ∀ j ∈ core b, ∀ p ∈ b.productions[j]?, p.isCore j = true := by
    decide +kernel
  exact all a (mem_nonterminals a) i mem p found

end Hyperscript.Grammar
