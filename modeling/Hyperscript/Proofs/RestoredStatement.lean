import Hyperscript.Proofs.ReservedWord
import Hyperscript.Proofs.RestoredExpression

/-!
# Statements are read back

A declaration and an `if` without an `else` end where nothing carries them on. So a row of
statements is read back when none of these stands before a statement that starts with a sign.
-/
namespace Hyperscript

namespace Grammar

theorem opener_spelled : ∀ k ∈ carryingOpeners,
    k ∉ [Terminal.jsxText, .jsxName, .jsxString] ∧
      ∃ e ∈ Terminal.spellings, e.1 = k ∧ e.2.carrier? ≠ none := by
  decide +kernel

/-- A text whose first word is a fixed one starts with it. -/
theorem starts_of_phrase {text spelling : Text} {w : Word} {rest : List Word}
    (phrase : Phrase text (w :: rest)) (mem : (w.kind, spelling) ∈ Terminal.spellings)
    (code : w.kind ∉ [Terminal.jsxText, .jsxName, .jsxString]) :
    ∃ behind, text = spelling ++ behind := by
  obtain ⟨⟨c, more, rfl, solid, -⟩, spelt⟩ := phrase
  have spells := spelt [] [] trivial .done
  rw [List.append_nil, List.append_nil] at spells
  generalize whole : c :: more = t at spells
  cases spells with
  | space blank _ =>
    cases whole
    rw [blank] at solid
    cases solid
  | @word _ behind _ lexes _ =>
    have first := lexes.2 (fun k => k ∉ [Terminal.jsxText, .jsxName, .jsxString])
      (fun _ mem => decide_eq_false (not_not_intro mem))
      ⟨decide_eq_true code, fun name => absurd name (ne_name_of_mem_spellings mem)⟩
    have spelled := (readFor_of_first first {}).spelled spelling mem
    rw [List.take_left] at spelled
    exact ⟨behind, congrArg (· ++ behind) spelled⟩

/-- A text whose first word could carry an expression on shows it. -/
theorem carrier?_of_phrase {text : Text} {w : Word} {rest : List Word}
    (phrase : Phrase text (w :: rest)) (carries : w.kind ∈ carryingOpeners) :
    text.carrier? ≠ none := by
  obtain ⟨code, ⟨k, spelling⟩, mem, rfl, shown⟩ := opener_spelled w.kind carries
  obtain ⟨behind, rfl⟩ := starts_of_phrase phrase mem code
  cases spelling with
  | nil => exact absurd rfl shown
  | cons d others => exact shown

end Grammar

namespace Node

open Grammar

/-- Nothing but what comes behind ends the statement. -/
def endsOpen : Node → Bool
  | ⟨_, .functionDeclaration ..⟩ | ⟨_, .classDeclaration ..⟩ => true
  | ⟨_, .exportDefault ⟨_, .functionDeclaration ..⟩⟩ => true
  | ⟨_, .exportDefault ⟨_, .classDeclaration ..⟩⟩ => true
  | ⟨_, .ifStatement _ consequent none⟩ => endsOpen consequent
  | ⟨_, .ifStatement _ _ (some alternate)⟩ => endsOpen alternate
  | _ => false

/-- An `else` behind the statement is its own. -/
def takesElse : Node → Bool
  | ⟨_, .ifStatement _ _ none⟩ => true
  | ⟨_, .ifStatement _ _ (some alternate)⟩ => takesElse alternate
  | _ => false

/-- The statement starts with what carries on an expression before it. -/
def carriesOn (n : Node) : Bool :=
  match n with
  | ⟨_, .expressionStatement expression⟩ =>
    expression.startsLikeDeclaration || expression.sign?.isSome
  -- a brace carries nothing on, and the other statements start with a word
  | ⟨_, .block _⟩ => false
  | _ => false

/-- What may come behind a statement. -/
def Before (n : Node) (k : Terminal) : Prop :=
  (n.endsOpen = true → k ∉ carryingOpeners) ∧ (n.takesElse = true → k ≠ .elseWord)

/-- However the statement is printed, the text denotes it before whatever may come behind it. -/
def RestoresStatement (n : Node) : Prop :=
  ∀ pretty depth, ∃ text, n.print pretty depth = .ok text ∧
    (n.carriesOn = false → text.carrier? = none) ∧
      DenotesBefore n.Before (.nonterminal .statement) text (IsNode n)

/-- The second statement may stand behind the first. -/
def Precedes (s t : Node) : Prop := s.endsOpen = true → t.carriesOn = false

variable {place : Place} {n s : Node} {body rest : List Node}

section Rows

theorem startsWithin_before {text : Text} (plain : s.endsOpen = true → text.carrier? = none) :
    StartsWithin .statement s.Before text := by
  intro words phrase w first opens
  obtain ⟨later, rfl⟩ : ∃ later, words = w :: later := List.head?_eq_some_iff.mp first
  refine ⟨fun open_ carries => carrier?_of_phrase phrase carries (plain open_), ?_⟩
  rintro - same
  rw [same] at opens
  exact absurd opens (by decide)

/-- The statements behind the first one, each behind the one before it. -/
theorem printAll_behind (each : ∀ t ∈ rest, t.RestoresStatement)
    (chain : List.IsChain Precedes (s :: rest)) (pretty : Bool) (depth : Nat) :
    ∃ texts Last, printAll pretty depth 0 rest = .ok texts ∧
      Continues .statement s.Before rest texts Last ∧ Last .finish ∧ Last .braceClose := by
  induction rest generalizing s with
  | nil => exact ⟨[], s.Before, rfl, .nil, ⟨by simp [carryingOpeners], by simp⟩,
      ⟨by simp [carryingOpeners], by simp⟩⟩
  | cons t rest ih =>
    obtain ⟨leads, chain⟩ := List.isChain_cons_cons.mp chain
    obtain ⟨text, printed, plain, denotes⟩ := each t List.mem_cons_self pretty depth
    obtain ⟨texts, Last, printedAll, continues, finish, close⟩ :=
      ih (fun u mem => each u (List.mem_cons_of_mem t mem)) chain
    refine ⟨text :: texts, Last, ?_,
      .cons (startsWithin_before fun open_ => plain (leads open_)) denotes continues, finish, close⟩
    rw [printAll, printed, printedAll]
    simp only [operand_of_le (Nat.zero_le _), bind, Except.bind, pure, Except.pure]

theorem restores_block (each : ∀ t ∈ body, t.RestoresStatement) (chain : List.IsChain Precedes body) :
    Restores (.nonterminal .block) ⟨place, .block body⟩ := by
  intro pretty depth
  cases body with
  | nil =>
    refine ⟨"\x7b\x7d", by rw [Node.print]; rfl, denotes_nothing encloses_block ?_⟩
    exact ⟨_, rfl, .intro rfl⟩
  | cons s rest =>
    obtain ⟨text, printed, -, denotes⟩ := each s List.mem_cons_self pretty (depth + 1)
    obtain ⟨texts, Last, printedAll, continues, -, close⟩ :=
      printAll_behind (fun t mem => each t (List.mem_cons_of_mem s mem)) chain pretty (depth + 1)
    refine ⟨Layout.lines "\x7b" "" "\x7d" depth (text :: texts), ?_,
      denotes_enclosed encloses_block repeats_statements (List.all_eq_true.mp rfl) denotes continues close ?_⟩
    · rw [Node.print, printAll, printed, printedAll]
      simp only [operand_of_le (Nat.zero_le _), bind, Except.bind, pure, Except.pure]
      rfl
    · exact fun _ nodes => ⟨_, rfl, .intro (by simp [Form.map, Form.asRead, nodes.compact])⟩

/-- However the program is printed, the text is parsed as the program again. -/
def RestoresProgram (n : Node) : Prop :=
  ∀ pretty, ∃ code, n.print pretty 0 = .ok code ∧
    ∀ name, ∃ m, Grammar.parse code name = .ok m ∧ m.unplaced = n.asRead

theorem parse_nothing (name : Text) : ∃ p, Grammar.parse [] name = .ok ⟨p, .program []⟩ := by
  have parsed : ∃ p, Grammar.parseTree [] = .ok ⟨p, .program []⟩ := ⟨_, rfl⟩
  obtain ⟨p, parsed⟩ := parsed
  rw [Grammar.parse, parsed, Except.map]
  split
  · exact ⟨p, rfl⟩
  · exact ⟨{ p with file := some name }, rfl⟩

theorem restoresProgram (each : ∀ t ∈ body, t.RestoresStatement)
    (chain : List.IsChain Precedes body) : RestoresProgram ⟨place, .program body⟩ := by
  intro pretty
  cases body with
  | nil =>
    refine ⟨[], by rw [Node.print]; rfl, fun name => ?_⟩
    obtain ⟨p, parsed⟩ := parse_nothing name
    exact ⟨_, parsed, unplaced_eq_asRead rfl⟩
  | cons s rest =>
    obtain ⟨text, printed, -, denotes⟩ := each s List.mem_cons_self pretty 0
    obtain ⟨texts, Last, printedAll, continues, finish, -⟩ :=
      printAll_behind (fun t mem => each t (List.mem_cons_of_mem s mem)) chain pretty 0
    have lines_eq (t : Text) (texts : List Text) :
        (t :: texts).flatMap (· ++ Text.ofString "\n") =
          t ++ texts.flatMap (Text.ofString "\n" ++ ·) ++ Text.ofString "\n" := by
      induction texts generalizing t with
      | nil => simp
      | cons u texts ih =>
        rw [List.flatMap_cons, ih u]
        simp
    have print_eq : Node.print pretty 0 ⟨place, .program (s :: rest)⟩ =
        .ok (text ++ texts.flatMap (Text.ofString "\n" ++ ·) ++ Text.ofString "\n") := by
      rw [Node.print, printAll, printed, printedAll]
      simp only [operand_of_le (Nat.zero_le _), bind, Except.bind, pure, Except.pure]
      rw [lines_eq]
    refine ⟨_, print_eq, fun name => ?_⟩
    obtain ⟨p, again, parsed, same⟩ := parse_of_denotes
      (denotes.row repeats_statements blank_feed (by decide) continues) finish name
    exact ⟨_, parsed, unplaced_eq_asRead (by simp [Form.map, Form.asRead, same])⟩

end Rows

section Kinds

variable {test consequent alternate target : Node} {id : Option Node}
variable {params declarators : List Node} {kind : Text}

theorem carrier?_of_sign? {t : Text} (h : t.sign? = none) : t.carrier? = none := by
  rw [Text.carrier?, Option.filter_eq_none_iff]
  intro c first mem
  rw [Text.sign?, Option.filter_eq_none_iff] at h
  exact h c first (by simpa using .inr (by simpa using mem))

theorem carrier?_of_isName {w : Text} (h : IsName w) (rest : Text) :
    (w ++ rest).carrier? = none := by
  have first := Restorable.sign?_of_isName h
  obtain ⟨c, more, rfl, -⟩ := h.cases
  exact carrier?_of_sign? first

/-- Where any expression may stand, a leading brace does not matter. -/
theorem Restorable.loosely (h : n.Restorable) (pretty : Bool) (depth : Nat) :
    ∃ text, n.print pretty depth = .ok text ∧
      Denotes (.nonterminal .expression) text (IsNode n) := by
  obtain ⟨text, printed, -, denotes⟩ := h pretty depth
  exact ⟨text, printed, (denotes true nofun).lift (Nat.zero_le _)⟩

/-- What starts with no sign and ends by itself. -/
theorem RestoresStatement.of_denotes (own : ∀ pretty depth, ∃ text, n.print pretty depth = .ok text ∧
    text.carrier? = none ∧ Denotes (.nonterminal .statement) text (IsNode n)) :
    n.RestoresStatement := by
  intro pretty depth
  obtain ⟨text, printed, plain, denotes⟩ := own pretty depth
  exact ⟨text, printed, fun _ => plain, denotes.weaken fun _ _ => trivial⟩

/-- What would open a block or a declaration stands in parentheses. -/
theorem restores_expression (h : n.Restorable) (plain : n.declares = false) :
    RestoresStatement ⟨place, .expressionStatement n⟩ := by
  intro pretty depth
  obtain ⟨text, printed, sign, denotes⟩ := h pretty depth
  obtain ⟨_, printed', loose⟩ := h.loosely pretty depth
  cases printed.symm.trans printed'
  obtain ⟨start, own⟩ : (carriesOn ⟨place, .expressionStatement n⟩ = false →
      (Layout.parenthesize n.startsLikeDeclaration text).sign? = none) ∧
      Denotes (.nonterminal (.chain false .assign))
        (Layout.parenthesize n.startsLikeDeclaration text) (IsNode n) := by
    simp only [carriesOn, Layout.parenthesize]
    cases starts : n.startsLikeDeclaration with
    | true => exact ⟨fun silent => absurd silent (by simp), .parenthesized loose false _⟩
    | false =>
      refine ⟨fun silent => ?_, (denotes false fun _ =>
        sign?_of_startsLikeDeclaration starts).lift (Nat.zero_le _)⟩
      simpa [sign] using silent
  refine ⟨Layout.parenthesize n.startsLikeDeclaration text ++ ";", by rw [Node.print, printed]; rfl,
    fun silent => carrier?_of_sign? ?_,
    (denotes_expressionStatement plain own).weaken fun _ _ => trivial⟩
  rw [own.opened.sign?_append]
  exact start silent

theorem restores_blockStatement (h : Restores (.nonterminal .block) ⟨place, .block body⟩) :
    RestoresStatement ⟨place, .block body⟩ := by
  refine .of_denotes fun pretty depth => ?_
  obtain ⟨text, printed, denotes⟩ := h pretty depth
  refine ⟨text, printed, ?_, .pass (i := 8) (by decide) rfl rfl denotes⟩
  rw [Node.print] at printed
  cases all : printAll pretty (depth + 1) 0 body with
  | error e =>
    rw [all] at printed
    cases printed
  | ok texts =>
    rw [all] at printed
    cases printed
    split <;> rfl

theorem restores_return (h : ∀ m ∈ id, m.Restorable) :
    RestoresStatement ⟨place, .returnStatement id⟩ := by
  refine .of_denotes fun pretty depth => ?_
  cases id with
  | none => exact ⟨"return;", by rw [Node.print]; rfl, rfl, denotes_bareReturn⟩
  | some m =>
    obtain ⟨text, printed, denotes⟩ := (h m rfl).loosely pretty depth
    exact ⟨"return " ++ text ++ ";", by rw [Node.print, printed]; rfl, rfl, denotes_return denotes⟩

theorem restores_throw (h : n.Restorable) : RestoresStatement ⟨place, .throwStatement n⟩ := by
  refine .of_denotes fun pretty depth => ?_
  obtain ⟨text, printed, denotes⟩ := h.loosely pretty depth
  exact ⟨"throw " ++ text ++ ";", by rw [Node.print, printed]; rfl, rfl, denotes_throw denotes⟩

theorem restores_bareDeclarator (h : target.Restores (.nonterminal .pattern)) :
    RestoresItem .declarator 0 ⟨place, .declarator target none⟩ := by
  intro pretty depth
  obtain ⟨text, printed, denotes⟩ := h pretty depth
  refine ⟨text, by rw [Node.print, printed], ?_⟩
  rw [operand_of_le (Nat.zero_le _)]
  exact .of_denotes (denotes_bareDeclarator denotes)

theorem restores_declarator (h : target.Restores (.nonterminal .pattern)) (hn : n.Restorable) :
    RestoresItem .declarator 0 ⟨place, .declarator target (some n)⟩ := by
  intro pretty depth
  obtain ⟨text, printed, denotes⟩ := h pretty depth
  obtain ⟨text', printed', denotes'⟩ := hn.expression pretty depth
  refine ⟨_, by rw [Node.print, printed, printed']; rfl, ?_⟩
  rw [operand_of_le (Nat.zero_le _)]
  exact .of_denotes (denotes_declarator denotes denotes')

theorem restores_variables (known : kind ∈ variableKinds) (some : declarators ≠ [])
    (each : ∀ d ∈ declarators, d.RestoresItem .declarator 0) :
    RestoresStatement ⟨place, .variableDeclaration kind declarators⟩ := by
  refine .of_denotes fun pretty depth => ?_
  obtain ⟨texts, printed, items⟩ := printAll_items each pretty depth
  refine ⟨kind ++ " " ++ Layout.commas texts ++ ";", by rw [Node.print, printed]; rfl, ?_,
    denotes_variables (denotes_variableList known some items)⟩
  rw [List.append_assoc, List.append_assoc]
  exact carrier?_of_isName (variableKind_spec kind known).1 _

theorem restores_if (ht : test.Restorable) (hc : consequent.RestoresStatement) :
    RestoresStatement ⟨place, .ifStatement test consequent none⟩ := by
  intro pretty depth
  obtain ⟨text, printed, denotes⟩ := ht.loosely pretty depth
  obtain ⟨text', printed', -, denotes'⟩ := hc pretty depth
  refine ⟨"if (" ++ text ++ ") " ++ text', by rw [Node.print, printed, printed']; rfl, fun _ => rfl,
    denotes_if denotes denotes' ?_⟩
  rintro k ⟨open_, own⟩
  rw [endsOpen] at open_
  rw [takesElse] at own
  exact ⟨own rfl, open_, fun _ => own rfl⟩

/-- An `else` may only stand behind a consequent that does not take it. -/
theorem restores_ifElse (ht : test.Restorable) (hc : consequent.RestoresStatement)
    (closed : consequent.takesElse = false) (ha : alternate.RestoresStatement) :
    RestoresStatement ⟨place, .ifStatement test consequent (some alternate)⟩ := by
  intro pretty depth
  obtain ⟨text, printed, denotes⟩ := ht.loosely pretty depth
  obtain ⟨text', printed', -, denotes'⟩ := hc pretty depth
  obtain ⟨text'', printed'', -, denotes''⟩ := ha pretty depth
  let gap : Text := if consequent.isBlock then " " else "\n" ++ Layout.indent depth
  have blank : ∀ c ∈ gap, Scan.isSpace c = true := by
    dsimp only [gap]
    split
    · exact blank_space
    · exact blank_line depth
  have wide : gap ≠ [] := by
    dsimp only [gap]
    split <;> simp [Text.ofString]
  refine ⟨"if (" ++ text ++ ") " ++ text' ++ gap ++ "else " ++ text'',
    by rw [Node.print, printed, printed', printed'']; rfl, fun _ => rfl,
    (denotes_ifElse blank wide denotes denotes' ?_
      denotes'').weaken ?_⟩
  · exact ⟨fun _ => by decide, fun taken => by rw [closed] at taken; cases taken⟩
  · rintro k ⟨open_, own⟩
    rw [endsOpen] at open_
    rw [takesElse] at own
    exact ⟨open_, own⟩

/-- What has a name is a declaration where a statement may stand. -/
theorem restores_declaration (h : n.Restorable) (declares : n.declares = true)
    (silent : n.sign? = none) (open_ : (Build.asDeclaration n).endsOpen = true)
    (same : ∀ pretty depth,
      (Build.asDeclaration n).print pretty depth = n.print pretty depth) :
    RestoresStatement (Build.asDeclaration n) := by
  intro pretty depth
  obtain ⟨text, printed, sign, denotes⟩ := h pretty depth
  have own : Denotes (.nonterminal (.chain false .assign)) text (IsNode n) :=
    (denotes false fun _ => by simp [silent]).lift (Nat.zero_le _)
  refine ⟨text, (same pretty depth).trans printed,
    fun _ => carrier?_of_sign? (sign.trans silent), (denotes_declaration declares own).weaken ?_⟩
  rintro k ⟨behind, -⟩
  exact behind open_

theorem restores_function {name : Node} (free : name.IsFree)
    (hp : ∀ p ∈ params, p.RestoresItem .param Precedence.assignment)
    (hb : n.Restores (.nonterminal .block)) :
    RestoresStatement ⟨place, .functionDeclaration (some name) params n⟩ := by
  have expression : Restorable ⟨place, .functionExpression (some name) params n⟩ :=
    .function (by rintro _ ⟨⟩; exact free) hp hb
  refine restores_declaration expression rfl (by simp [sign?]) ?_ fun pretty depth => ?_
  · rw [Build.asDeclaration, endsOpen]
  · rw [Build.asDeclaration, Node.print, Node.print]

end Kinds

end Node

end Hyperscript
