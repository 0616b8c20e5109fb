import Hyperscript.Grammar.Token

/-!
# Reading a text word by word

A text spells a row of words when the words stand one after the other in it, with nothing but white
space between them, and each of them is what the lexer finds there wherever it can be used. A
parser that asks for the next token of such a text gets the next word, whatever else it could use.
-/
namespace Hyperscript.Grammar

/-- A token without its position. -/
structure Word where
  kind : Terminal
  text : Text
  deriving DecidableEq, Repr

def Token.word (t : Token) : Word := ⟨t.kind, t.text⟩

/-- Nothing of markup is usable. -/
def IsPlain (usable : Terminal → Bool) : Prop :=
  ∀ t ∈ [Terminal.jsxText, .jsxName, .jsxString], usable t = false

namespace Word

/-- A name that is spelled like one of the fixed terminals. -/
def IsReserved (w : Word) : Prop := w.kind = .name ∧ w.text ∈ Terminal.spellings.map (·.2)

/-- The word is usable, and it is not a name that would be taken for a usable fixed terminal. -/
def Admitted (w : Word) (usable : Terminal → Bool) : Prop :=
  usable w.kind = true ∧
    (w.kind = .name → ∀ entry ∈ Terminal.spellings, entry.2 = w.text → usable entry.1 = false)

theorem Admitted.of_unreserved {w : Word} {usable : Terminal → Bool} (use : usable w.kind = true)
    (free : ¬ w.IsReserved) : w.Admitted usable := by
  refine ⟨use, ?_⟩
  intro name entry mem same
  exact absurd ⟨name, List.mem_map.mpr ⟨entry, mem, same⟩⟩ free

/-- With this text behind it, the word is the first token wherever it can be used. -/
def Lexes (w : Word) (rest : Text) : Prop :=
  (∃ c more, w.text = c :: more ∧ Scan.isSpace c = false) ∧
    ∀ usable, IsPlain usable → w.Admitted usable →
      Lexeme.first usable (w.text ++ rest) = .token w.kind w.text.length

end Word

/-- The text is a row of words with white space between them. -/
inductive Spells : Text → List Word → Prop
  | done : Spells [] []
  | space {c : CodePoint} {rest : Text} {words : List Word} :
      Scan.isSpace c = true → Spells rest words → Spells (c :: rest) words
  | word {w : Word} {rest : Text} {words : List Word} :
      w.Lexes rest → Spells rest words → Spells (w.text ++ rest) (w :: words)

namespace Spells

theorem spaces {gap rest : Text} {words : List Word} (blank : ∀ c ∈ gap, Scan.isSpace c = true)
    (h : Spells rest words) : Spells (gap ++ rest) words := by
  induction gap with
  | nil => exact h
  | cons c gap ih =>
    exact .space (blank c List.mem_cons_self) (ih fun d hd => blank d (List.mem_cons_of_mem c hd))

/-- No word is empty. -/
theorem length_le {text : Text} {words : List Word} (h : Spells text words) :
    words.length ≤ text.length := by
  induction h with
  | done => exact Nat.le_refl _
  | space _ _ ih => exact Nat.le_succ_of_le ih
  | word lexes _ ih =>
    obtain ⟨⟨c, more, same, -⟩, -⟩ := lexes
    rw [List.length_append, same, List.length_cons, List.length_cons]
    omega

end Spells

/-- The same for an input that has a position: it holds a row of tokens. -/
inductive Input.Holds : Input → List Token → Prop
  | done {position : Position} : Holds ⟨[], position⟩ []
  | space {c : CodePoint} {rest : Text} {position : Position} {tokens : List Token} :
      Scan.isSpace c = true → Holds ⟨rest, position.step c⟩ tokens →
      Holds ⟨c :: rest, position⟩ tokens
  | token {t : Token} {rest : Text} {tokens : List Token} :
      t.word.Lexes rest → Holds ⟨rest, t.position.advance t.text⟩ tokens →
      Holds ⟨t.text ++ rest, t.position⟩ (t :: tokens)

/-- What a parser knows that has read a token: these tokens come next. The end of the text counts
as a token of no text. -/
def Ahead (token : Token) (input : Input) : List Token → Prop
  | [] => token.kind = .finish
  | t :: rest => token = t ∧ input.Holds rest

theorem Spells.holds {text : Text} {words : List Word} (h : Spells text words)
    (position : Position) :
    ∃ tokens : List Token, tokens.map Token.word = words ∧ Input.Holds ⟨text, position⟩ tokens := by
  induction h generalizing position with
  | done => exact ⟨[], rfl, .done⟩
  | @space c rest words blank _ ih =>
    obtain ⟨tokens, same, holds⟩ := ih (position.step c)
    exact ⟨tokens, same, .space blank holds⟩
  | @word w rest words lexes _ ih =>
    obtain ⟨tokens, same, holds⟩ := ih (position.advance w.text)
    let t : Token := ⟨w.kind, w.text, position⟩
    have all : Input.Holds ⟨t.text ++ rest, t.position⟩ (t :: tokens) := .token lexes holds
    exact ⟨t :: tokens, congrArg (w :: ·) same, all⟩

namespace Scan

theorem space_cons (c : CodePoint) (t : Text) :
    space (c :: t) = if isSpace c then space t + 1 else 0 := by
  simp only [space, run, List.takeWhile_cons]
  split <;> rfl

theorem comment_of_ne {c : CodePoint} {t : Text} (h : c ≠ CodePoint.ofChar '/') :
    comment (c :: t) = 0 := by
  have slashes : ¬ Text.ofString "//" <+: c :: t := fun hp => h (List.cons_prefix_cons.mp hp).1.symm
  have star : ¬ Text.ofString "/*" <+: c :: t := fun hp => h (List.cons_prefix_cons.mp hp).1.symm
  rw [comment, if_neg slashes, if_neg star]

theorem ne_slash_of_isSpace {c : CodePoint} (h : isSpace c = true) : c ≠ CodePoint.ofChar '/' := by
  rintro rfl
  exact absurd h (by decide)

end Scan

namespace Input

theorem drop_succ (c : CodePoint) (rest : Text) (position : Position) (count : Nat) :
    drop ⟨c :: rest, position⟩ (count + 1) = drop ⟨rest, position.step c⟩ count := rfl

theorem drop_append (text rest : Text) (position : Position) :
    drop ⟨text ++ rest, position⟩ text.length = ⟨rest, position.advance text⟩ := by
  simp [drop]

variable {usable : Terminal → Bool} {input : Input} {tokens : List Token}

/-- The tokens are still held when the white space in front of them has been dropped. -/
theorem Holds.drop_space (h : input.Holds tokens) :
    (input.drop (Scan.space input.rest)).Holds tokens ∧
      Scan.space (input.drop (Scan.space input.rest)).rest = 0 := by
  induction h with
  | done => exact ⟨.done, rfl⟩
  | @space c rest position tokens blank _ ih =>
    rw [Scan.space_cons, if_pos blank, drop_succ]
    exact ih
  | @token t rest tokens lexes holds _ =>
    obtain ⟨⟨c, more, same, visible⟩, -⟩ := id lexes
    have none : Scan.space (t.text ++ rest) = 0 := by
      rw [show t.text = c :: more from same, List.cons_append, Scan.space_cons, if_neg]
      simp [visible]
    simp only [none]
    exact ⟨.token lexes holds, none⟩

theorem next_of_visible (h : input.Holds tokens) (visible : Scan.space input.rest = 0)
    (plain : IsPlain usable) (admitted : ∀ t ∈ tokens.head?, t.word.Admitted usable) (fuel : Nat) :
    ∃ token rest, input.next usable (fuel + 1) = .ok (token, rest) ∧ Ahead token rest tokens := by
  cases h with
  | done => exact ⟨_, _, rfl, rfl⟩
  | space blank holds =>
    rw [Scan.space_cons, if_pos blank] at visible
    cases visible
  | @token t rest tokens lexes holds =>
    have found : Lexeme.first usable (t.text ++ rest) = .token t.kind t.text.length :=
      lexes.2 usable plain (admitted t rfl)
    obtain ⟨⟨c, more, same, -⟩, -⟩ := lexes
    have nonempty : (t.text ++ rest).isEmpty = false := by
      rw [show t.text = c :: more from same]
      rfl
    refine ⟨t, _, ?_, rfl, holds⟩
    rw [next]
    simp only [nonempty, Bool.false_eq_true, if_false, found, drop_append, List.take_left]

/-- Where the next token is usable it is read, and white space never matters. -/
theorem next_of_holds (h : input.Holds tokens) (plain : IsPlain usable)
    (admitted : ∀ t ∈ tokens.head?, t.word.Admitted usable) :
    ∃ token rest, input.next usable (input.rest.length + 1) = .ok (token, rest) ∧
      Ahead token rest tokens := by
  cases h with
  | done => exact next_of_visible .done rfl plain admitted _
  | token lexes holds =>
    have all : Holds _ _ := .token lexes holds
    refine next_of_visible all ?_ plain admitted _
    obtain ⟨⟨c, more, same, visible⟩, -⟩ := lexes
    change Scan.space (Token.text _ ++ _) = 0
    rw [show Token.text _ = c :: more from same, List.cons_append, Scan.space_cons, if_neg]
    simp [visible]
  | @space c rest position _ blank holds =>
    have all : Holds ⟨c :: rest, position⟩ tokens := .space blank holds
    obtain ⟨later, visible⟩ := all.drop_space
    obtain ⟨token, behind, read, ahead⟩ :=
      next_of_visible later visible plain admitted rest.length
    refine ⟨token, behind, ?_, ahead⟩
    have length : Scan.space (c :: rest) ≠ 0 := by
      rw [Scan.space_cons, if_pos blank]
      exact Nat.succ_ne_zero _
    have ignored : Lexeme.first usable (c :: rest) = .ignored (Scan.space (c :: rest)) := by
      simp [Lexeme.first, Scan.comment_of_ne (Scan.ne_slash_of_isSpace blank), length,
        plain .jsxText (by simp)]
    rw [next]
    simp only [List.isEmpty_cons, Bool.false_eq_true, if_false, ignored, List.length_cons]
    exact read

end Input

end Hyperscript.Grammar
