import Hyperscript.Proofs.Derivation

/-!
# Expressions without a leading brace

Where a statement may begin, a brace opens a block, so the expressions that stand there are read by
a copy of the levels that has no brace in front. Between the copies only the first symbol of a
production differs, and along the first symbols of a derivation one comes to the first token of the
word. So a level without the brace derives what the level itself derives, with the same values, as
far as the words do not start with a brace.
-/
namespace Hyperscript.Grammar

/-- The first token is one that an expression may start with, where it has the right to start with a
brace and where it has not. -/
def StartsExpression (brace : Bool) (word : List Token) : Prop :=
  ∃ t rest, word = t :: rest ∧ (brace = true ∨ t.kind ≠ .braceOpen)

/-- What stands first in an expression, and everything that stands first in that. -/
def Symbol.isLeading (brace : Bool) : Symbol → Bool
  | .terminal t => brace || t ≠ .braceOpen
  | .nonterminal (.chain own _) => brace || !own
  | .nonterminal .object => brace
  | .nonterminal .arrowFunction | .nonterminal .arrowParams | .nonterminal .array => true
  | .nonterminal .functionExpression | .nonterminal .classExpression => true
  | .nonterminal .newExpression | .nonterminal .element => true
  | .nonterminal _ => false

/-- The first slot reads one of these symbols. -/
def Slot.startLeading (brace : Bool) : List Slot → Bool
  | [] => false
  | slot :: _ => slot.symbol?.any (·.isLeading brace)

theorem startLeading_of_mem {brace : Bool} {a : Nonterminal} {p : Production}
    (leading : (Symbol.nonterminal a).isLeading brace = true) (member : p ∈ a.productions) :
    Slot.startLeading brace p.slots = true := by
  have each : ∀ right : Bool, ∀ b ∈ nonterminals,
      (Symbol.nonterminal b).isLeading right = true →
        ∀ q ∈ b.productions, Slot.startLeading right q.slots = true := by
    decide
  exact each brace a (mem_nonterminals a) leading p member

/-- A word of a leading symbol is not empty, and starts as an expression may start. -/
theorem Derives.startsExpression {s : Symbol} {word : List Token} {value : List Part}
    (h : Derives s word value) (brace : Bool) (leading : s.isLeading brace = true) :
    StartsExpression brace word := by
  induction h using Derives.rec
    (motive_2 := fun slots word _ _ => Slot.startLeading brace slots = true →
      StartsExpression brace word) with
  | token t =>
    refine ⟨t, [], rfl, ?_⟩
    simpa [Symbol.isLeading] using leading
  | production member _ _ starts => exact starts (startLeading_of_mem leading member)
  | nil leading => cases leading
  | absent _ _ leading => cases leading
  | skip t _ _ leading =>
    refine ⟨t, _, rfl, ?_⟩
    simpa [Slot.startLeading, Slot.symbol?, Symbol.isLeading] using leading
  | keep _ _ starts _ leading =>
    obtain ⟨t, rest, rfl, first⟩ := starts leading
    exact ⟨t, _, rfl, first⟩

/-- A level with another right in its first slot. -/
def Slot.withBrace (brace : Bool) : Slot → Slot
  | .keep (.nonterminal (.chain _ level)) => .keep (.nonterminal (.chain brace level))
  | slot => slot

def Slot.headWithBrace (brace : Bool) : List Slot → List Slot
  | [] => []
  | slot :: rest => slot.withBrace brace :: rest

/-- Above the primaries, the copies have the same productions but for the first slot. -/
theorem exists_copy (brace : Bool) {own : Bool} {level : Level} (above : level ≠ .primary)
    {p : Production} (member : p ∈ (Nonterminal.chain own level).productions) :
    ∃ q ∈ (Nonterminal.chain brace level).productions,
      q.slots = Slot.headWithBrace brace p.slots ∧ q.action = p.action := by
  have each : ∀ left right : Bool, ∀ l ∈ Level.all, l ≠ .primary →
      ∀ p ∈ (Nonterminal.chain left l).productions, ∃ q ∈ (Nonterminal.chain right l).productions,
        q.slots = Slot.headWithBrace right p.slots ∧ q.action = p.action := by
    decide
  exact each own brace level (by cases level <;> decide) above p member

section Primary

variable {word : List Token} {value parts : List Part}

theorem reads_single_iff {s : Symbol} : Reads [.keep s] word parts ↔ Derives s word parts := by
  constructor
  · intro h
    cases h with
    | keep own rest =>
      cases rest
      simpa only [List.append_nil] using own
  · intro h
    simpa only [List.append_nil] using Reads.keep h .nil

/-- A primary expression is an object or one of those without the brace. -/
theorem derives_primary_iff : Derives (.nonterminal (.chain true .primary)) word value ↔
    Derives (.nonterminal (.chain false .primary)) word value ∨
      Derives (.nonterminal .object) word value := by
  let pass (a : Nonterminal) : Production := ⟨.chain true .primary, [.keep (.nonterminal a)], none⟩
  have listed : (Nonterminal.chain true .primary).productions =
      [pass (.chain false .primary), pass .object] := by
    decide
  constructor
  · intro h
    cases h with
    | production member reads built =>
      rw [listed, List.mem_cons, List.mem_singleton] at member
      rcases member with rfl | rfl
      · cases built
        exact .inl (reads_single_iff.mp reads)
      · cases built
        exact .inr (reads_single_iff.mp reads)
  · rintro (h | h)
    · have member : pass (.chain false .primary) ∈ _ := listed ▸ List.mem_cons_self
      exact .production member (reads_single_iff.mpr h) rfl
    · have member : pass .object ∈ _ := listed ▸ List.mem_cons_of_mem _ List.mem_cons_self
      exact .production member (reads_single_iff.mpr h) rfl

theorem object_starts (h : Derives (.nonterminal .object) word value) :
    ¬ StartsExpression false word := by
  have opens : ∀ p ∈ Nonterminal.object.productions,
      p.slots.head? = some (.skip .braceOpen) := by
    decide
  cases h with
  | @production _ p _ _ _ member reads built =>
    obtain ⟨rest, slots⟩ := List.head?_eq_some_iff.mp (opens p member)
    rw [slots] at reads
    generalize mark : Terminal.braceOpen = kind at reads
    cases reads with
    | skip t reads =>
      rintro ⟨_, _, ⟨⟩, other⟩
      exact other.resolve_left Bool.false_ne_true mark.symm

end Primary

/-- A word of a level is one of its copy, with the same value, if it starts as the copy may. -/
theorem Derives.copy {own brace : Bool} {level : Level} {word : List Token} {value : List Part}
    (h : Derives (.nonterminal (.chain own level)) word value)
    (starts : StartsExpression brace word) :
    Derives (.nonterminal (.chain brace level)) word value := by
  generalize same : Symbol.nonterminal (.chain own level) = s at h
  induction h using Derives.rec
    (motive_2 := fun slots word parts _ => StartsExpression brace word →
      Reads (Slot.headWithBrace brace slots) word parts)
    generalizing own level with
  | token t => cases same
  | @production a p word parts value member reads built ih =>
    cases same
    by_cases above : level = .primary
    · subst above
      have whole := Derives.production member reads built
      cases own <;> cases brace
      · exact whole
      · exact derives_primary_iff.mpr (.inl whole)
      · exact (derives_primary_iff.mp whole).resolve_right fun object =>
          object_starts object starts
      · exact whole
    · obtain ⟨q, copied, slots, action⟩ := exists_copy brace above member
      refine .production copied (slots ▸ ih starts) ?_
      rwa [Production.build, action]
  | nil => exact .nil
  | absent reads => exact .absent reads
  | skip t reads => exact .skip t reads
  | @keep s slots first word value parts own reads ih _ starts =>
    -- only an expression level in front changes, and what it reads is not empty
    cases s with
    | terminal => exact .keep own reads
    | nonterminal a =>
      cases a with
      | chain right level =>
        obtain ⟨t, rest, rfl, -⟩ := own.startsExpression true rfl
        obtain ⟨_, _, ⟨⟩, may⟩ := starts
        exact .keep (ih ⟨t, rest, rfl, may⟩ rfl) reads
      | _ => exact .keep own reads

/-- At every level, the copy without the brace derives exactly the words of the level that do not
start with a brace, and with the same values. -/
theorem derives_without_brace_iff (level : Level) (word : List Token) (value : List Part) :
    Derives (.nonterminal (.chain false level)) word value ↔
      Derives (.nonterminal (.chain true level)) word value ∧
        ∃ t rest, word = t :: rest ∧ t.kind ≠ .braceOpen := by
  constructor
  · intro h
    obtain ⟨t, rest, rfl, first⟩ := h.startsExpression false rfl
    refine ⟨h.copy ⟨t, rest, rfl, .inl rfl⟩, t, rest, rfl, ?_⟩
    exact first.resolve_left Bool.false_ne_true
  · rintro ⟨h, t, rest, rfl, first⟩
    exact h.copy ⟨t, rest, rfl, .inr first⟩

end Hyperscript.Grammar
