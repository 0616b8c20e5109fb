import Hyperscript.Proofs.LowererHistory
import Hyperscript.Proofs.LoweringCount
import Mathlib.Data.List.Chain

/-!
# Groups between spreads

Which properties win at run time depends on the order of the groups. The groups of a tag keep the
order of its attributes, and they are the only groups that do so without an empty run and without
two runs side by side. One call puts them together again, in the same order, if there is more than
one.
-/
namespace Hyperscript.Lowering

namespace Attribute

def isSpread : Attribute → Bool
  | .named .. => false
  | .spread _ => true

/-- What an attribute adds to the properties: an entry, or all that an object has. -/
def piece (rule : PropRule) (tag : Descriptor) : Attribute → Entry ⊕ Node
  | .named place name value => .inl (entry rule tag place name value)
  | .spread argument => .inr argument

theorem isRight_piece (rule : PropRule) (tag : Descriptor) (a : Attribute) :
    (a.piece rule tag).isRight = a.isSpread := by
  cases a <;> rfl

end Attribute

namespace PropGroup

/-- What a group adds to the properties, a run its entries one by one. -/
def pieces : PropGroup → List (Entry ⊕ Node)
  | .literal entries => entries.map .inl
  | .spread argument => [.inr argument]

/-- Every run has an entry, and next to a run stands a spread. -/
structure Separated (groups : List PropGroup) : Prop where
  filled : ∀ g ∈ groups, g ≠ .literal []
  apart : groups.IsChain fun g h => g.isSpread = true ∨ h.isSpread = true

section Separated

variable {g : PropGroup} {groups others : List PropGroup}

theorem separated_nil : Separated [] := ⟨fun _ h => absurd h List.not_mem_nil, .nil⟩

theorem Separated.tail (h : Separated (g :: groups)) : Separated groups where
  filled k hk := h.filled k (List.mem_cons_of_mem g hk)
  apart := (List.isChain_cons.mp h.apart).2

theorem Separated.spread (h : Separated groups) (argument : Node) :
    Separated (.spread argument :: groups) where
  filled := List.forall_mem_cons.mpr ⟨nofun, h.filled⟩
  apart := List.isChain_cons.mpr ⟨fun _ _ => .inl rfl, h.apart⟩

/-- A run that is closed in front of a spread, or at the end. -/
theorem Separated.close (h : Separated groups) (next : ∀ g ∈ groups.head?, g.isSpread = true)
    (entries : List Entry) : Separated (close entries ++ groups) := by
  cases entries with
  | nil => exact h
  | cons e rest =>
    refine ⟨List.forall_mem_cons.mpr ⟨nofun, h.filled⟩, ?_⟩
    exact List.isChain_cons.mpr ⟨fun k hk => .inr (next k hk), h.apart⟩

theorem Separated.next {entries : List Entry} (h : Separated (.literal entries :: groups)) :
    ∀ p ∈ (groups.flatMap pieces).head?, p.isRight = true := by
  cases groups with
  | nil => exact fun p hp => by cases hp
  | cons k rest =>
    have spread := (List.isChain_cons.mp h.apart).1 k rfl
    cases k with
    | literal others => simp [isSpread] at spread
    | spread argument =>
      intro p hp
      cases hp
      rfl

/-- Where entries end and something else starts is seen from the list itself. -/
theorem run_inj {α β : Type} {first second : List α} {left right : List (α ⊕ β)}
    (hl : ∀ p ∈ left.head?, p.isRight = true) (hr : ∀ p ∈ right.head?, p.isRight = true)
    (same : first.map .inl ++ left = second.map .inl ++ right) : first = second ∧ left = right := by
  induction first generalizing second with
  | nil =>
    cases second with
    | nil => exact ⟨rfl, same⟩
    | cons b second =>
      rw [List.map_nil, List.nil_append] at same
      rw [same] at hl
      cases hl (.inl b) rfl
  | cons a first ih =>
    cases second with
    | nil =>
      rw [List.map_nil, List.nil_append] at same
      rw [← same] at hr
      cases hr (.inl a) rfl
    | cons b second =>
      obtain ⟨head, tail⟩ := List.cons.inj same
      obtain ⟨rfl, rest⟩ := ih tail
      exact ⟨congrArg (· :: first) (Sum.inl.inj head), rest⟩

/-- A group that adds anything shows by the first piece whether it is a spread. -/
theorem exists_first (filled : g ≠ .literal []) :
    ∃ p rest, g.pieces = p :: rest ∧ p.isRight = g.isSpread := by
  cases g with
  | spread argument => exact ⟨_, _, rfl, rfl⟩
  | literal entries =>
    cases entries with
    | nil => exact absurd rfl filled
    | cons e rest => exact ⟨_, _, rfl, rfl⟩

/-- Separated groups are determined by what they add to the properties. -/
theorem Separated.unique (h : Separated groups) (k : Separated others)
    (same : groups.flatMap pieces = others.flatMap pieces) : groups = others := by
  induction groups generalizing others with
  | nil =>
    cases others with
    | nil => rfl
    | cons other more =>
      obtain ⟨p, rest, first, -⟩ := exists_first (k.filled other List.mem_cons_self)
      simp [first] at same
  | cons g rest ih =>
    obtain ⟨p, left, first, spread⟩ := exists_first (h.filled g List.mem_cons_self)
    cases others with
    | nil => simp [first] at same
    | cons other more =>
      obtain ⟨q, right, second, spread'⟩ := exists_first (k.filled other List.mem_cons_self)
      rw [List.flatMap_cons, List.flatMap_cons] at same
      have kinds : g.isSpread = other.isSpread := by
        rw [first, second] at same
        rw [← spread, ← spread', (List.cons.inj same).1]
      cases g with
      | spread argument =>
        cases other with
        | spread another =>
          obtain ⟨head, tail⟩ := List.cons.inj same
          rw [Sum.inr.inj head, ih h.tail k.tail tail]
        | literal entries => cases kinds
      | literal entries =>
        cases other with
        | spread another => cases kinds
        | literal others =>
          obtain ⟨run, tail⟩ := run_inj h.next k.next same
          rw [run, ih h.tail k.tail tail]

end Separated

section Split

variable (rule : PropRule) (tag : Descriptor)

theorem pieces_close (entries : List Entry) :
    (close entries).flatMap pieces = entries.map .inl := by
  cases entries <;> simp [close, pieces]

/-- Nothing is lost or moved, wherever a run is closed. -/
theorem pieces_split (pending : List Entry) (attributes : List Attribute) :
    (split rule tag pending attributes).flatMap pieces =
      pending.map .inl ++ attributes.map (Attribute.piece rule tag) := by
  induction attributes generalizing pending with
  | nil => rw [split, pieces_close, List.map_nil, List.append_nil]
  | cons a rest ih =>
    cases a with
    | spread argument =>
      rw [split, List.flatMap_append, pieces_close, List.flatMap_cons, ih]
      rfl
    | named place name value =>
      rw [split, ih, List.map_append, List.append_assoc]
      rfl

theorem separated_split (pending : List Entry) (attributes : List Attribute) :
    Separated (split rule tag pending attributes) := by
  induction attributes generalizing pending with
  | nil =>
    have closed := separated_nil.close (fun _ h => by cases h) pending
    rwa [List.append_nil] at closed
  | cons a rest ih =>
    cases a with
    | spread argument =>
      refine ((ih []).spread argument).close ?_ pending
      intro g hg
      cases hg
      rfl
    | named place name value => exact ih _

theorem countP_isSpread (groups : List PropGroup) :
    groups.countP isSpread = (groups.flatMap pieces).countP Sum.isRight := by
  induction groups with
  | nil => rfl
  | cons g rest ih =>
    rw [List.countP_cons, List.flatMap_cons, List.countP_append, ih, Nat.add_comm]
    cases g <;> simp [isSpread, pieces, Function.comp_def]

end Split

section Merge

variable (layouts : Grouping → EntryLayout) (config : Config) {groups : List PropGroup}

theorem mergeIn_of_one_lt_length (several : 1 < groups.length) (r : Registry) :
    mergeIn layouts config groups r =
      (.plain (.call
        (.plain (.identifier
          (r.resolve config.mergeModule config.mergeExport config.mergeAlias).1))
        [.plain (.arrayExpression (groups.map (expressionIn (layouts config.grouping))))] false),
        (r.resolve config.mergeModule config.mergeExport config.mergeAlias).2) := by
  match groups with
  | [] | [_] => simp at several
  | first :: second :: rest => rfl

/-- The call holds the expression of every group, so it is none of them. -/
theorem mergeIn_ne_of_one_lt_length (several : 1 < groups.length) (r : Registry) {g : PropGroup}
    (member : g ∈ groups) :
    (mergeIn layouts config groups r).1 ≠ g.expressionIn (layouts config.grouping) := by
  intro same
  let objects := groups.map (expressionIn (layouts config.grouping))
  have inner : (g.expressionIn (layouts config.grouping)).size <
      (Node.plain (.arrayExpression objects)).size :=
    Node.size_lt_of_mem (List.mem_map_of_mem member)
  have outer : (Node.plain (.arrayExpression objects)).size <
      (mergeIn layouts config groups r).1.size := by
    rw [mergeIn_of_one_lt_length layouts config several]
    exact Node.size_lt_of_mem (List.mem_cons_of_mem _ List.mem_cons_self)
  rw [same] at outer
  exact absurd (Nat.lt_trans inner outer) (Nat.lt_irrefl _)

/-- Null that is not the expression of a group stands for no group. -/
theorem eq_nil_iff_mergeIn (r : Registry) :
    groups = [] ↔ (mergeIn layouts config groups r).1 = .plain .null ∧
      ∀ g ∈ groups, (mergeIn layouts config groups r).1 ≠
        g.expressionIn (layouts config.grouping) := by
  constructor
  · rintro rfl
    exact ⟨rfl, fun g hg => absurd hg List.not_mem_nil⟩
  · rintro ⟨null, other⟩
    match groups with
    | [] => rfl
    | [g] => exact absurd rfl (other g List.mem_cons_self)
    | first :: second :: rest => cases null

/-- The expression of a group stands for that group alone. -/
theorem singleton_iff_mergeIn (r : Registry) :
    (∃ g, groups = [g]) ↔ ∃ g ∈ groups, (mergeIn layouts config groups r).1 =
      g.expressionIn (layouts config.grouping) := by
  constructor
  · rintro ⟨g, rfl⟩
    exact ⟨g, List.mem_cons_self, rfl⟩
  · rintro ⟨g, hg, same⟩
    match groups with
    | [_] => exact ⟨_, rfl⟩
    | first :: second :: rest =>
      exact absurd same (mergeIn_ne_of_one_lt_length layouts config (by simp) r hg)

theorem mergeIn_of_length_le_one (few : groups.length ≤ 1) (r : Registry) :
    (mergeIn layouts config groups r).2 = r := by
  match groups with
  | [] | [_] => rfl
  | first :: second :: rest => simp at few

end Merge

/-- The groups of the attributes of a tag add to the properties, from left to right, what the
attributes add one by one. Each spread is a group of its own, no run is empty and no two runs are
adjacent; there is no other list of groups like this. However entries are laid out, merging the
groups gives null if there is none, a null that is not the expression of a group, the expression of
the group if there is a single one, and otherwise a call of the helper with the list of all their
expressions. Only then is the registry asked for anything. -/
theorem ofAttributes_canonical (rule : PropRule) (tag : Descriptor) (attributes : List Attribute) :
    (ofAttributes rule tag attributes).flatMap pieces =
        attributes.map (Attribute.piece rule tag) ∧
      (ofAttributes rule tag attributes).countP isSpread =
        attributes.countP Attribute.isSpread ∧
      Separated (ofAttributes rule tag attributes) ∧
      (∀ groups, Separated groups →
        groups.flatMap pieces = attributes.map (Attribute.piece rule tag) →
        groups = ofAttributes rule tag attributes) ∧
      (ofAttributes rule tag attributes = [] ↔ attributes = []) ∧
      ∀ (layouts : Grouping → EntryLayout) (config : Config) (groups : List PropGroup)
        (r : Registry),
        let own := expressionIn (layouts config.grouping)
        let merged := mergeIn layouts config groups r
        let helper := r.resolve config.mergeModule config.mergeExport config.mergeAlias
        (groups = [] ↔ merged.1 = .plain .null ∧ ∀ g ∈ groups, merged.1 ≠ own g) ∧
        ((∃ g, groups = [g]) ↔ ∃ g ∈ groups, merged.1 = own g) ∧
        (1 < groups.length →
          merged.1 = .plain (.call (.plain (.identifier helper.1))
            [.plain (.arrayExpression (groups.map own))] false) ∧
          merged.2 = helper.2) ∧
        (groups.length ≤ 1 → merged.2 = r) := by
  have pieces : (ofAttributes rule tag attributes).flatMap pieces =
      attributes.map (Attribute.piece rule tag) := pieces_split rule tag [] attributes
  have separated : Separated (ofAttributes rule tag attributes) :=
    separated_split rule tag [] attributes
  refine ⟨pieces, ?_, separated, ?_, ?_, ?_⟩
  · rw [countP_isSpread, pieces, List.countP_map]
    exact List.countP_congr fun a _ => by rw [Function.comp_apply, Attribute.isRight_piece]
  · exact fun groups h same => h.unique separated (same.trans pieces.symm)
  · simp [ofAttributes, split_eq_nil_iff]
  · intro layouts config groups r own merged helper
    refine ⟨eq_nil_iff_mergeIn layouts config r, singleton_iff_mergeIn layouts config r, ?_,
      fun few => mergeIn_of_length_le_one layouts config few r⟩
    intro several
    have call := mergeIn_of_one_lt_length layouts config several r
    exact ⟨congrArg Prod.fst call, congrArg Prod.snd call⟩

end PropGroup

end Hyperscript.Lowering
