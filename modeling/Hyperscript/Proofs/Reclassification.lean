import Hyperscript.Lowering.Attribute
import Mathlib.Logic.Function.Iterate

/-!
# Classifying an attribute again

The rule is asked about the name that an attribute has, and nothing tells it that a name has been
marked before. So each round of classification marks a computed attribute once more, until the rule
rejects a name; a second round changes nothing exactly if the rule rejects the name or the marked
name. The rule of the defaults asks for four names and for no marked one.
-/
namespace Hyperscript.Lowering

namespace Attribute

/-- The same attribute under another name. -/
def renamed (name : Text) : Attribute → Attribute
  | .named place old value => .named place ⟨old.place, .jsxIdentifier name⟩ value
  | .spread argument => .spread argument

/-- The attribute under the name that it is emitted under. -/
def reclassified (rule : PropRule) (tag : Descriptor) (a : Attribute) : Attribute :=
  match a.classify rule tag with
  | some name => a.renamed name
  | none => a

/-- The name with so many marks in front. -/
def marked (name : Text) : Nat → Text
  | 0 => name
  | k + 1 => domPropsMark ++ marked name k

/-- How many of the given rounds add a mark to the name. -/
def marksAdded (accepts : Text → Bool) : Nat → Text → Nat
  | 0, _ => 0
  | rounds + 1, name =>
    if accepts name then marksAdded accepts rounds (domPropsMark ++ name) + 1 else 0

/-- A round marks the attribute under this name: it is computed, and the rule asks for the name. -/
def isMarked (rule : PropRule) (tag : Descriptor) (a : Attribute) (name : Text) : Bool :=
  a.isComputed && rule tag.name tag.type name

section Rounds

variable {rule : PropRule} {tag : Descriptor} {a : Attribute} {name : Text}

theorem eq_named (found : a.name? = some name) : ∃ place namePlace value,
    a = .named place ⟨namePlace, .jsxIdentifier name⟩ value := by
  cases a with
  | spread argument => cases found
  | named place nameNode value =>
    obtain ⟨namePlace, form⟩ := nameNode
    cases form <;> cases found
    exact ⟨place, namePlace, value, rfl⟩

theorem classify_eq (found : a.name? = some name) :
    a.classify rule tag =
      some (if a.isMarked rule tag name then domPropsMark ++ name else name) := by
  rw [classify, found]
  rfl

theorem name?_renamed (found : a.name? = some name) (other : Text) :
    (a.renamed other).name? = some other := by
  obtain ⟨place, namePlace, value, rfl⟩ := eq_named found
  rfl

theorem isComputed_renamed (other : Text) : (a.renamed other).isComputed = a.isComputed := by
  cases a with
  | spread argument => rfl
  | named place old value =>
    cases value with
    | none => rfl
    | some v =>
      obtain ⟨_, form⟩ := v
      cases form <;> rfl

theorem renamed_self (found : a.name? = some name) : a.renamed name = a := by
  obtain ⟨place, namePlace, value, rfl⟩ := eq_named found
  rfl

/-- A round marks the attribute and keeps its value. -/
theorem reclassified_of_marked (found : a.name? = some name)
    (marks : a.isMarked rule tag name = true) :
    a.reclassified rule tag = a.renamed (domPropsMark ++ name) := by
  rw [reclassified, classify_eq found, if_pos marks]

/-- A round that marks nothing changes nothing. -/
theorem reclassified_of_not_marked (found : a.name? = some name)
    (plain : a.isMarked rule tag name = false) : a.reclassified rule tag = a := by
  rw [reclassified, classify_eq found, plain]
  exact renamed_self found

theorem marked_mark (name : Text) (k : Nat) :
    marked (domPropsMark ++ name) k = marked name (k + 1) := by
  induction k with
  | zero => rfl
  | succ k ih => exact congrArg (domPropsMark ++ ·) ih

/-- Round after round, the rule is asked about a name with one mark more, until it rejects one. -/
theorem name?_iterate (rounds : Nat) (found : a.name? = some name) :
    ((reclassified rule tag)^[rounds] a).name? =
      some (marked name (marksAdded (a.isMarked rule tag) rounds name)) := by
  induction rounds generalizing a name with
  | zero => exact found
  | succ rounds ih =>
    rw [Function.iterate_succ_apply]
    cases marks : a.isMarked rule tag name with
    | true =>
      have same : (a.renamed (domPropsMark ++ name)).isMarked rule tag = a.isMarked rule tag := by
        funext other
        rw [isMarked, isMarked, isComputed_renamed]
      rw [reclassified_of_marked found marks, ih (name?_renamed found _), marked_mark, same,
        marksAdded, if_pos marks]
    | false =>
      have still : (reclassified rule tag)^[rounds] a = a :=
        Function.iterate_fixed (reclassified_of_not_marked found marks) rounds
      rw [reclassified_of_not_marked found marks, still, found, marksAdded, marks]
      rfl

/-- A second round changes nothing exactly if it does not mark a marked name. -/
theorem classify_reclassified_iff :
    (a.reclassified rule tag).classify rule tag = a.classify rule tag ↔
      ∀ name, a.name? = some name → a.isMarked rule tag name = true →
        rule tag.name tag.type (domPropsMark ++ name) = false := by
  cases found : a.name? with
  | none =>
    have unnamed : a.reclassified rule tag = a := by simp [reclassified, classify, found]
    simp [unnamed]
  | some name =>
    cases marks : a.isMarked rule tag name with
    | false => simp [reclassified_of_not_marked found marks, marks]
    | true =>
      have computed : a.isComputed = true := ((Bool.and_eq_true _ _).mp marks).1
      have longer : domPropsMark ++ (domPropsMark ++ name) ≠ domPropsMark ++ name := by
        intro same
        have none : domPropsMark = [] := List.append_left_eq_self.mp same
        cases none
      rw [reclassified_of_marked found marks, classify_eq (name?_renamed found _),
        classify_eq found, if_pos marks, isMarked, isComputed_renamed, computed, Bool.true_and]
      cases rejects : rule tag.name tag.type (domPropsMark ++ name) <;>
        simp [marks, longer, rejects]

end Rounds

/-- The rule of the defaults asks for no marked name. -/
theorem mustUseProp_marked (tag type : Option Text) (name : Text) :
    mustUseProp tag type (domPropsMark ++ name) = false := by
  have apart (word : Text) (other : word.head? ≠ domPropsMark.head?) :
      domPropsMark ++ name ≠ word := by
    rintro rfl
    exact other rfl
  simp [mustUseProp, apart "value" (by decide), apart "selected" (by decide),
    apart "checked" (by decide), apart "muted" (by decide)]

/-- Classifying an attribute under the name that it is emitted under gives this name again exactly
if the rule does not ask for the marked name of an attribute that it marks, as is the case for the
rule of the defaults. Any other rule adds mark after mark, until it rejects a name. -/
theorem classify_again_iff (rule : PropRule) (tag : Descriptor) (a : Attribute) :
    ((a.reclassified rule tag).classify rule tag = a.classify rule tag ↔
        ∀ name, a.name? = some name → a.isMarked rule tag name = true →
          rule tag.name tag.type (domPropsMark ++ name) = false) ∧
      (a.reclassified mustUseProp tag).classify mustUseProp tag = a.classify mustUseProp tag ∧
      ∀ name rounds, a.name? = some name →
        ((reclassified rule tag)^[rounds] a).name? =
          some (marked name (marksAdded (a.isMarked rule tag) rounds name)) := by
  refine ⟨classify_reclassified_iff, ?_, fun name rounds => name?_iterate rounds⟩
  exact classify_reclassified_iff.mpr fun name _ _ => mustUseProp_marked tag.name tag.type name

/-- An attribute `value` that is computed. -/
def computedValue : Attribute :=
  .named .nowhere (.plain (.jsxIdentifier "value"))
    (some (.plain (.jsxExpressionContainer (.plain (.identifier "x")))))

/-- A rule that asks for every name asks for a marked one too. -/
theorem classify_again_adds_mark :
    ∃ (rule : PropRule) (tag : Descriptor),
      computedValue.classify rule tag = some (Text.ofString "domProps-value") ∧
      (computedValue.reclassified rule tag).classify rule tag =
        some (Text.ofString "domProps-domProps-value") ∧
      (computedValue.reclassified rule tag).classify rule tag ≠
        computedValue.classify rule tag := by
  refine ⟨fun _ _ _ => true, ⟨some "a", none⟩, ?_⟩
  decide +kernel

end Attribute

end Hyperscript.Lowering
