import Hyperscript.Lowering.Registry
import Mathlib.Data.List.Nodup

/-!
# Fresh names

The search for a local name ends at the first candidate that is not taken. The candidates differ
from each other, so among more of them than there are names taken one is free.
-/
namespace Hyperscript

namespace CodePoint

theorem ofChar_inj {c d : Char} : ofChar c = ofChar d ↔ c = d := by
  constructor
  · intro h
    have same : c.toNat = d.toNat := Fin.mk.inj h
    exact Char.toNat_inj.mp same
  · exact congrArg ofChar

theorem ofChar_injective : Function.Injective ofChar := fun _ _ => ofChar_inj.mp

end CodePoint

namespace Text

theorem ofNat_inj {m n : Nat} : ofNat m = ofNat n ↔ m = n := by
  constructor
  · intro h
    have digits : Nat.toDigits 10 m = Nat.toDigits 10 n :=
      List.map_injective_iff.mpr CodePoint.ofChar_injective h
    rw [← @Nat.ofDigitChars_ten_toDigits m, digits, Nat.ofDigitChars_ten_toDigits]
  · exact congrArg ofNat

theorem ofNat_ne_nil (n : Nat) : ofNat n ≠ [] := by
  rw [ofNat, Ne, List.map_eq_nil_iff]
  exact Nat.toDigits_ne_nil

end Text

namespace Lowering.Registry

theorem candidate_inj {name : Text} {m n : Nat} (hm : 1 ≤ m) (hn : 1 ≤ n)
    (h : candidate name m = candidate name n) : m = n := by
  simp only [candidate] at h
  split at h
  · split at h
    · omega
    · exact absurd (List.self_eq_append_right.mp h) (Text.ofNat_ne_nil n)
  · split at h
    · exact absurd (List.append_right_eq_self.mp h) (Text.ofNat_ne_nil m)
    · exact Text.ofNat_inj.mp (List.append_cancel_left h)

/-- The name is the first of the candidates that is not taken. -/
def IsFirstFree (used : List Text) (name free : Text) : Prop :=
  ∃ k, 1 ≤ k ∧ free = candidate name k ∧ free ∉ used ∧
    ∀ j, 1 ≤ j → j < k → candidate name j ∈ used

/-- There is only one first free candidate. -/
theorem IsFirstFree.unique {used : List Text} {name a b : Text} (ha : IsFirstFree used name a)
    (hb : IsFirstFree used name b) : a = b := by
  obtain ⟨j, hj, rfl, freeA, beforeA⟩ := ha
  obtain ⟨k, hk, rfl, freeB, beforeB⟩ := hb
  rcases Nat.lt_trichotomy j k with less | rfl | more
  · exact absurd (beforeB j hj less) freeA
  · rfl
  · exact absurd (beforeA k hk more) freeB

/-- Not all candidates up to one more than there are names taken can be taken. -/
theorem exists_free (used : List Text) (name : Text) :
    ∃ k, 1 ≤ k ∧ k ≤ used.length + 1 ∧ candidate name k ∉ used := by
  by_contra taken
  have all : ∀ k, 1 ≤ k → k ≤ used.length + 1 → candidate name k ∈ used := by
    intro k low high
    by_contra free
    exact taken ⟨k, low, high, free⟩
  have tried : ((List.range' 1 (used.length + 1)).map (candidate name)).Nodup := by
    refine List.Nodup.map_on ?_ List.nodup_range'
    intro m hm n hn same
    rw [List.mem_range'_1] at hm hn
    exact candidate_inj hm.1 hn.1 same
  have inside : (List.range' 1 (used.length + 1)).map (candidate name) ⊆ used := by
    intro c hc
    obtain ⟨k, hk, rfl⟩ := List.mem_map.mp hc
    rw [List.mem_range'_1] at hk
    exact all k hk.1 (by omega)
  have count := tried.length_le_of_subset inside
  rw [List.length_map, List.length_range'] at count
  omega

/-- The search passes taken candidates only, and stops before its fuel is used up only at a free
one. -/
theorem firstFree_spec (used : List Text) (name : Text) (fuel n : Nat) :
    ∃ k, n ≤ k ∧ k ≤ n + fuel ∧ firstFree used name fuel n = candidate name k ∧
      (∀ j, n ≤ j → j < k → candidate name j ∈ used) ∧
      (k < n + fuel → candidate name k ∉ used) := by
  induction fuel generalizing n with
  | zero => exact ⟨n, Nat.le_refl n, Nat.le_refl n, rfl, fun j _ _ => by omega, fun _ => by omega⟩
  | succ fuel ih =>
    rw [firstFree]
    by_cases taken : candidate name n ∈ used
    · rw [if_pos (by simpa using taken)]
      obtain ⟨k, low, high, found, before, free⟩ := ih (n + 1)
      refine ⟨k, by omega, by omega, found, ?_, fun less => free (by omega)⟩
      intro j hj less
      by_cases first : j = n
      · exact first ▸ taken
      · exact before j (by omega) less
    · rw [if_neg (by simpa using taken)]
      exact ⟨n, Nat.le_refl n, by omega, rfl, fun j _ _ => by omega, fun _ => taken⟩

/-- A fresh name is the first candidate that is not taken. -/
theorem freshName_isFirstFree (r : Registry) (name : Text) :
    IsFirstFree r.used name (r.freshName name) := by
  obtain ⟨k, low, high, found, before, free⟩ := firstFree_spec r.used name r.used.length 1
  refine ⟨k, low, found, ?_, before⟩
  intro taken
  change r.freshName name = candidate name k at found
  rw [found] at taken
  obtain ⟨j, hj, bound, open_⟩ := exists_free r.used name
  rcases Nat.lt_trichotomy j k with less | rfl | more
  · exact open_ (before j hj less)
  · exact open_ taken
  · exact free (by omega) taken

end Lowering.Registry

end Hyperscript
