import Hyperscript.Proofs.Spelling

/-!
# What the lexer finds is whole

A name or a number that the lexer has found is found again where it stands alone, because no code
point behind it was needed to find it. A string or a template starts and ends with its quote.
-/
namespace Hyperscript.Grammar

/-- The whole text is a number. -/
def IsNumber (t : Text) : Prop := t ≠ [] ∧ Scan.number t = t.length

instance (t : Text) : Decidable (IsNumber t) := inferInstanceAs (Decidable (_ ∧ _))

/-- The code points that strings and templates stand between. -/
def quotes : List CodePoint := [CodePoint.ofChar '"', CodePoint.ofChar '\'', 0x60]

/-- The text stands between two quotes of one kind. -/
def IsEnclosed (t : Text) : Prop := ∃ quote ∈ quotes, ∃ inside, t = quote :: (inside ++ [quote])

namespace Scan

/-- How long a member of a class is does not depend on what stands behind it. -/
def Whole (scan : Text → Nat) : Prop :=
  ∀ t rest : Text, scan (t ++ rest) ≤ t.length → scan t = scan (t ++ rest)

theorem whole_run (p : CodePoint → Bool) : Whole (run p) := by
  intro t rest
  induction t with
  | nil => exact fun h => (Nat.le_zero.mp h).symm
  | cons c t ih =>
    simp only [run, List.cons_append, List.takeWhile_cons] at ih ⊢
    cases p c with
    | false => exact fun _ => rfl
    | true => exact fun h => congrArg (· + 1) (ih (Nat.le_of_succ_le_succ h))

theorem whole_headed (first others : CodePoint → Bool) : Whole (headed first others) := by
  intro t rest h
  cases t with
  | nil => exact (Nat.le_zero.mp h).symm
  | cons c t =>
    simp only [headed, List.cons_append] at h ⊢
    cases start : first c with
    | false => rfl
    | true =>
      rw [start] at h
      exact congrArg (· + 1) (whole_run _ t rest (Nat.le_of_succ_le_succ h))

theorem fraction_cons (c : CodePoint) (t : Text) :
    fraction (c :: t) =
      if c = '.' then if run CodePoint.isDecimal t = 0 then 0 else run CodePoint.isDecimal t + 1
      else 0 := by
  by_cases dot : c = '.' <;> simp [fraction, dot]

theorem whole_fraction : Whole fraction := by
  intro t rest h
  cases t with
  | nil => exact (Nat.le_zero.mp h).symm
  | cons c t =>
    rw [List.cons_append, fraction_cons, List.length_cons] at h
    rw [List.cons_append, fraction_cons, fraction_cons]
    by_cases dot : c = '.'
    · rw [if_pos dot] at h ⊢
      rw [if_pos dot, whole_run _ t rest (by split at h <;> omega)]
    · rw [if_neg dot, if_neg dot]

theorem whole_exponent : Whole exponent := by
  intro t rest h
  match t with
  | [] => exact (Nat.le_zero.mp h).symm
  | [c] =>
    have alone : exponent [c] = 0 := by simp [exponent, run]
    rw [alone]
    cases rest with
    | nil => exact alone.symm
    | cons d rest =>
      rw [List.singleton_append, exponent_cons_cons, List.length_singleton] at h
      rw [List.singleton_append, exponent_cons_cons]
      split at h
      · split at h
        · split at h
          · simp_all
          · omega
        · split at h
          · simp_all
          · omega
      · simp_all
  | c :: d :: t =>
    rw [List.cons_append, List.cons_append, exponent_cons_cons, List.length_cons,
      List.length_cons] at h
    rw [List.cons_append, List.cons_append, exponent_cons_cons, exponent_cons_cons]
    by_cases mark : c = 'e' ∨ c = 'E'
    · rw [if_pos mark] at h ⊢
      rw [if_pos mark]
      by_cases sign : d = '+' ∨ d = '-'
      · rw [if_pos sign] at h ⊢
        rw [if_pos sign, whole_run _ t rest (by split at h <;> omega)]
      · rw [if_neg sign] at h ⊢
        have same := whole_run CodePoint.isDecimal (d :: t) rest (by
          rw [List.cons_append, List.length_cons]
          split at h <;> omega)
        rw [if_neg sign, same]
        rfl
    · rw [if_neg mark, if_neg mark]

theorem whole_hexadecimal : Whole hexadecimal := by
  intro t rest h
  match t with
  | [] => exact (Nat.le_zero.mp h).symm
  | [c] =>
    rw [hexadecimal_singleton]
    cases rest with
    | nil => exact (hexadecimal_singleton c).symm
    | cons d rest =>
      rw [List.singleton_append, hexadecimal_cons_cons] at h ⊢
      rw [List.length_singleton] at h
      split at h
      · split at h
        · rename_i digits none
          rw [if_pos digits, if_pos none]
        · omega
      · rename_i other
        rw [if_neg other]
  | c :: d :: t =>
    rw [List.cons_append, List.cons_append, hexadecimal_cons_cons, List.length_cons,
      List.length_cons] at h
    rw [List.cons_append, List.cons_append, hexadecimal_cons_cons, hexadecimal_cons_cons]
    by_cases mark : c = '0' ∧ (d = 'x' ∨ d = 'X')
    · rw [if_pos mark] at h ⊢
      rw [if_pos mark, whole_run _ t rest (by split at h <;> omega)]
    · rw [if_neg mark, if_neg mark]

theorem whole_decimal : Whole decimal := by
  intro t rest h
  rw [decimal] at h
  dsimp only at h
  by_cases none : run CodePoint.isDecimal (t ++ rest) = 0
  · have alone := whole_run CodePoint.isDecimal t rest (none ▸ Nat.zero_le _)
    rw [decimal, decimal, alone, none]
    rfl
  · rw [if_neg none] at h
    have digits := whole_run CodePoint.isDecimal t rest (by omega)
    generalize whole : run CodePoint.isDecimal (t ++ rest) = k at *
    have first : (t ++ rest).drop k = t.drop k ++ rest := List.drop_append_of_le_length (by omega)
    have point := whole_fraction (t.drop k) rest (by rw [← first, List.length_drop]; omega)
    rw [first] at h
    have second : (t ++ rest).drop (k + fraction (t.drop k)) =
        t.drop (k + fraction (t.drop k)) ++ rest := List.drop_append_of_le_length (by omega)
    rw [← point, second] at h
    have power := whole_exponent (t.drop (k + fraction (t.drop k))) rest
      (by rw [List.length_drop]; omega)
    rw [decimal, decimal, digits, whole]
    dsimp only
    rw [first, ← point, second, ← power]

theorem whole_number : Whole number := by
  intro t rest h
  rw [number] at h
  split at h
  · rename_i none
    have alone := whole_hexadecimal t rest (none ▸ Nat.zero_le _)
    rw [number, number, if_pos none, if_pos (alone.trans none)]
    exact whole_decimal t rest h
  · rename_i some
    have alone := whole_hexadecimal t rest h
    rw [number, number, if_neg some, if_neg (alone ▸ some), alone]

/-- What was found at the start of a text is found again where it stands alone. -/
theorem Whole.take {scan : Text → Nat} (whole : Whole scan) {t : Text} (short : scan t ≤ t.length) :
    scan (t.take (scan t)) = (t.take (scan t)).length := by
  have length : (t.take (scan t)).length = scan t := by
    rw [List.length_take, Nat.min_eq_left short]
  have split := List.take_append_drop (scan t) t
  have here : scan (t.take (scan t) ++ t.drop (scan t)) = scan t := by rw [split]
  rw [whole _ (t.drop (scan t)) (by omega), here, length]

theorem run_le_length (p : CodePoint → Bool) (t : Text) : run p t ≤ t.length :=
  (List.takeWhile_sublist p).length_le

theorem headed_le_length (first rest : CodePoint → Bool) (t : Text) :
    headed first rest t ≤ t.length := by
  cases t with
  | nil => exact Nat.le_refl _
  | cons c t =>
    rw [headed]
    split
    · exact Nat.succ_le_succ (run_le_length _ t)
    · exact Nat.zero_le _

theorem name_le_length (t : Text) : name t ≤ t.length := headed_le_length isNameStart isNamePart t

theorem fraction_le_length (t : Text) : fraction t ≤ t.length := by
  cases t with
  | nil => exact Nat.le_refl _
  | cons c t =>
    have digits := run_le_length CodePoint.isDecimal t
    rw [fraction_cons, List.length_cons]
    split <;> (try split) <;> omega

theorem exponent_le_length (t : Text) : exponent t ≤ t.length := by
  match t with
  | [] => exact Nat.le_refl _
  | [c] => simp [exponent, run]
  | c :: d :: t =>
    have signed := run_le_length CodePoint.isDecimal t
    have plain := run_le_length CodePoint.isDecimal (d :: t)
    rw [List.length_cons] at plain
    rw [exponent_cons_cons, List.length_cons, List.length_cons]
    split <;> (try split) <;> (try split) <;> omega

theorem hexadecimal_le_length (t : Text) : hexadecimal t ≤ t.length := by
  match t with
  | [] => exact Nat.le_refl _
  | [c] => exact hexadecimal_singleton c ▸ Nat.zero_le _
  | c :: d :: t =>
    have digits := run_le_length CodePoint.isHexDigit t
    rw [hexadecimal_cons_cons, List.length_cons, List.length_cons]
    split <;> (try split) <;> omega

theorem decimal_le_length (t : Text) : decimal t ≤ t.length := by
  have digits := run_le_length CodePoint.isDecimal t
  have point := fraction_le_length (t.drop (run CodePoint.isDecimal t))
  have power := exponent_le_length
    (t.drop (run CodePoint.isDecimal t + fraction (t.drop (run CodePoint.isDecimal t))))
  rw [List.length_drop] at point power
  rw [decimal]
  dsimp only
  split <;> omega

theorem number_le_length (t : Text) : number t ≤ t.length := by
  rw [number]
  split
  · exact decimal_le_length t
  · exact hexadecimal_le_length t

theorem take_ne_nil {scan : Text → Nat} (empty : scan [] = 0) {t : Text} (found : scan t ≠ 0) :
    t.take (scan t) ≠ [] := by
  rw [ne_eq, List.take_eq_nil_iff, not_or]
  exact ⟨found, fun none => found (none ▸ empty)⟩

theorem isName_take {t : Text} (found : name t ≠ 0) : IsName (t.take (name t)) :=
  ⟨take_ne_nil rfl found, (whole_headed isNameStart isNamePart).take (name_le_length t)⟩

theorem isNumber_take {t : Text} (found : number t ≠ 0) : IsNumber (t.take (number t)) :=
  ⟨take_ne_nil rfl found, whole_number.take (number_le_length t)⟩

/-- The last code point up to the closing quote is the quote. -/
theorem getLast_quotedRest {quote : CodePoint} {acrossLines : Bool} {t : Text} {k : Nat}
    (h : quotedRest quote acrossLines t = some k) : (t.take k).getLast? = some quote := by
  fun_induction quotedRest quote acrossLines t generalizing k with
  | case1 => cases h
  | case2 =>
    cases h
    rfl
  | case3 => cases h
  | case4 d t =>
    cases h
    rfl
  | case5 => cases h
  | case6 d t other feed ih =>
    obtain ⟨j, found, rfl⟩ := Option.map_eq_some_iff.mp h
    have last := ih found
    rw [List.take_succ_cons, List.take_succ_cons, List.getLast?_cons, List.getLast?_cons, last]
    rfl
  | case7 => cases h
  | case8 c d t other backslash feed ih =>
    obtain ⟨j, found, rfl⟩ := Option.map_eq_some_iff.mp h
    rw [List.take_succ_cons, List.getLast?_cons, ih found]
    rfl

theorem isEnclosed_take {quote : CodePoint} {acrossLines : Bool} {t : Text}
    (known : quote ∈ quotes)
    (found : quoted quote acrossLines t ≠ 0) :
    IsEnclosed (t.take (quoted quote acrossLines t)) := by
  cases t with
  | nil => exact absurd rfl found
  | cons c t =>
    rw [quoted] at found ⊢
    split at found
    · rename_i opens
      cases read : quotedRest quote acrossLines t with
      | none => simp [read] at found
      | some k =>
        obtain ⟨inside, last⟩ := List.getLast?_eq_some_iff.mp (getLast_quotedRest read)
        refine ⟨quote, known, inside, ?_⟩
        rw [if_pos opens, opens, Option.map_some, Option.getD_some, List.take_succ_cons, last]
    · exact absurd rfl found

theorem isEnclosed_string {t : Text} (found : string t ≠ 0) : IsEnclosed (t.take (string t)) := by
  cases t with
  | nil => exact absurd rfl found
  | cons c t =>
    rw [string_cons] at found ⊢
    split at found
    · rename_i opens
      rw [if_pos opens]
      refine isEnclosed_take ?_ found
      rcases opens with rfl | rfl <;> simp [quotes]
    · exact absurd rfl found

end Scan

end Hyperscript.Grammar
