import Hyperscript.Grammar.Token
import Hyperscript.Text.Quoted

/-!
# Quoted text is read back

The writer of string literals and their reader agree: the lexer finds the whole of a quoted text
and nothing more, whatever stands behind it, and the reader of escapes gives the text back.
-/
namespace Hyperscript

namespace Text

/-- What the writer makes of a code point: a short escape, a numbered one, or the code point
itself. -/
inductive Escaped : CodePoint → Text → Prop
  | short (d : CodePoint) : d ≠ '\n' → d ≠ '\r' → d ≠ 'u' → d ≠ 'x' →
      Escaped (simpleEscape d) [CodePoint.ofChar '\\', d]
  | numbered (c : CodePoint) (e f : CodePoint) : e.isHexDigit = true → f.isHexDigit = true →
      hexNumber [CodePoint.ofChar '0', CodePoint.ofChar '0', e, f] = c.val →
      Escaped c [CodePoint.ofChar '\\', CodePoint.ofChar 'u', CodePoint.ofChar '0',
        CodePoint.ofChar '0', e, f]
  | plain (c : CodePoint) : c ≠ '"' → c ≠ '\\' → c ≠ '\n' → Escaped c [c]

theorem escaped_escape (c : CodePoint) : Escaped c (escape c) := by
  rw [escape]
  split
  · rename_i h; subst h
    exact .short '"' (by decide) (by decide) (by decide) (by decide)
  split
  · rename_i h; subst h
    exact .short '\\' (by decide) (by decide) (by decide) (by decide)
  split
  · rename_i h; subst h
    exact .short 'n' (by decide) (by decide) (by decide) (by decide)
  split
  · rename_i h; subst h
    exact .short 'r' (by decide) (by decide) (by decide) (by decide)
  split
  · rename_i h; subst h
    exact .short 't' (by decide) (by decide) (by decide) (by decide)
  split
  · rename_i h; subst h
    exact .short 'b' (by decide) (by decide) (by decide) (by decide)
  split
  · rename_i h; subst h
    exact .short 'f' (by decide) (by decide) (by decide) (by decide)
  split
  · rename_i small
    have digits : ∀ n < 32, (hexDigit (n / 16)).isHexDigit = true ∧
        (hexDigit n).isHexDigit = true ∧ hexNumber [CodePoint.ofChar '0', CodePoint.ofChar '0',
          hexDigit (n / 16), hexDigit n] = n := by
      decide +kernel
    obtain ⟨first, second, value⟩ := digits c.val small
    exact .numbered c _ _ first second value
  · rename_i quote backslash feed _ _ _ _ _
    exact .plain c quote backslash feed

theorem escapeAt_short {d : CodePoint} (rest : Text) (feed : d ≠ '\n') (carriage : d ≠ '\r')
    (u : d ≠ 'u') (x : d ≠ 'x') :
    escapeAt (d :: rest) = some (.literal (simpleEscape d), 1) := by
  simp [escapeAt, feed, carriage, u, x]

theorem escapeAt_numbered {c e f : CodePoint} (rest : Text) (first : e.isHexDigit = true)
    (second : f.isHexDigit = true)
    (value : hexNumber [CodePoint.ofChar '0', CodePoint.ofChar '0', e, f] = c.val) :
    escapeAt (CodePoint.ofChar 'u' :: CodePoint.ofChar '0' :: CodePoint.ofChar '0' :: e :: f ::
      rest) = some (.number c.val, 5) := by
  have zero : (CodePoint.ofChar '0').isHexDigit = true := by decide
  have brace : CodePoint.ofChar '0' ≠ CodePoint.ofChar '\x7b' := by decide
  have four : hexOfLength 4 (CodePoint.ofChar '0' :: CodePoint.ofChar '0' :: e :: f :: rest) =
      some c.val := by
    simp [hexOfLength, zero, first, second, value]
  simp only [escapeAt, List.head?_cons, Option.some.injEq, brace, four, if_true, if_false]

/-- The reader undoes the writer, one code point at a time. -/
theorem unescapeFrom_escaped {c : CodePoint} {t : Text} (h : Escaped c t) (rest : Text) :
    unescapeFrom 0 (t ++ rest) = (unescapeFrom 0 rest).map (c :: ·) := by
  cases h with
  | short d feed carriage u x =>
    simp only [List.cons_append, List.nil_append, unescapeFrom, if_true,
      escapeAt_short rest feed carriage u x, Escape.value]
    cases unescapeFrom 0 rest <;> rfl
  | numbered c e f first second value =>
    have point : CodePoint.ofNat c.val = .ok c := by simp [CodePoint.ofNat]
    simp only [List.cons_append, List.nil_append, unescapeFrom, if_true,
      escapeAt_numbered rest first second value, Escape.value, point]
    cases unescapeFrom 0 rest <;> rfl
  | plain c _ backslash _ =>
    simp only [List.cons_append, List.nil_append, unescapeFrom, if_neg backslash]

theorem unescapeFrom_flatMap_escape (v : Text) : unescapeFrom 0 (v.flatMap escape) = .ok v := by
  induction v with
  | nil => rfl
  | cons c v ih =>
    rw [List.flatMap_cons, unescapeFrom_escaped (escaped_escape c), ih]
    rfl

/-- A quoted text stands for the text that was quoted. -/
theorem unescape_quote (v : Text) : unescape v.quote = .ok v := by
  have inside : v.quote.inner = v.flatMap escape := by
    simp [quote, inner, ofString]
  rw [unescape, inside, unescapeFrom_flatMap_escape]

end Text

namespace Grammar.Scan

open Text

theorem quotedRest_cons {quote c : CodePoint} {t : Text} (other : c ≠ quote) (backslash : c ≠ '\\')
    (feed : c ≠ '\n') (more : t ≠ []) :
    quotedRest quote false (c :: t) = (quotedRest quote false t).map (· + 1) := by
  cases t with
  | nil => exact absurd rfl more
  | cons d t => simp [quotedRest, other, backslash, feed]

theorem isHexDigit_plain {c : CodePoint} (h : c.isHexDigit = true) :
    c ≠ '"' ∧ c ≠ '\\' ∧ c ≠ '\n' := by
  refine ⟨?_, ?_, ?_⟩ <;> rintro rfl <;> exact absurd h (by decide)

/-- An escaped code point never ends a quoted text. -/
theorem quotedRest_escaped {c : CodePoint} {t rest : Text} (h : Escaped c t) (more : rest ≠ []) :
    quotedRest '"' false (t ++ rest) = (quotedRest '"' false rest).map (· + t.length) := by
  have protects : ∀ (d : CodePoint) (u : Text), d ≠ '\n' →
      quotedRest '"' false (CodePoint.ofChar '\\' :: d :: u) =
        (quotedRest '"' false u).map (· + 2) := by
    intro d u feed
    have quote : CodePoint.ofChar '\\' ≠ CodePoint.ofChar '"' := by decide
    simp [quotedRest, quote, feed]
  cases h with
  | short d feed _ _ _ => exact protects d rest feed
  | numbered c e f first second _ =>
    obtain ⟨quote, backslash, feed⟩ := isHexDigit_plain first
    obtain ⟨quote', backslash', feed'⟩ := isHexDigit_plain second
    have zero : ∀ u : Text, u ≠ [] → quotedRest '"' false (CodePoint.ofChar '0' :: u) =
        (quotedRest '"' false u).map (· + 1) := fun u =>
      quotedRest_cons (by decide) (by decide) (by decide)
    simp only [List.cons_append, List.nil_append]
    rw [protects _ _ (by decide), zero _ (List.cons_ne_nil _ _), zero _ (List.cons_ne_nil _ _),
      quotedRest_cons quote backslash feed (List.cons_ne_nil _ _),
      quotedRest_cons quote' backslash' feed' more]
    simp [Option.map_map, Function.comp_def, Nat.add_assoc]
  | plain c quote backslash feed => exact quotedRest_cons quote backslash feed more

theorem quotedRest_flatMap_escape (v rest : Text) :
    quotedRest '"' false (v.flatMap escape ++ (CodePoint.ofChar '"' :: rest)) =
      some ((v.flatMap escape).length + 1) := by
  induction v with
  | nil => cases rest <;> simp [quotedRest]
  | cons c v ih =>
    rw [List.flatMap_cons, List.append_assoc, quotedRest_escaped (escaped_escape c) (by simp), ih,
      List.length_append, Option.map_some]
    exact congrArg some (by omega)

/-- The lexer finds the whole of a quoted text, whatever stands behind it. -/
theorem string_quote (v rest : Text) : string (v.quote ++ rest) = v.quote.length := by
  have split : v.quote ++ rest =
      CodePoint.ofChar '"' :: (v.flatMap escape ++ (CodePoint.ofChar '"' :: rest)) := by
    simp [quote, ofString]
  have other : CodePoint.ofChar '"' ≠ CodePoint.ofChar '\'' := by decide
  rw [split, string, quoted, quoted, if_pos rfl, if_neg other, quotedRest_flatMap_escape]
  simp [quote, ofString]

/-- The text is a string: the lexer finds the whole of it, whatever stands behind it. -/
def IsString (t : Text) : Prop := t ≠ [] ∧ ∀ rest, string (t ++ rest) = t.length

theorem isString_quote (v : Text) : IsString v.quote :=
  ⟨by simp [quote, ofString], string_quote v⟩

/-- What was read up to a quote is read again, whatever stands behind it. -/
theorem quotedRest_take {quote : CodePoint} {acrossLines : Bool} {t : Text} {k : Nat}
    (h : quotedRest quote acrossLines t = some k) (rest : Text) :
    quotedRest quote acrossLines (t.take k ++ rest) = some k ∧ k ≤ t.length := by
  fun_induction quotedRest quote acrossLines t generalizing k with
  | case1 => cases h
  | case2 =>
    cases h
    cases rest <;> simp [quotedRest]
  | case3 => cases h
  | case4 d t =>
    cases h
    cases rest <;> simp [quotedRest]
  | case5 => cases h
  | case6 d t other feed ih =>
    obtain ⟨j, found, rfl⟩ := Option.map_eq_some_iff.mp h
    obtain ⟨again, short⟩ := ih found
    simp_all [quotedRest]
  | case7 => cases h
  | case8 c d t other backslash feed ih =>
    obtain ⟨j, found, rfl⟩ := Option.map_eq_some_iff.mp h
    obtain ⟨again, short⟩ := ih found
    refine ⟨?_, Nat.succ_le_succ short⟩
    rw [List.take_succ_cons, List.cons_append]
    generalize (d :: t).take j ++ rest = left at again
    cases left with
    | nil => cases again
    | cons e left => simp [quotedRest, other, backslash, feed, again]

theorem quoted_take {quote : CodePoint} {acrossLines : Bool} {t : Text}
    (found : quoted quote acrossLines t ≠ 0) (rest : Text) :
    quoted quote acrossLines (t.take (quoted quote acrossLines t) ++ rest) =
        quoted quote acrossLines t ∧ quoted quote acrossLines t ≤ t.length := by
  cases t with
  | nil => exact absurd rfl found
  | cons c t =>
    rw [quoted] at found ⊢
    split
    · rename_i opens
      rw [if_pos opens] at found
      cases read : quotedRest quote acrossLines t with
      | none => simp [read] at found
      | some k =>
        obtain ⟨again, short⟩ := quotedRest_take read rest
        simp [quoted, opens, again, short]
    · rename_i other
      exact absurd (if_neg other) found

/-- The first code point decides which quote ends a string. -/
theorem string_cons (c : CodePoint) (t : Text) :
    string (c :: t) = if c = '"' ∨ c = '\'' then quoted c false (c :: t) else 0 := by
  by_cases double : c = '"'
  · subst double
    rfl
  · by_cases single : c = '\''
    · subst single
      simp [string, quoted, double]
    · simp [string, quoted, double, single]

/-- What the lexer finds for a string is a string. -/
theorem isString_take {t : Text} (found : string t ≠ 0) : IsString (t.take (string t)) := by
  cases t with
  | nil => exact absurd rfl found
  | cons c t =>
    rw [string_cons] at found ⊢
    split
    · rename_i opens
      rw [if_pos opens] at found
      have again := quoted_take found
      obtain ⟨k, length⟩ := Nat.exists_eq_succ_of_ne_zero found
      refine ⟨by simp [length], ?_⟩
      intro rest
      obtain ⟨same, short⟩ := again rest
      rw [List.length_take, Nat.min_eq_left short]
      rw [length, List.take_succ_cons, List.cons_append] at same ⊢
      rw [string_cons, if_pos opens, same]
    · rename_i other
      exact absurd (if_neg other) found

end Grammar.Scan

end Hyperscript
