import Hyperscript.Proofs.Spelling
import Hyperscript.Tree.Printer

/-!
# The tokens of strings

Which texts are string tokens is a matter of their own: between two equal quotes stand code points
other than the quote, the backslash and a line feed, and pairs of a backslash and any code point but
a line feed. The scanner finds exactly these, so a text starts with one of them at most. What is
printed for a string is such a token, whatever stands behind it, and its escapes are read back as
the string.
-/
namespace Hyperscript

namespace Grammar.Scan

/-- What may stand between two quotes of a string. -/
inductive Quotable (quote : CodePoint) : Text → Prop
  | nil : Quotable quote []
  | plain {c : CodePoint} {t : Text} : c ≠ quote → c ≠ '\\' → c ≠ '\n' → Quotable quote t →
      Quotable quote (c :: t)
  | escaped {c : CodePoint} {t : Text} : c ≠ '\n' → Quotable quote t →
      Quotable quote (CodePoint.ofChar '\\' :: c :: t)

/-- The texts that are one string. -/
inductive IsStringToken : Text → Prop
  | intro {quote : CodePoint} {inside : Text} : quote = '"' ∨ quote = '\'' →
      Quotable quote inside → IsStringToken (quote :: (inside ++ [quote]))

section Quotes

variable {quote : CodePoint} {inside : Text}

theorem ne_backslash_of_isQuote (opens : quote = '"' ∨ quote = '\'') :
    CodePoint.ofChar '\\' ≠ quote := by
  rcases opens with rfl | rfl <;> decide

theorem ne_feed_of_isQuote (opens : quote = '"' ∨ quote = '\'') :
    CodePoint.ofChar '\n' ≠ quote := by
  rcases opens with rfl | rfl <;> decide

theorem Quotable.feed_notMem (h : Quotable quote inside) : CodePoint.ofChar '\n' ∉ inside := by
  induction h with
  | nil => exact List.not_mem_nil
  | plain _ _ feed _ ih => exact List.not_mem_cons_of_ne_of_not_mem feed.symm ih
  | escaped feed _ ih =>
    apply List.not_mem_cons_of_ne_of_not_mem
    · decide
    · exact List.not_mem_cons_of_ne_of_not_mem feed.symm ih

/-- What is quotable is skipped, and the quote behind it is found. -/
theorem quotedRest_of_quotable (backslash : CodePoint.ofChar '\\' ≠ quote)
    (h : Quotable quote inside) (rest : Text) :
    quotedRest quote false (inside ++ quote :: rest) = some (inside.length + 1) := by
  induction h with
  | nil => cases rest <;> simp [quotedRest]
  | @plain c t other escape feed _ ih =>
    rw [List.cons_append, quotedRest_cons other escape feed (by simp), ih]
    rfl
  | @escaped c t feed _ ih =>
    have skips : quotedRest quote false (CodePoint.ofChar '\\' :: c :: (t ++ quote :: rest)) =
        (quotedRest quote false (t ++ quote :: rest)).map (· + 2) := by
      simp [quotedRest, backslash, feed]
    rw [List.cons_append, List.cons_append, skips, ih]
    rfl

/-- What has been skipped up to a quote is quotable. -/
theorem quotable_of_quotedRest {t : Text} {k : Nat} (found : quotedRest quote false t = some k) :
    ∃ inside rest, t = inside ++ quote :: rest ∧ k = inside.length + 1 ∧ Quotable quote inside := by
  -- the cases are the branches of the scanner, the odd ones those that find nothing
  fun_induction quotedRest quote false t generalizing k with
  | case1 => cases found
  | case2 =>
    cases found
    exact ⟨[], [], rfl, rfl, .nil⟩
  | case3 => cases found
  | case4 d t =>
    cases found
    exact ⟨[], d :: t, rfl, rfl, .nil⟩
  | case5 => cases found
  | case6 d t feed other ih =>
    obtain ⟨j, read, rfl⟩ := Option.map_eq_some_iff.mp found
    obtain ⟨inside, rest, rfl, rfl, quotable⟩ := ih read
    have visible : d ≠ '\n' := by simpa using feed
    exact ⟨CodePoint.ofChar '\\' :: d :: inside, rest, rfl, rfl, .escaped visible quotable⟩
  | case7 => cases found
  | case8 c d t other backslash feed ih =>
    obtain ⟨j, read, rfl⟩ := Option.map_eq_some_iff.mp found
    obtain ⟨inside, rest, same, rfl, quotable⟩ := ih read
    have visible : c ≠ '\n' := by simpa using feed
    refine ⟨c :: inside, rest, ?_, rfl, .plain other backslash visible quotable⟩
    rw [same]
    rfl

end Quotes

theorem IsStringToken.feed_notMem {token : Text} (h : IsStringToken token) :
    CodePoint.ofChar '\n' ∉ token := by
  obtain ⟨opens, quotable⟩ := h
  have feed := ne_feed_of_isQuote opens
  apply List.not_mem_cons_of_ne_of_not_mem feed
  intro member
  rcases List.mem_append.mp member with inside | last
  · exact quotable.feed_notMem inside
  · exact feed (List.mem_singleton.mp last)

/-- A string token is found whatever stands behind it. -/
theorem string_of_isStringToken {token : Text} (h : IsStringToken token) (rest : Text) :
    string (token ++ rest) = token.length := by
  obtain ⟨opens, quotable⟩ := h
  have found := quotedRest_of_quotable (ne_backslash_of_isQuote opens) quotable rest
  rw [List.cons_append, List.append_assoc, string_cons, if_pos opens, quoted, if_pos rfl,
    List.singleton_append, found]
  simp

/-- What is found is a string token. -/
theorem isStringToken_of_string {t : Text} (found : string t ≠ 0) :
    ∃ token rest, t = token ++ rest ∧ string t = token.length ∧ IsStringToken token := by
  cases t with
  | nil => exact absurd rfl found
  | cons quote t =>
    by_cases opens : quote = '"' ∨ quote = '\''
    · have length : string (quote :: t) = ((quotedRest quote false t).map (· + 1)).getD 0 := by
        rw [string_cons, if_pos opens, quoted, if_pos rfl]
      cases read : quotedRest quote false t with
      | none =>
        rw [length, read] at found
        exact absurd rfl found
      | some k =>
        obtain ⟨inside, rest, rfl, rfl, quotable⟩ := quotable_of_quotedRest read
        refine ⟨quote :: (inside ++ [quote]), rest, by simp, ?_, .intro opens quotable⟩
        rw [length, read]
        simp
    · rw [string_cons, if_neg opens] at found
      exact absurd rfl found

/-- A text starts with one string token at most. -/
theorem IsStringToken.unique {token other t : Text} (h : IsStringToken token)
    (h' : IsStringToken other) (starts : token <+: t) (starts' : other <+: t) :
    token = other := by
  have length : token.length = other.length := by
    obtain ⟨rest, rfl⟩ := starts
    obtain ⟨rest', same⟩ := starts'
    rw [← string_of_isStringToken h rest, ← same, string_of_isStringToken h' rest']
  have le : token <+: other :=
    List.prefix_of_prefix_length_le starts starts' (Nat.le_of_eq length)
  exact le.eq_of_length length

/-- The texts that are found as a whole, whatever stands behind them, are the string tokens. -/
theorem isString_iff {t : Text} : IsString t ↔ IsStringToken t := by
  constructor
  · rintro ⟨nonempty, finds⟩
    have whole : string t = t.length := by simpa using finds []
    have found : string t ≠ 0 := by
      rw [whole]
      exact fun none => nonempty (List.eq_nil_of_length_eq_zero none)
    obtain ⟨token, rest, rfl, length, isToken⟩ := isStringToken_of_string found
    have last : rest = [] := by
      rw [whole, List.length_append] at length
      exact List.eq_nil_of_length_eq_zero (by omega)
    rwa [last, List.append_nil]
  · intro isToken
    refine ⟨?_, string_of_isStringToken isToken⟩
    rintro rfl
    cases isToken

/-- Outside markup text the lexer takes a string token for nothing else. -/
theorem first_of_isStringToken {token : Text} (h : IsStringToken token)
    {usable : Terminal → Bool} (use : usable .string = true) (code : usable .jsxText = false)
    (rest : Text) : Lexeme.first usable (token ++ rest) = .token .string token.length := by
  have scanned := string_of_isStringToken h rest
  cases h with
  | @intro quote inside opens quotable =>
    rw [List.cons_append] at scanned ⊢
    generalize inside ++ [quote] ++ rest = more at scanned ⊢
    have number : number (quote :: more) = 0 := by
      apply number_of_not_decimal
      rcases opens with rfl | rfl <;> decide
    have blank : space (quote :: more) = 0 := by
      rw [space_cons]
      rcases opens with rfl | rfl <;> rfl
    have comment : comment (quote :: more) = 0 := by
      apply comment_of_ne
      rcases opens with rfl | rfl <;> decide
    rw [first_of_visible blank comment]
    simp [Lexeme.ofClass, classes, code, use, number, scanned, Terminal.ofName]

end Grammar.Scan

namespace Node

open Grammar.Scan

/-- What is printed for a string without a spelling stays on one line, is the one string token at
the start of every text that it starts, and stands for the string. -/
theorem print_unspelled_string (s rest : Text) (place : Place) :
    ∃ q : Text, (∀ pretty depth, print pretty depth ⟨place, .string s none⟩ = .ok q) ∧
      CodePoint.ofChar '\n' ∉ q ∧
      IsStringToken q ∧ (∀ token, IsStringToken token → token <+: q ++ rest → token = q) ∧
      string (q ++ rest) = q.length ∧
      (∀ usable : Grammar.Terminal → Bool, usable .string = true → usable .jsxText = false →
        Grammar.Lexeme.first usable (q ++ rest) = .token .string q.length) ∧
      Text.unescape q = .ok s := by
  have isToken : IsStringToken s.quote := isString_iff.mp (isString_quote s)
  have printed : ∀ pretty depth, print pretty depth ⟨place, .string s none⟩ = .ok s.quote := by
    intro pretty depth
    simp only [print]
    rfl
  refine ⟨s.quote, printed, isToken.feed_notMem, isToken, ?_, ?_, ?_, Text.unescape_quote s⟩
  · intro token other starts
    exact other.unique isToken starts (List.prefix_append _ _)
  · exact string_of_isStringToken isToken rest
  · intro usable use code
    exact first_of_isStringToken isToken use code rest

/-- A backslash in front of a letter would be read as an escape, a surrogate stands for itself. -/
example : Text.quote (Text.ofString "\\u\n'" ++ [0xd800]) =
    Text.ofString "\"\\\\u\\n'" ++ [0xd800] ++ Text.ofString "\"" := by decide +kernel

end Node

end Hyperscript
