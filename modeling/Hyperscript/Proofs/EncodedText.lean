import Hyperscript.Proofs.FreshName
import Hyperscript.Text.Reference
import Mathlib.Data.List.Forall2
import Mathlib.Data.List.TakeWhile

/-!
# Encoded text is decoded once

What a reference denotes goes to the result and is not read again, and the text in front of a
reference or behind it takes no part in its meaning. So a text comes back from every encoding of
it: ampersands are replaced, other code points may be, each by any of its references. Of the
meaning of one reference only this is used, that a reference to a code point denotes the code
point; the program's own meaning refuses decimal numbers of too many digits.
-/
namespace Hyperscript.Text

/-- What can stand between the ampersand and the semicolon of a reference, with what it denotes. -/
inductive Denotes : Text → Except LiteralError Text → Prop
  | hexadecimal {mark : CodePoint} {digits : Text} : mark = 'x' ∨ mark = 'X' → digits ≠ [] →
      (∀ d ∈ digits, d.isHexDigit = true) →
      Denotes (CodePoint.ofChar '#' :: mark :: digits) (.ok (numericReference (hexNumber digits)))
  | decimal {digits : Text} : digits ≠ [] → (∀ d ∈ digits, d.isDigit = true) →
      Denotes (CodePoint.ofChar '#' :: digits)
        (if digitLimit < digits.length then .error (.digits digits.length)
        else .ok (numericReference (decimalNumber digits)))
  | named {first : CodePoint} {rest : Text} : first.isLetter = true →
      (∀ c ∈ rest, (c.isLetter || c.isDigit) = true) →
      Denotes (first :: rest) (.ok (namedReference (first :: rest)))

section Matching

variable {p : CodePoint → Bool} {mark : CodePoint} {t body rest digits : Text}
  {found : Except LiteralError Text} {width : Nat}

/-- Nothing but the run stands before the semicolon. -/
theorem takeWhile_closed (all : ∀ d ∈ digits, p d = true) (stop : p ';' = false) (rest : Text) :
    (digits ++ CodePoint.ofChar ';' :: rest).takeWhile p = digits := by
  rw [List.takeWhile_append_of_pos all, List.takeWhile_cons_of_neg (by simp [stop]),
    List.append_nil]

/-- A run that a semicolon follows is cut out of the text. -/
theorem exists_closed (closed : (t[(t.takeWhile p).length]? == some (CodePoint.ofChar ';')) = true) :
    ∃ run rest, t = run ++ CodePoint.ofChar ';' :: rest ∧ t.takeWhile p = run ∧
      ∀ d ∈ run, p d = true := by
  obtain ⟨inside, mark⟩ := List.getElem?_eq_some_iff.mp (beq_iff_eq.mp closed)
  refine ⟨t.takeWhile p, t.drop ((t.takeWhile p).length + 1), ?_, rfl,
    fun _ => List.mem_takeWhile_imp⟩
  rw [← mark, List.getElem_cons_drop inside,
    List.prefix_iff_eq_append.mp (List.takeWhile_prefix p)]

theorem referenceAt_of_denotes (h : Denotes body found) (rest : Text) :
    referenceAt (body ++ CodePoint.ofChar ';' :: rest) = some (found, body.length + 1) := by
  cases h with
  | @hexadecimal mark digits opens nonempty hex =>
    have run := takeWhile_closed hex (by decide) rest
    rcases opens with rfl | rfl <;> simp [referenceAt, run, nonempty]
  | @decimal digits nonempty decimal =>
    have run := takeWhile_closed decimal (by decide) rest
    obtain ⟨d, more, rfl⟩ := List.exists_cons_of_ne_nil nonempty
    have digit := decimal d List.mem_cons_self
    have small : d ≠ CodePoint.ofChar 'x' := by rintro rfl; cases digit
    have large : d ≠ CodePoint.ofChar 'X' := by rintro rfl; cases digit
    rw [List.cons_append] at run
    by_cases long : digitLimit < more.length + 1 <;>
      simp [referenceAt, small, large, run, long]
  | @named first name letter part =>
    have parts : ∀ c ∈ first :: name, (c.isLetter || c.isDigit) = true := by
      simpa [letter] using part
    have run := takeWhile_closed (p := fun c => c.isLetter || c.isDigit) parts (by decide) rest
    have hash : first ≠ CodePoint.ofChar '#' := by rintro rfl; cases letter
    rw [List.cons_append] at run
    simp [referenceAt, hash, run, letter]

/-- The text starts with a reference without its ampersand, which denotes the one and has the other
as its width up to the semicolon. -/
inductive StartsWith : Text → Except LiteralError Text → Nat → Prop
  | intro {body : Text} {found : Except LiteralError Text} (h : Denotes body found) (rest : Text) :
      StartsWith (body ++ CodePoint.ofChar ';' :: rest) found (body.length + 1)

theorem startsWith_hexadecimal (opens : mark = 'x' ∨ mark = 'X')
    (h : referenceAt (CodePoint.ofChar '#' :: mark :: t) = some (found, width)) :
    StartsWith (CodePoint.ofChar '#' :: mark :: t) found width := by
  simp only [referenceAt] at h
  rw [if_pos List.head?_cons] at h
  split at h
  case isFalse bare => exact absurd opens (by simpa using bare)
  simp only [List.drop_succ_cons, List.drop_zero, List.getElem?_cons_succ,
    Option.ite_none_right_eq_some, Bool.and_eq_true] at h
  obtain ⟨⟨nonempty, closed⟩, h⟩ := h
  obtain ⟨digits, rest, rfl, run, hex⟩ := exists_closed closed
  rw [run] at h nonempty
  cases h
  exact .intro (.hexadecimal opens (by simpa using nonempty) hex) rest

theorem startsWith_decimal (bare : ∀ mark, t.head? = some mark → ¬(mark = 'x' ∨ mark = 'X'))
    (h : referenceAt (CodePoint.ofChar '#' :: t) = some (found, width)) :
    StartsWith (CodePoint.ofChar '#' :: t) found width := by
  simp only [referenceAt] at h
  rw [if_pos List.head?_cons] at h
  split at h
  case isTrue opens =>
    rcases (Bool.or_eq_true _ _).mp opens with first | first
    · exact absurd (.inl rfl) (bare _ (of_decide_eq_true first))
    · exact absurd (.inr rfl) (bare _ (of_decide_eq_true first))
  simp only [List.tail_cons, List.getElem?_cons_succ, Option.ite_none_right_eq_some,
    Bool.and_eq_true] at h
  obtain ⟨⟨nonempty, closed⟩, h⟩ := h
  obtain ⟨digits, rest, rfl, run, decimal⟩ := exists_closed closed
  have read := StartsWith.intro (.decimal (by simpa [run] using nonempty) decimal) rest
  simp only [run] at h
  split at h
  case isTrue long =>
    cases h
    rwa [if_pos long] at read
  case isFalse short =>
    cases h
    rwa [if_neg short] at read

theorem startsWith_named (bare : t.head? ≠ some (CodePoint.ofChar '#'))
    (h : referenceAt t = some (found, width)) : StartsWith t found width := by
  simp only [referenceAt, if_neg bare, Option.ite_none_right_eq_some, Bool.and_eq_true] at h
  obtain ⟨⟨letter, closed⟩, h⟩ := h
  obtain ⟨name, rest, rfl, run, part⟩ := exists_closed closed
  rw [run] at h letter
  cases h
  cases name with
  | nil => cases letter
  | cons first name => exact .intro (.named letter fun c inside => part c (.tail _ inside)) rest

/-- What is found after an ampersand reaches up to a semicolon, and the text behind the semicolon
takes no part in it. -/
theorem referenceAt_eq_some_iff :
    referenceAt t = some (found, width) ↔ StartsWith t found width := by
  constructor
  · intro h
    by_cases hash : t.head? = some (CodePoint.ofChar '#')
    · obtain ⟨more, rfl⟩ := List.head?_eq_some_iff.mp hash
      by_cases opens : ∃ mark, more.head? = some mark ∧ (mark = 'x' ∨ mark = 'X')
      · obtain ⟨mark, first, opens⟩ := opens
        obtain ⟨tail, rfl⟩ := List.head?_eq_some_iff.mp first
        exact startsWith_hexadecimal opens h
      · exact startsWith_decimal (fun mark first both => opens ⟨mark, first, both⟩) h
    · exact startsWith_named hash h
  · rintro ⟨h, rest⟩
    exact referenceAt_of_denotes h rest

theorem take_closed (body rest : Text) :
    (body ++ CodePoint.ofChar ';' :: rest).take (body.length + 1) =
      body ++ [CodePoint.ofChar ';'] := by
  rw [List.append_cons]
  exact List.take_left' (List.length_append ..)

/-- A reference is the same reference when the text behind it is cut off. -/
theorem referenceAt_take (h : referenceAt t = some (found, width)) :
    referenceAt (t.take width) = some (found, width) := by
  obtain ⟨denotes, rest⟩ := referenceAt_eq_some_iff.mp h
  rw [take_closed, referenceAt_of_denotes denotes]

end Matching

/-! ## Any meaning of a single reference -/

/-- The replacement of references for any meaning of a reference, which goes from the ampersand to
the semicolon. -/
def replaceReferencesFrom (meaning : Text → Except LiteralError Text) :
    Nat → Text → Except LiteralError Text
  | _, [] => .ok []
  | skip + 1, _ :: rest => replaceReferencesFrom meaning skip rest
  | 0, c :: rest =>
    match (if c = '&' then referenceAt rest else none) with
    | none => (replaceReferencesFrom meaning 0 rest).map (c :: ·)
    | some (_, width) => do
      let head ← meaning (c :: rest.take width)
      let tail ← replaceReferencesFrom meaning width rest
      return head ++ tail

def replaceReferences (meaning : Text → Except LiteralError Text) (t : Text) :
    Except LiteralError Text := replaceReferencesFrom meaning 0 t

/-- What a reference denotes in the decoder. -/
def ownMeaning (reference : Text) : Except LiteralError Text :=
  match referenceAt reference.tail with
  | some (found, _) => found
  | none => .ok reference

theorem decodeReferencesFrom_eq (skip : Nat) (t : Text) :
    decodeReferencesFrom skip t = replaceReferencesFrom ownMeaning skip t := by
  induction t generalizing skip with
  | nil => cases skip <;> rfl
  | cons c rest ih =>
    cases skip with
    | succ skip => exact ih skip
    | zero =>
      rw [decodeReferencesFrom, replaceReferencesFrom]
      cases reference : if c = '&' then referenceAt rest else none with
      | none => simp only [ih]
      | some found =>
        obtain ⟨found, width⟩ := found
        obtain ⟨-, read⟩ := Option.ite_none_right_eq_some.mp reference
        have same : ownMeaning (c :: rest.take width) = found := by
          rw [ownMeaning, List.tail_cons, referenceAt_take read]
        simp only [ih, same]

section Steps

variable {meaning : Text → Except LiteralError Text} {c : CodePoint} {body : Text}
  {found : Except LiteralError Text}

theorem replaceReferences_plain (plain : c ≠ '&') (rest : Text) :
    replaceReferences meaning (c :: rest) = (replaceReferences meaning rest).map (c :: ·) := by
  simp [replaceReferences, replaceReferencesFrom, plain]

/-- Skipping a reference leaves what stands behind its semicolon. -/
theorem replaceReferencesFrom_closed (body rest : Text) :
    replaceReferencesFrom meaning (body.length + 1) (body ++ CodePoint.ofChar ';' :: rest) =
      replaceReferences meaning rest := by
  induction body with
  | nil => rfl
  | cons c body ih => exact ih

/-- A reference gives what it denotes, whatever stands behind it. -/
theorem replaceReferences_reference (h : Denotes body found) (rest : Text) :
    replaceReferences meaning (CodePoint.ofChar '&' :: body ++ CodePoint.ofChar ';' :: rest) = (do
      let head ← meaning (CodePoint.ofChar '&' :: body ++ [CodePoint.ofChar ';'])
      let tail ← replaceReferences meaning rest
      return head ++ tail) := by
  rw [List.cons_append, replaceReferences, replaceReferencesFrom, if_pos rfl,
    referenceAt_of_denotes h]
  simp only [take_closed, replaceReferencesFrom_closed, List.cons_append]

end Steps

/-! ## Encodings -/

/-- The code points that a numeric reference can stand for: not the zero, no control code but tab
and the line ends, no surrogate, and none of the code points that are no characters. -/
def isReferable (c : CodePoint) : Bool :=
  !c.within [(0x0, 0x8), (0xb, 0xb), (0xe, 0x1f), (0x7f, 0x9f), (0xd800, 0xdfff), (0xfdd0, 0xfdef)]
    && c.val % 0x10000 < 0xfffe

theorem numericReference_of_isReferable {c : CodePoint} (h : isReferable c = true) :
    numericReference c.val = [c] := by
  simp only [isReferable, CodePoint.within, List.any_cons, List.any_nil, Bool.and_eq_true,
    Bool.not_eq_true', Bool.or_eq_false_iff, Bool.and_eq_false_iff, decide_eq_false_iff_not,
    decide_eq_true_eq] at h
  have replaced : ¬(c.val = 0 ∨ 0xd800 ≤ c.val ∧ c.val ≤ 0xdfff) := by omega
  have eightBit : ¬(0x80 ≤ c.val ∧ c.val ≤ 0x9f) := by omega
  have something : denotesNothing c.val = false := by
    simp only [denotesNothing, Bool.or_eq_false_iff, Bool.and_eq_false_iff, beq_eq_false_iff_ne,
      decide_eq_false_iff_not]
    omega
  rw [numericReference, dif_pos c.isLt, if_neg (by simpa using replaced),
    if_neg (by simpa using eightBit), if_neg (by simp [something])]

theorem ofString_inj {s t : String} : ofString s = ofString t ↔ s = t := by
  constructor
  · exact fun h => String.toList_injective (List.map_injective_iff.mpr CodePoint.ofChar_injective h)
  · exact congrArg ofString

theorem namedReference_amp : namedReference "amp" = [CodePoint.ofChar '&'] := by
  -- Strings are compared much faster than their lists of code points.
  have entry : (referenceNames.find? fun entry => entry.1 = "amp") = some ("amp", "&") := by
    decide +kernel
  have known : lookupName "amp" = some (ofString "&") := by
    simp only [lookupName, ofString_inj, entry, Option.map_some]
  rw [namedReference, known]
  rfl

/-- The references to a code point. -/
inductive StandsFor (c : CodePoint) : Text → Prop
  | ampersand : c = '&' → StandsFor c "&amp;"
  | decimal {digits : Text} : isReferable c = true → digits ≠ [] →
      (∀ d ∈ digits, d.isDigit = true) → decimalNumber digits = c.val →
      StandsFor c ("&#" ++ digits ++ ";")
  | hexadecimal {mark : CodePoint} {digits : Text} : isReferable c = true →
      mark = 'x' ∨ mark = 'X' → digits ≠ [] → (∀ d ∈ digits, d.isHexDigit = true) →
      hexNumber digits = c.val → StandsFor c ("&#" ++ mark :: digits ++ ";")

/-- What an encoding can have for a code point. The ampersand is always replaced. -/
inductive Spells (c : CodePoint) : Text → Prop
  | plain : c ≠ '&' → Spells c [c]
  | reference {piece : Text} : StandsFor c piece → Spells c piece

/-- Each reference to a code point denotes it. -/
def FollowsStandard (meaning : Text → Except LiteralError Text) : Prop :=
  ∀ (c : CodePoint) (reference : Text), StandsFor c reference → meaning reference = .ok [c]

/-- A decimal reference of more digits than are read. -/
def isOverlong (piece : Text) : Bool :=
  digitLimit + 3 < piece.length && piece[2]?.any CodePoint.isDigit

/-- What a reference denotes when all of its digits are read. -/
def fullMeaning (reference : Text) : Except LiteralError Text :=
  if isOverlong reference then .ok (numericReference (decimalNumber (reference.drop 2).dropLast))
  else ownMeaning reference

section Encoding

variable {meaning : Text → Except LiteralError Text} {c mark : CodePoint}
  {s piece digits : Text} {pieces : List Text}

theorem isOverlong_decimal (nonempty : digits ≠ []) (decimal : ∀ d ∈ digits, d.isDigit = true) :
    isOverlong ("&#" ++ digits ++ ";") = decide (digitLimit < digits.length) := by
  obtain ⟨d, more, rfl⟩ := List.exists_cons_of_ne_nil nonempty
  have first := decimal d List.mem_cons_self
  simp [isOverlong, ofString, first]

theorem isOverlong_hexadecimal (opens : mark = 'x' ∨ mark = 'X') (digits : Text) :
    isOverlong ("&#" ++ mark :: digits ++ ";") = false := by
  rcases opens with rfl | rfl <;> exact Bool.and_eq_false_imp.mpr fun _ => rfl

theorem StandsFor.denotes (h : StandsFor c piece) :
    ∃ body, piece = CodePoint.ofChar '&' :: body ++ [CodePoint.ofChar ';'] ∧
      Denotes body (if isOverlong piece then .error (.digits (piece.length - 3)) else .ok [c]) := by
  cases h with
  | ampersand h =>
    subst h
    exact ⟨"amp", rfl, namedReference_amp ▸ .named rfl (List.all_eq_true.mp rfl)⟩
  | @decimal digits referable nonempty decimal value =>
    have read := Denotes.decimal nonempty decimal
    rw [value, numericReference_of_isReferable referable] at read
    refine ⟨CodePoint.ofChar '#' :: digits, rfl, ?_⟩
    rw [isOverlong_decimal nonempty decimal]
    simpa [ofString] using read
  | @hexadecimal mark digits referable opens nonempty hex value =>
    have read := Denotes.hexadecimal opens nonempty hex
    rw [value, numericReference_of_isReferable referable] at read
    refine ⟨CodePoint.ofChar '#' :: mark :: digits, rfl, ?_⟩
    rw [isOverlong_hexadecimal opens]
    exact read

theorem StandsFor.ownMeaning_eq (h : StandsFor c piece) :
    ownMeaning piece = if isOverlong piece then .error (.digits (piece.length - 3)) else .ok [c] := by
  obtain ⟨body, cut, read⟩ := h.denotes
  have found := referenceAt_of_denotes read []
  have tail : piece.tail = body ++ [CodePoint.ofChar ';'] := by rw [cut]; rfl
  rw [ownMeaning, tail, found]

theorem followsStandard_fullMeaning : FollowsStandard fullMeaning := by
  intro c piece h
  by_cases long : isOverlong piece = true
  · rw [fullMeaning, if_pos long]
    cases h with
    | ampersand => cases long
    | @decimal digits referable nonempty decimal value =>
      have inside : (("&#" ++ digits ++ ";" : Text).drop 2).dropLast = digits := by
        simp [ofString]
      rw [inside, value, numericReference_of_isReferable referable]
    | hexadecimal referable opens nonempty hex value =>
      rw [isOverlong_hexadecimal opens] at long
      cases long
  · rw [fullMeaning, if_neg long, h.ownMeaning_eq, if_neg long]

theorem replaceReferences_standsFor (h : StandsFor c piece) (rest : Text) :
    replaceReferences meaning (piece ++ rest) = (do
      let head ← meaning piece
      let tail ← replaceReferences meaning rest
      return head ++ tail) := by
  obtain ⟨body, rfl, read⟩ := h.denotes
  rw [List.append_assoc]
  exact replaceReferences_reference read rest

/-- One step of decoding an encoded text. -/
theorem replaceReferences_spells (standard : FollowsStandard meaning) (h : Spells c piece)
    (rest : Text) :
    replaceReferences meaning (piece ++ rest) = (replaceReferences meaning rest).map (c :: ·) := by
  cases h with
  | plain plain => exact replaceReferences_plain plain rest
  | reference h =>
    rw [replaceReferences_standsFor h, standard c piece h]
    cases replaceReferences meaning rest <;> rfl

theorem replaceReferences_flatten (standard : FollowsStandard meaning)
    (h : List.Forall₂ Spells s pieces) : replaceReferences meaning pieces.flatten = .ok s := by
  induction h with
  | nil => rfl
  | cons first more ih =>
    rw [List.flatten_cons, replaceReferences_spells standard first, ih]
    rfl

theorem decodeReferences_eq (t : Text) : decodeReferences t = replaceReferences ownMeaning t :=
  decodeReferencesFrom_eq 0 t

/-- The decoder stops at the first reference that it refuses. -/
theorem decodeReferences_flatten (h : List.Forall₂ Spells s pieces) :
    decodeReferences pieces.flatten =
      match pieces.find? isOverlong with
      | none => .ok s
      | some piece => .error (.digits (piece.length - 3)) := by
  rw [decodeReferences_eq]
  induction h with
  | nil => rfl
  | @cons c piece s pieces first more ih =>
    rw [List.flatten_cons]
    cases first with
    | plain plain =>
      have short : isOverlong [c] = false := rfl
      rw [List.find?_cons_of_neg (by simp [short]), List.singleton_append,
        replaceReferences_plain plain, ih]
      cases pieces.find? isOverlong <;> rfl
    | reference h =>
      rw [replaceReferences_standsFor h, h.ownMeaning_eq, ih]
      by_cases long : isOverlong piece = true
      · rw [if_pos long, List.find?_cons_of_pos long]
        rfl
      · rw [if_neg long, List.find?_cons_of_neg long]
        cases pieces.find? isOverlong <;> rfl

/-- A text comes back from each of its encodings, for any meaning of a reference that follows the
standard. The decoder is the replacement by its own meaning, which departs from the standard at
numbers of too many digits only; so it gives the text back unless one of those is there, and
reports the first. -/
theorem replaceReferences_encoding (h : List.Forall₂ Spells s pieces) :
    (∀ meaning, FollowsStandard meaning → replaceReferences meaning pieces.flatten = .ok s) ∧
    (∀ t, decodeReferences t = replaceReferences ownMeaning t) ∧
    decodeReferences pieces.flatten =
      match pieces.find? isOverlong with
      | none => .ok s
      | some piece => .error (.digits (piece.length - 3)) :=
  ⟨fun _ standard => replaceReferences_flatten standard h, decodeReferences_eq,
    decodeReferences_flatten h⟩

/-- The ampersand that a reference denotes does not open another one with the letters behind it. -/
theorem replaceReferences_encoding_adjacent :
    List.Forall₂ Spells ("&lt;&" : Text) ["&amp;", "l", "&#0116;", ";", "&#X26;"] ∧
      FollowsStandard fullMeaning ∧
      replaceReferences fullMeaning ("&amp;l&#0116;;&#X26;" : Text) = .ok "&lt;&" ∧
      decodeReferences ("&amp;l&#0116;;&#X26;" : Text) = .ok "&lt;&" := by
  have letter : StandsFor 't' "&#0116;" :=
    @StandsFor.decimal _ "0116" rfl (by decide) (List.all_eq_true.mp rfl) rfl
  have ampersand : StandsFor '&' "&#X26;" :=
    @StandsFor.hexadecimal _ 'X' "26" rfl (.inr rfl) (by decide) (List.all_eq_true.mp rfl) rfl
  have spelled : List.Forall₂ Spells ("&lt;&" : Text) ["&amp;", "l", "&#0116;", ";", "&#X26;"] :=
    .cons (.reference (.ampersand rfl)) <| .cons (.plain (by decide)) <|
      .cons (.reference letter) <| .cons (.plain (by decide)) <| .cons (.reference ampersand) .nil
  obtain ⟨standard, -, own⟩ := replaceReferences_encoding spelled
  exact ⟨spelled, followsStandard_fullMeaning, standard _ followsStandard_fullMeaning, own⟩

end Encoding

end Hyperscript.Text
