import Hyperscript.Proofs.QuotedText
import Hyperscript.Proofs.Reading

/-!
# What words look like in a text

Names, numbers, strings and the fixed terminals are found by the lexer where they stand, as long as
the text behind them does not carry them on: a name must not meet another part of a name, nor a
number another digit, nor a mark a code point that makes it a longer mark.
-/
namespace Hyperscript

theorem CodePoint.ofNat_val (c : CodePoint) : (Fin.ofNat 0x110000 c.val : CodePoint) = c := by
  simp

/-- What holds of the first 128 code points can be checked one by one. -/
theorem CodePoint.of_ascii {P : CodePoint → Prop} (h : ∀ n < 128, P (Fin.ofNat 0x110000 n))
    (c : CodePoint) (ascii : c.val < 128) : P c := by
  have here := h c.val ascii
  rwa [ofNat_val] at here

namespace Grammar

/-- No name and no number goes on here. -/
def Clear : Text → Prop
  | [] => True
  | c :: rest => Scan.isNamePart c = false ∧ c.isDecimal = false ∧
    (c = '.' → ∀ d ∈ rest.head?, d.isDecimal = false)

/-- A code point that ends whatever stands before it. -/
def closes (c : CodePoint) : Bool :=
  !Scan.isNamePart c && !c.isDecimal && !decide (c = CodePoint.ofChar '.')

theorem Clear.of_closes {c : CodePoint} (rest : Text) (h : closes c = true) :
    Clear (c :: rest) := by
  simp only [closes, Bool.and_eq_true, Bool.not_eq_true', decide_eq_false_iff_not] at h
  exact ⟨h.1.1, h.1.2, fun dot => absurd dot h.2⟩

theorem Clear.namePart {rest : Text} (h : Clear rest) :
    ∀ c ∈ rest.head?, Scan.isNamePart c = false := by
  cases rest with
  | nil => exact fun c none => by cases none
  | cons d rest => exact fun c same => by cases same; exact h.1

theorem Clear.decimal {rest : Text} (h : Clear rest) : ∀ c ∈ rest.head?, c.isDecimal = false := by
  cases rest with
  | nil => exact fun c none => by cases none
  | cons d rest => exact fun c same => by cases same; exact h.2.1

namespace Scan

theorem val_lt_of_isNamePart {c : CodePoint} (h : isNamePart c = true) : c.val < 128 := by
  have low : ∀ d : Char, d.toNat < 128 → c = CodePoint.ofChar d → c.val < 128 :=
    fun d small same => by rw [same]; exact small
  have under : ∀ d : Char, d.toNat < 128 → c ≤ CodePoint.ofChar d → c.val < 128 :=
    fun d small le => Nat.lt_of_le_of_lt (Fin.le_def.mp le) small
  simp only [isNamePart, isNameStart, CodePoint.isLetter, CodePoint.isLower, CodePoint.isUpper,
    CodePoint.isDigit, Bool.or_eq_true, Bool.and_eq_true, decide_eq_true_eq] at h
  rcases h with (((⟨-, le⟩ | ⟨-, le⟩) | same) | same) | ⟨-, le⟩
  · exact under 'z' (by decide) le
  · exact under 'Z' (by decide) le
  · exact low '_' (by decide) same
  · exact low '$' (by decide) same
  · exact under '9' (by decide) le

theorem isNamePart_of_isNameStart {c : CodePoint} (h : isNameStart c = true) :
    isNamePart c = true := by
  rw [isNamePart, h]
  rfl

theorem isDecimal_only {c : CodePoint} (h : c.isDecimal = true) :
    isSpace c = false ∧ c ≠ '/' := by
  by_cases ascii : c.val < 128
  · refine CodePoint.of_ascii (P := fun c => c.isDecimal = true →
      isSpace c = false ∧ c ≠ CodePoint.ofChar '/') ?_ c ascii h
    decide +kernel
  · have other : ∀ d : Char, d.toNat < 128 → c ≠ CodePoint.ofChar d :=
      fun d small same => ascii (by rw [same]; exact small)
    have feed : c ≠ 0x0c := fun same => ascii (by rw [same]; decide)
    refine ⟨?_, other '/' (by decide)⟩
    simp [isSpace, other ' ' (by decide), other '\t' (by decide), feed, other '\r' (by decide),
      other '\n' (by decide)]

theorem run_append {p : CodePoint → Bool} {rest : Text} (stop : ∀ c ∈ rest.head?, p c = false)
    (t : Text) : run p (t ++ rest) = run p t := by
  induction t with
  | nil =>
    cases rest with
    | nil => rfl
    | cons c rest => simp [run, stop c rfl]
  | cons c t ih =>
    simp only [run, List.cons_append, List.takeWhile_cons] at ih ⊢
    split
    · rw [List.length_cons, List.length_cons, ih]
    · rfl

theorem run_of_all {p : CodePoint → Bool} {t : Text} (h : ∀ c ∈ t, p c = true) :
    run p t = t.length := by
  induction t with
  | nil => rfl
  | cons c t ih =>
    rw [run, List.takeWhile_cons, if_pos (h c List.mem_cons_self), List.length_cons]
    exact congrArg (· + 1) (ih fun d hd => h d (List.mem_cons_of_mem c hd))

theorem comment_of_slash {d : CodePoint} {t : Text} (line : d ≠ '/') (block : d ≠ '*') :
    comment (CodePoint.ofChar '/' :: d :: t) = 0 := by
  have second : ∀ {e : CodePoint}, ([CodePoint.ofChar '/', e] : Text) <+:
      CodePoint.ofChar '/' :: d :: t → e = d := fun h =>
    (List.cons_prefix_cons.mp (List.cons_prefix_cons.mp h).2).1
  have noLine : ¬ Text.ofString "//" <+: CodePoint.ofChar '/' :: d :: t := fun h =>
    line (second h).symm
  have noBlock : ¬ Text.ofString "/*" <+: CodePoint.ofChar '/' :: d :: t := fun h =>
    block (second h).symm
  rw [comment, if_neg noLine, if_neg noBlock]

end Scan

/-- The whole text is a name. -/
def IsName (w : Text) : Prop := w ≠ [] ∧ Scan.name w = w.length

instance (w : Text) : Decidable (IsName w) := inferInstanceAs (Decidable (_ ∧ _))

theorem IsName.cases {w : Text} (h : IsName w) :
    ∃ c more, w = c :: more ∧ Scan.isNameStart c = true ∧
      Scan.run Scan.isNamePart more = more.length := by
  obtain ⟨nonempty, whole⟩ := h
  cases w with
  | nil => exact absurd rfl nonempty
  | cons c more =>
    simp only [Scan.name, Scan.headed, List.length_cons] at whole
    split at whole
    · rename_i start
      exact ⟨c, more, rfl, start, Nat.succ.inj whole⟩
    · cases whole

theorem IsName.scan {w rest : Text} (h : IsName w) (clear : Clear rest) :
    Scan.name (w ++ rest) = w.length := by
  obtain ⟨c, more, rfl, start, whole⟩ := h.cases
  rw [List.cons_append, Scan.name, Scan.headed, if_pos start, Scan.run_append clear.namePart, whole,
    List.length_cons]

/-- Longer spellings come first, and no two are the same. -/
theorem spellings_sorted : Terminal.spellings.Pairwise fun e f =>
    f.2.length ≤ e.2.length ∧ e.2 ≠ f.2 := by
  decide +kernel

theorem eq_of_spelling {e f : Terminal × Text} (he : e ∈ Terminal.spellings)
    (hf : f ∈ Terminal.spellings) (same : e.2 = f.2) : e = f := by
  refine List.Pairwise.forall_of_forall_of_flip (R := fun e f => e.2 = f.2 → e = f)
    (fun _ _ _ => rfl) ?_ ?_ he hf same
  · exact spellings_sorted.imp fun h same => absurd same h.2
  · exact spellings_sorted.imp fun h same => absurd same.symm h.2

theorem ne_name_of_mem_spellings {kind : Terminal} {w : Text} (h : (kind, w) ∈ Terminal.spellings) :
    kind ≠ .name := by
  have all : ∀ e ∈ Terminal.spellings, e.1 ≠ .name := by decide
  exact all _ h

/-- The code points that make a spelling the start of a longer one. -/
def followers (w : Text) : List CodePoint :=
  Terminal.spellings.filterMap fun e => if w <+: e.2 then e.2[w.length]? else none

/-- No longer spelling stands where this one does. -/
theorem length_le_of_prefix {w rest : Text} (stop : ∀ c ∈ rest.head?, c ∉ followers w)
    {e : Terminal × Text} (mem : e ∈ Terminal.spellings) (found : e.2 <+: w ++ rest) :
    e.2.length ≤ w.length := by
  apply Nat.le_of_not_lt
  intro longer
  have start : w <+: e.2 :=
    List.prefix_of_prefix_length_le (List.prefix_append w rest) found (Nat.le_of_lt longer)
  obtain ⟨more, same⟩ := start
  rw [← same, List.prefix_append_right_inj] at found
  cases more with
  | nil => simp [← same] at longer
  | cons c more =>
    obtain ⟨others, behind⟩ := found
    refine stop c (by rw [← behind]; rfl) (List.mem_filterMap.mpr ⟨e, mem, ?_⟩)
    rw [if_pos ⟨c :: more, same⟩, ← same]
    simp

/-- Of the usable spellings the longest one is taken. -/
theorem ofSpelling_eq {usable : Terminal → Bool} {k : Terminal} {w rest : Text}
    (mem : (k, w) ∈ Terminal.spellings) (use : usable k = true)
    (stop : ∀ c ∈ rest.head?, c ∉ followers w) :
    Lexeme.ofSpelling usable (w ++ rest) = some (.token k w.length) := by
  let fits : Terminal × Text → Bool := fun e => e.2.isPrefixOf (w ++ rest) && usable e.1
  have here : fits (k, w) = true := by simp [fits, use]
  obtain ⟨e, found⟩ := Option.isSome_iff_exists.mp
    (List.find?_isSome.mpr ⟨(k, w), mem, here⟩)
  obtain ⟨fitting, before, behind, split, none⟩ := List.find?_eq_some_iff_append.mp found
  have start : e.2 <+: w ++ rest := by
    simp only [fits, Bool.and_eq_true, List.isPrefixOf_iff_prefix] at fitting
    exact fitting.1
  have member : e ∈ Terminal.spellings := List.mem_of_find?_eq_some found
  have short := length_le_of_prefix stop member start
  have long : w.length ≤ e.2.length := by
    have sorted := spellings_sorted
    rw [split, List.pairwise_append, List.pairwise_cons] at sorted
    rw [split, List.mem_append, List.mem_cons] at mem
    rcases mem with early | rfl | late
    · exact absurd (none _ early) (by simp [here])
    · exact Nat.le_refl _
    · exact (sorted.2.1.1 _ late).1
  have text : e.2 = w := List.prefix_iff_eq_take.mp start ▸ by
    rw [Nat.le_antisymm short long, List.take_left]
  have same : e = (k, w) := eq_of_spelling member mem text
  rw [Lexeme.ofSpelling, found, same]
  rfl

namespace Scan

/-- Neither white space nor a number, a string or a template starts here. -/
def opensNoLiteral (c : CodePoint) : Bool :=
  !c.isDecimal && !isSpace c && c ≠ '"' && c ≠ '\'' && c ≠ 0x60

theorem number_of_not_decimal {c : CodePoint} {t : Text} (digit : c.isDecimal = false) :
    number (c :: t) = 0 := by
  have zero : c ≠ CodePoint.ofChar '0' := by
    rintro rfl
    exact absurd digit (by decide)
  have small : ¬ Text.ofString "0x" <+: c :: t := fun hp =>
    zero (List.cons_prefix_cons.mp hp).1.symm
  have large : ¬ Text.ofString "0X" <+: c :: t := fun hp =>
    zero (List.cons_prefix_cons.mp hp).1.symm
  simp [number, hexadecimal, small, large, decimal, run, digit]

theorem literals_zero {c : CodePoint} (h : opensNoLiteral c = true) (t : Text) :
    space (c :: t) = 0 ∧ number (c :: t) = 0 ∧ string (c :: t) = 0 ∧ template (c :: t) = 0 := by
  simp only [opensNoLiteral, Bool.and_eq_true, Bool.not_eq_true', decide_eq_true_eq] at h
  obtain ⟨⟨⟨⟨digit, blank⟩, double⟩, single⟩, back⟩ := h
  refine ⟨?_, number_of_not_decimal digit, ?_, ?_⟩
  · simp [space_cons, blank]
  · simp [string, quoted, double, single]
  · simp [template, quoted, back]

/-- A code point that starts a name starts nothing else. -/
theorem isNameStart_only {c : CodePoint} (h : isNameStart c = true) :
    opensNoLiteral c = true ∧ c ≠ '/' := by
  refine CodePoint.of_ascii (P := fun c => isNameStart c = true → opensNoLiteral c = true ∧
    c ≠ CodePoint.ofChar '/') ?_ c ?_ h
  · decide +kernel
  · exact val_lt_of_isNamePart (isNamePart_of_isNameStart h)

end Scan

section Lexing

variable {usable : Terminal → Bool} {c : CodePoint} {t rest : Text}

theorem first_of_visible (blank : Scan.space t = 0) (comment : Scan.comment t = 0) :
    Lexeme.first usable t =
      ((Lexeme.ofClass usable t).orElse fun _ => Lexeme.ofSpelling usable t).getD .unknown := by
  simp [Lexeme.first, blank, comment]

/-- Where no literal starts, only names are a class to look for. -/
theorem ofClass_of_opensNoLiteral (plain : IsPlain usable) (h : Scan.opensNoLiteral c = true) :
    Lexeme.ofClass usable (c :: t) =
      if usable .name = true ∧ Scan.name (c :: t) ≠ 0 then
        some (.token (Terminal.ofName usable .name ((c :: t).take (Scan.name (c :: t))))
          (Scan.name (c :: t)))
      else none := by
  obtain ⟨-, number, string, template⟩ := Scan.literals_zero h t
  have text := plain .jsxText (by simp)
  have name := plain .jsxName (by simp)
  have quoted := plain .jsxString (by simp)
  split
  · rename_i found
    simp [Lexeme.ofClass, Scan.classes, text, number, string, template, found]
  · rename_i none
    by_cases use : usable .name = true
    · have zero : Scan.name (c :: t) = 0 := by simpa [use] using none
      simp [Lexeme.ofClass, Scan.classes, text, name, quoted, number, string, template, zero]
    · simp [Lexeme.ofClass, Scan.classes, text, name, quoted, number, string, template, use]

theorem isSpace_of_opensNoLiteral (h : Scan.opensNoLiteral c = true) : Scan.isSpace c = false := by
  simp only [Scan.opensNoLiteral, Bool.and_eq_true, Bool.not_eq_true'] at h
  exact h.1.1.1.2

/-- A name that no usable word is spelled like is a name. -/
theorem IsName.lexes {w : Text} (name : IsName w) (clear : Clear rest) :
    Word.Lexes ⟨.name, w⟩ rest := by
  obtain ⟨c, more, rfl, start, -⟩ := name.cases
  obtain ⟨opens, slash⟩ := Scan.isNameStart_only start
  refine ⟨⟨c, more, rfl, isSpace_of_opensNoLiteral opens⟩, ?_⟩
  intro usable plain admitted
  have whole := name.scan clear
  have free : Terminal.ofName usable .name (c :: more) = .name := by
    have none : Terminal.spellings.find? (fun e => e.2 = c :: more && usable e.1) = none := by
      refine List.find?_eq_none.mpr fun e mem => ?_
      simpa using admitted.2 rfl e mem
    simp [Terminal.ofName, none]
  have use : usable .name = true := admitted.1
  rw [List.cons_append] at whole
  rw [List.cons_append, first_of_visible (Scan.literals_zero opens _).1 (Scan.comment_of_ne slash),
    ofClass_of_opensNoLiteral plain opens, whole, if_pos ⟨use, by simp⟩, ← List.cons_append,
    List.take_left, free]
  rfl

/-- Every spelling is either a name or a mark: it opens no literal and no comment, holds no space,
and if it starts like a name it is one. -/
def isSpelling : Text → Bool
  | [] => false
  | c :: more =>
    Scan.opensNoLiteral c && (!Scan.isNameStart c || more.all Scan.isNamePart) &&
      !(c :: more).contains (CodePoint.ofChar ' ') &&
      (c ≠ '/' || !more.head?.any fun d : CodePoint => d = '/' || d = '*')

theorem spellings_shape : ∀ e ∈ Terminal.spellings, isSpelling e.2 = true := by
  decide +kernel

theorem isSpelling_cases {w : Text} (h : isSpelling w = true) :
    ∃ c more, w = c :: more ∧ Scan.opensNoLiteral c = true ∧
      (Scan.isNameStart c = true → ∀ d ∈ more, Scan.isNamePart d = true) ∧
      CodePoint.ofChar ' ' ∉ c :: more ∧
      (c = '/' → ∀ d ∈ more.head?, d ≠ CodePoint.ofChar '/' ∧ d ≠ CodePoint.ofChar '*') := by
  cases w with
  | nil => cases h
  | cons c more =>
    simp only [isSpelling, Bool.and_eq_true, Bool.or_eq_true, Bool.not_eq_true', List.all_eq_true,
      List.contains_eq_mem, decide_eq_false_iff_not, decide_eq_true_eq] at h
    obtain ⟨⟨⟨opens, parts⟩, space⟩, comment⟩ := h
    refine ⟨c, more, rfl, opens, ?_, space, ?_⟩
    · intro start
      exact parts.resolve_left (by simp [start])
    · intro slash d first
      have none := comment.resolve_left fun other => other slash
      rw [Option.mem_def.mp first] at none
      simpa using none

/-- A fixed terminal is found if nothing carries it on, neither as a mark nor as a name. -/
theorem lexes_fixed {k : Terminal} {w : Text} (mem : (k, w) ∈ Terminal.spellings)
    (comment : Scan.comment (w ++ rest) = 0) (stop : ∀ c ∈ rest.head?, c ∉ followers w)
    (names : Scan.name (w ++ rest) = w.length ∨ Scan.name (w ++ rest) = 0) :
    Word.Lexes ⟨k, w⟩ rest := by
  obtain ⟨c, more, rfl, opens, -⟩ := isSpelling_cases (spellings_shape _ mem)
  refine ⟨⟨c, more, rfl, isSpace_of_opensNoLiteral opens⟩, ?_⟩
  intro usable plain admitted
  have use : usable k = true := admitted.1
  have spelled := ofSpelling_eq mem use stop
  have word : Terminal.ofName usable .name (c :: more) = k := by
    let fits : Terminal × Text → Bool := fun e => e.2 = c :: more && usable e.1
    have here : fits (k, c :: more) = true := by simp [fits, use]
    obtain ⟨e, found⟩ := Option.isSome_iff_exists.mp
      (List.find?_isSome.mpr ⟨(k, c :: more), mem, here⟩)
    have fitting : fits e = true := List.find?_some found
    simp only [fits, Bool.and_eq_true, decide_eq_true_eq] at fitting
    have same := eq_of_spelling (List.mem_of_find?_eq_some found) mem fitting.1
    simp only [Terminal.ofName, decide_true, Bool.true_or, if_true]
    rw [show Terminal.spellings.find? _ = some e from found, same]
    rfl
  rw [List.cons_append] at comment names spelled ⊢
  rw [first_of_visible (Scan.literals_zero opens _).1 comment,
    ofClass_of_opensNoLiteral plain opens]
  split
  · rename_i found
    have whole := names.resolve_right found.2
    rw [whole, ← List.cons_append, List.take_left, word]
    rfl
  · rw [spelled]
    rfl

/-- What carries on a spelling is a part of a longer one. -/
theorem exists_of_mem_followers {w : Text} {d : CodePoint} (h : d ∈ followers w) :
    ∃ e ∈ Terminal.spellings, w <+: e.2 ∧ d ∈ e.2.drop w.length := by
  obtain ⟨e, mem, found⟩ := List.mem_filterMap.mp h
  split at found
  · rename_i start
    refine ⟨e, mem, start, ?_⟩
    rw [← Nat.add_zero w.length, ← List.getElem?_drop] at found
    exact List.mem_of_getElem? found
  · cases found

theorem lexes_word {k : Terminal} {w : Text} (mem : (k, w) ∈ Terminal.spellings) (name : IsName w)
    (clear : Clear rest) : Word.Lexes ⟨k, w⟩ rest := by
  obtain ⟨c, more, rfl, start, -⟩ := name.cases
  refine lexes_fixed mem ?_ ?_ (.inl (name.scan clear))
  · exact Scan.comment_of_ne (Scan.isNameStart_only start).2
  · intro d first carries
    obtain ⟨e, member, longer, behind⟩ := exists_of_mem_followers carries
    obtain ⟨b, others, same, -, parts, -⟩ := isSpelling_cases (spellings_shape e member)
    rw [same] at longer behind
    obtain ⟨rfl, -⟩ := List.cons_prefix_cons.mp longer
    have part := parts start d (List.mem_of_mem_drop behind)
    rw [clear.namePart d first] at part
    cases part

/-- A mark whose first code point starts neither a name nor a comment. -/
theorem lexes_mark {k : Terminal} {c : CodePoint} {more : Text}
    (mem : (k, c :: more) ∈ Terminal.spellings) (slash : c ≠ '/')
    (mark : Scan.isNameStart c = false) (stop : ∀ d ∈ rest.head?, d ∉ followers (c :: more)) :
    Word.Lexes ⟨k, c :: more⟩ rest := by
  refine lexes_fixed mem (Scan.comment_of_ne slash) stop (.inr ?_)
  rw [List.cons_append, Scan.name, Scan.headed, mark]
  rfl

/-- Before a space every fixed terminal is found. -/
theorem lexes_spaced {k : Terminal} {w : Text} (mem : (k, w) ∈ Terminal.spellings) (rest : Text) :
    Word.Lexes ⟨k, w⟩ (CodePoint.ofChar ' ' :: rest) := by
  obtain ⟨c, more, rfl, -, parts, -, comment⟩ := isSpelling_cases (spellings_shape _ mem)
  refine lexes_fixed mem ?_ ?_ ?_
  · by_cases slash : c = '/'
    · subst slash
      cases more with
      | nil => exact Scan.comment_of_slash (by decide) (by decide)
      | cons d more =>
        obtain ⟨line, block⟩ := comment rfl d rfl
        exact Scan.comment_of_slash line block
    · exact Scan.comment_of_ne slash
  · intro d first carries
    cases first
    obtain ⟨e, member, -, behind⟩ := exists_of_mem_followers carries
    obtain ⟨_, _, same, -, -, space, -⟩ := isSpelling_cases (spellings_shape e member)
    exact space (same ▸ List.mem_of_mem_drop behind)
  · cases start : Scan.isNameStart c with
    | true =>
      refine .inl (IsName.scan ⟨List.cons_ne_nil _ _, ?_⟩ (.of_closes rest (by decide)))
      rw [Scan.name, Scan.headed, if_pos start, Scan.run_of_all (parts start), List.length_cons]
    | false =>
      refine .inr ?_
      rw [List.cons_append, Scan.name, Scan.headed, start]
      rfl

/-- A quoted text is a string whatever stands behind it. -/
theorem lexes_quote (v rest : Text) : Word.Lexes ⟨.string, v.quote⟩ rest := by
  obtain ⟨more, same⟩ : ∃ more, v.quote = CodePoint.ofChar '"' :: more := ⟨_, rfl⟩
  refine ⟨⟨_, more, same, by decide⟩, ?_⟩
  intro usable plain admitted
  have use : usable .string = true := admitted.1
  have text := plain .jsxText (by simp)
  have scanned := Scan.string_quote v rest
  have nonempty : v.quote.length ≠ 0 := by simp [same]
  have number : Scan.number (v.quote ++ rest) = 0 := by
    rw [same, List.cons_append]
    exact Scan.number_of_not_decimal (by decide)
  have blank : Scan.space (v.quote ++ rest) = 0 := by
    rw [same, List.cons_append, Scan.space_cons]
    rfl
  have comment : Scan.comment (v.quote ++ rest) = 0 := by
    rw [same, List.cons_append]
    exact Scan.comment_of_ne (by decide)
  rw [first_of_visible blank comment]
  simp [Lexeme.ofClass, Scan.classes, text, number, use, scanned, nonempty, Terminal.ofName]

end Lexing

section Numbers

namespace Scan

variable {rest : Text}

theorem fraction_append (clear : Clear rest) (t : Text) : fraction (t ++ rest) = fraction t := by
  cases t with
  | cons c t =>
    simp only [fraction, List.cons_append, List.head?_cons, List.tail_cons,
      run_append clear.decimal]
    rfl
  | nil =>
    cases rest with
    | nil => rfl
    | cons c rest =>
      simp only [fraction, List.nil_append, List.head?_cons, List.tail_cons, Option.some.injEq,
        List.head?_nil, reduceCtorEq, if_false]
      split
      · rename_i dot
        have none : run CodePoint.isDecimal ([] ++ rest) = 0 := run_append (clear.2.2 dot) []
        rw [List.nil_append] at none
        simp [none]
      · rfl

/-- The exponent, where more than its mark is there. -/
theorem exponent_cons_cons (c d : CodePoint) (t : Text) :
    exponent (c :: d :: t) =
      if c = 'e' ∨ c = 'E' then
        if d = '+' ∨ d = '-' then if run CodePoint.isDecimal t = 0 then 0
          else run CodePoint.isDecimal t + 2
        else if run CodePoint.isDecimal (d :: t) = 0 then 0
          else run CodePoint.isDecimal (d :: t) + 1
      else 0 := by
  by_cases sign : d = '+' ∨ d = '-' <;> simp [exponent, sign]

/-- An exponent is complete: nothing that is clear of it carries it on. -/
theorem exponent_append (clear : Clear rest) {t : Text} (whole : exponent t = t.length) :
    exponent (t ++ rest) = t.length := by
  match t with
  | [] =>
    cases rest with
    | nil => rfl
    | cons c rest =>
      have small : c ≠ 'e' := by rintro rfl; exact absurd clear.1 (by decide)
      have large : c ≠ 'E' := by rintro rfl; exact absurd clear.1 (by decide)
      simp [exponent, small, large]
  | [c] => simp [exponent, run] at whole
  | c :: d :: t =>
    rw [← whole, List.cons_append, List.cons_append, exponent_cons_cons, exponent_cons_cons,
      run_append clear.decimal, ← List.cons_append, run_append clear.decimal]

theorem isNamePart_of_isHexDigit {c : CodePoint} (h : c.isHexDigit = true) :
    isNamePart c = true := by
  have small : CodePoint.ofChar 'f' ≤ CodePoint.ofChar 'z' := by decide
  have large : CodePoint.ofChar 'F' ≤ CodePoint.ofChar 'Z' := by decide
  simp only [CodePoint.isHexDigit, Bool.or_eq_true, Bool.and_eq_true, decide_eq_true_eq] at h
  simp only [isNamePart, isNameStart, CodePoint.isLetter, CodePoint.isLower, CodePoint.isUpper,
    Bool.or_eq_true, Bool.and_eq_true, decide_eq_true_eq]
  rcases h with (digit | ⟨low, high⟩) | ⟨low, high⟩
  · exact .inr digit
  · exact .inl (.inl (.inl (.inl ⟨low, Fin.le_trans high small⟩)))
  · exact .inl (.inl (.inl (.inr ⟨low, Fin.le_trans high large⟩)))

theorem hexadecimal_cons_cons (c d : CodePoint) (t : Text) :
    hexadecimal (c :: d :: t) =
      if c = '0' ∧ (d = 'x' ∨ d = 'X') then
        if run CodePoint.isHexDigit t = 0 then 0 else run CodePoint.isHexDigit t + 2
      else 0 := by
  have start : ∀ e : CodePoint, ([CodePoint.ofChar '0', e] : Text) <+: c :: d :: t ↔
      c = '0' ∧ d = e := by
    intro e
    rw [List.cons_prefix_cons, List.cons_prefix_cons, eq_comm, @eq_comm _ e]
    simp
  have either : (Text.ofString "0x" <+: c :: d :: t ∨ Text.ofString "0X" <+: c :: d :: t) ↔
      c = '0' ∧ (d = 'x' ∨ d = 'X') := by
    rw [and_or_left]
    exact or_congr (start 'x') (start 'X')
  simp only [hexadecimal, Bool.or_eq_true, decide_eq_true_eq, either]
  rfl

theorem hexadecimal_singleton (c : CodePoint) : hexadecimal [c] = 0 := by
  simp [hexadecimal, run]

theorem decimal_append (clear : Clear rest) {t : Text} (whole : decimal t = t.length) :
    decimal (t ++ rest) = t.length := by
  have same : run CodePoint.isDecimal (t ++ rest) = run CodePoint.isDecimal t :=
    run_append clear.decimal t
  have le : run CodePoint.isDecimal t ≤ t.length := (List.takeWhile_sublist _).length_le
  rw [decimal] at whole ⊢
  simp only [same] at whole ⊢
  split
  · rename_i none
    rwa [if_pos none] at whole
  · rename_i some
    rw [if_neg some] at whole
    rw [List.drop_append_of_le_length le, fraction_append clear]
    generalize run CodePoint.isDecimal t + fraction (t.drop (run CodePoint.isDecimal t)) = k
      at whole ⊢
    have bound : k ≤ t.length := by omega
    have rest : exponent (t.drop k) = (t.drop k).length := by
      rw [List.length_drop]
      omega
    rw [List.drop_append_of_le_length bound, exponent_append clear rest, List.length_drop]
    omega

/-- A number is complete: nothing that is clear of it carries it on. -/
theorem number_append (clear : Clear rest) {t : Text} (nonempty : t ≠ [])
    (whole : number t = t.length) : number (t ++ rest) = t.length := by
  match t with
  | [] => exact absurd rfl nonempty
  | [c] =>
    rw [number, if_pos (hexadecimal_singleton c)] at whole
    have none : hexadecimal ([c] ++ rest) = 0 := by
      cases rest with
      | nil => exact hexadecimal_singleton c
      | cons d rest =>
        have small : d ≠ 'x' := by rintro rfl; exact absurd clear.1 (by decide)
        have large : d ≠ 'X' := by rintro rfl; exact absurd clear.1 (by decide)
        rw [List.singleton_append, hexadecimal_cons_cons, if_neg (by simp [small, large])]
    rw [number, if_pos none, decimal_append clear whole]
  | c :: d :: t =>
    have same : hexadecimal (c :: d :: t ++ rest) = hexadecimal (c :: d :: t) := by
      rw [List.cons_append, List.cons_append, hexadecimal_cons_cons, hexadecimal_cons_cons,
        run_append]
      intro e first
      apply Bool.eq_false_iff.mpr
      intro hex
      have part := isNamePart_of_isHexDigit hex
      rw [clear.namePart e first] at part
      cases part
    rw [number] at whole ⊢
    rw [same]
    split at whole
    · rename_i none
      rw [if_pos none, decimal_append clear whole]
    · rename_i some
      rw [if_neg some, whole]

end Scan

/-- A number is found where nothing carries it on. -/
theorem lexes_number {raw rest : Text} (nonempty : raw ≠ []) (whole : Scan.number raw = raw.length)
    (clear : Clear rest) : Word.Lexes ⟨.number, raw⟩ rest := by
  obtain ⟨c, more, rfl⟩ := List.exists_cons_of_ne_nil nonempty
  have decimal : c.isDecimal = true := by
    apply Bool.not_eq_false _ |>.mp
    intro other
    rw [Scan.number_of_not_decimal other] at whole
    cases whole
  obtain ⟨visible, slash⟩ := Scan.isDecimal_only decimal
  refine ⟨⟨c, more, rfl, visible⟩, ?_⟩
  intro usable plain admitted
  have use : usable .number = true := admitted.1
  have text := plain .jsxText (by simp)
  have scanned := Scan.number_append clear nonempty whole
  have blank : Scan.space (c :: more ++ rest) = 0 := by
    rw [List.cons_append, Scan.space_cons, visible]
    rfl
  have comment : Scan.comment (c :: more ++ rest) = 0 := Scan.comment_of_ne slash
  rw [List.cons_append] at scanned
  rw [first_of_visible blank comment]
  simp [Lexeme.ofClass, Scan.classes, text, use, scanned, Terminal.ofName]

end Numbers

end Grammar

end Hyperscript
