import Hyperscript.Proofs.CoreMeaning
import Hyperscript.Proofs.StringToken

/-!
# The words of printed texts

The printer puts texts together with words, marks and spaces. A text spells its words whatever clear
text stands behind it, and each way of putting texts together spells the words of the parts in
order. What stands behind a text must not carry its last word on.
-/
namespace Hyperscript.Grammar

/-- The text spells the words wherever nothing behind it carries it on. -/
def Spelt (text : Text) (words : List Word) : Prop :=
  ∀ rest later, Clear rest → Spells rest later → Spells (text ++ rest) (words ++ later)

/-- The text does not carry on what stands before it. -/
def Detached (text : Text) : Prop := ∀ rest, Clear rest → Clear (text ++ rest)

/-- The text starts with neither white space nor an equals sign, which would make another mark of a
sign before it. -/
def Opened (text : Text) : Prop := ∃ c more, text = c :: more ∧ Scan.isSpace c = false ∧ c ≠ '='

/-- The text starts with the first of the words it spells. -/
structure Phrase (text : Text) (words : List Word) : Prop where
  opened : Opened text
  spelt : Spelt text words

theorem closes_of_isSpace {c : CodePoint} (h : Scan.isSpace c = true) : closes c = true := by
  simp only [Scan.isSpace, Bool.or_eq_true, decide_eq_true_eq] at h
  rcases h with (((rfl | rfl) | rfl) | rfl) | rfl <;> decide

theorem Opened.append {text : Text} (h : Opened text) (rest : Text) : Opened (text ++ rest) := by
  obtain ⟨c, more, rfl, start⟩ := h
  exact ⟨c, more ++ rest, rfl, start⟩

namespace Detached

variable {text : Text}

theorem nil : Detached [] := fun _ clear => clear

theorem of_closes {c : CodePoint} {more : Text} (h : closes c = true) : Detached (c :: more) :=
  fun rest _ => .of_closes (more ++ rest) h

theorem space (text : Text) : Detached (" " ++ text) := .of_closes (by decide)

theorem gap {space : Text} (blank : ∀ c ∈ space, Scan.isSpace c = true) (h : Detached text) :
    Detached (space ++ text) := by
  cases space with
  | nil => exact h
  | cons c space => exact .of_closes (closes_of_isSpace (blank c List.mem_cons_self))

end Detached

theorem blank_space : ∀ c ∈ Text.ofString " ", Scan.isSpace c = true :=
  List.all_eq_true.mp rfl

theorem blank_feed : ∀ c ∈ Text.ofString "\n", Scan.isSpace c = true :=
  List.all_eq_true.mp rfl

theorem blank_indent (depth : Nat) : ∀ c ∈ Layout.indent depth, Scan.isSpace c = true := by
  intro c mem
  rw [List.eq_of_mem_replicate mem]
  rfl

/-- A new line at the given depth. -/
def lineGap (depth : Nat) : Text := "\n" ++ Layout.indent depth

theorem blank_line (depth : Nat) : ∀ c ∈ lineGap depth, Scan.isSpace c = true := by
  intro c mem
  exact (List.mem_append.mp mem).elim (blank_feed c) (blank_indent depth c)

theorem Detached.line (depth : Nat) (text : Text) : Detached (lineGap depth ++ text) :=
  .of_closes (c := CodePoint.ofChar '\n') (by decide)

/-- Marks that nothing makes longer. -/
def closedMarks : List (Terminal × Text) :=
  [(.parenOpen, "("), (.parenClose, ")"), (.bracketOpen, "["), (.bracketClose, "]"),
   (.braceOpen, "\x7b"), (.braceClose, "\x7d"), (.comma, ","), (.semicolon, ";"), (.colon, ":"),
   (.atSign, "@"), (.tilde, "~"), (.increment, "++"), (.decrement, "--")]

/-- A mark of one or two code points that starts neither a name nor a comment. -/
def isMark (e : Terminal × Text) : Bool :=
  match e.2 with
  | [] => false
  | c :: _ => c ≠ '/' && !Scan.isNameStart c && closes c

theorem closedMarks_spec : ∀ e ∈ closedMarks,
    e ∈ Terminal.spellings ∧ followers e.2 = [] ∧ isMark e = true := by
  decide +kernel

section Marks

variable {k : Terminal} {w rest : Text} {words : List Word}

theorem lexes_closed (mem : (k, w) ∈ closedMarks) (rest : Text) : Word.Lexes ⟨k, w⟩ rest := by
  obtain ⟨spelled, alone, mark⟩ := closedMarks_spec _ mem
  cases w with
  | nil => cases mark
  | cons c more =>
    simp only [isMark, Bool.and_eq_true, Bool.not_eq_true', decide_eq_true_eq] at mark
    apply lexes_mark spelled mark.1.1 mark.1.2
    intro d _ carries
    rw [show followers (c :: more) = [] from alone] at carries
    cases carries

theorem Detached.mark (mem : (k, w) ∈ closedMarks) (rest : Text) : Detached (w ++ rest) := by
  obtain ⟨-, -, mark⟩ := closedMarks_spec _ mem
  cases w with
  | nil => cases mark
  | cons c more =>
    simp only [isMark, Bool.and_eq_true] at mark
    exact .of_closes mark.2

namespace Spelt

variable {text : Text}

theorem nil : Spelt [] [] := fun _ _ _ behind => behind

theorem gap {space : Text} (blank : ∀ c ∈ space, Scan.isSpace c = true) (h : Spelt text words) :
    Spelt (space ++ text) words := by
  intro rest later clear behind
  rw [List.append_assoc]
  exact .spaces blank (h rest later clear behind)

theorem append {first : Text} {others : List Word} (h : Spelt first words)
    (detached : Detached text) (h' : Spelt text others) :
    Spelt (first ++ text) (words ++ others) := by
  intro rest later clear behind
  rw [List.append_assoc, List.append_assoc]
  exact h _ _ (detached rest clear) (h' rest later clear behind)

/-- A word that is found where the text behind it stands. -/
theorem cons {v : Word} (lexes : ∀ rest, Clear rest → v.Lexes (text ++ rest))
    (h : Spelt text words) : Spelt (v.text ++ text) (v :: words) := by
  intro rest later clear behind
  rw [List.append_assoc]
  exact .word (lexes rest clear) (h rest later clear behind)

theorem mark (mem : (k, w) ∈ closedMarks) (h : Spelt text words) :
    Spelt (w ++ text) (⟨k, w⟩ :: words) :=
  cons (v := ⟨k, w⟩) (fun rest _ => lexes_closed mem (text ++ rest)) h

/-- A fixed terminal before a space. -/
theorem spaced (mem : (k, w) ∈ Terminal.spellings) (h : Spelt text words) :
    Spelt (w ++ (" " ++ text)) (⟨k, w⟩ :: words) :=
  cons (v := ⟨k, w⟩) (fun rest _ => lexes_spaced mem (text ++ rest)) (.gap blank_space h)

theorem word (mem : (k, w) ∈ Terminal.spellings) (name : IsName w) (detached : Detached text)
    (h : Spelt text words) : Spelt (w ++ text) (⟨k, w⟩ :: words) :=
  cons (v := ⟨k, w⟩) (fun rest clear => lexes_word mem name (detached rest clear)) h

end Spelt

end Marks

theorem detached_dot {name : Text} (isName : IsName name) (rest : Text) :
    Detached ("." ++ (name ++ rest)) := by
  obtain ⟨d, others, rfl, start, -⟩ := isName.cases
  refine fun later _ => ⟨by decide, by decide, ?_⟩
  intro _ e first
  cases first
  have opens := (Scan.isNameStart_only start).1
  simp only [Scan.opensNoLiteral, Bool.and_eq_true, Bool.not_eq_true'] at opens
  exact opens.1.1.1.1

namespace Spelt

variable {w text : Text} {words : List Word}

theorem name (isName : IsName w) (detached : Detached text) (h : Spelt text words) :
    Spelt (w ++ text) (⟨.name, w⟩ :: words) :=
  cons (v := ⟨.name, w⟩) (fun rest clear => isName.lexes (detached rest clear)) h

theorem dot (isName : IsName w) (h : Spelt (w ++ text) words) :
    Spelt ("." ++ (w ++ text)) (⟨.dot, "."⟩ :: words) := by
  obtain ⟨d, others, rfl, start, -⟩ := isName.cases
  refine cons (v := ⟨.dot, [CodePoint.ofChar '.']⟩) (fun rest _ => ?_) h
  apply lexes_mark (by decide) (by decide) (by decide)
  intro e first carries
  cases first
  have only : followers [CodePoint.ofChar '.'] = [CodePoint.ofChar '.'] := by decide
  rw [only, List.mem_singleton] at carries
  rw [carries] at start
  exact absurd start (by decide)

theorem ellipsis (h : Spelt text words) : Spelt ("..." ++ text) (⟨.ellipsis, "..."⟩ :: words) := by
  have alone : followers (Text.ofString "...") = [] := by decide
  refine cons (v := ⟨.ellipsis, "..."⟩) (fun rest _ => ?_) h
  have mark : Text.ofString "..." = CodePoint.ofChar '.' :: Text.ofString ".." := rfl
  rw [mark] at alone ⊢
  apply lexes_mark (by decide) (by decide) (by decide)
  rw [alone]
  exact fun _ _ => List.not_mem_nil

end Spelt

/-- A template is found whatever stands behind it. -/
theorem lexes_template {raw : Text} (nonempty : raw ≠ []) (whole : Scan.template raw = raw.length)
    (rest : Text) : Word.Lexes ⟨.template, raw⟩ rest := by
  have found : Scan.template raw ≠ 0 := by simpa [whole] using nonempty
  have scanned := (Scan.quoted_take found rest).1
  rw [show Scan.quoted 0x60 true raw = raw.length from whole, List.take_length] at scanned
  obtain ⟨c, more, rfl⟩ := List.exists_cons_of_ne_nil nonempty
  obtain rfl : c = 0x60 := by
    apply Decidable.byContradiction
    intro other
    simp [Scan.template, Scan.quoted, other] at whole
  refine ⟨⟨_, more, rfl, by decide⟩, ?_⟩
  intro usable plain admitted
  have use : usable .template = true := admitted.1
  have text := plain .jsxText (by simp)
  rw [List.cons_append] at scanned ⊢
  generalize more ++ rest = others at scanned
  have number : Scan.number ((0x60 : CodePoint) :: others) = 0 :=
    Scan.number_of_not_decimal (by decide)
  have string : Scan.string ((0x60 : CodePoint) :: others) = 0 := by
    rw [Scan.string_cons, if_neg (by decide)]
  have blank : Scan.space ((0x60 : CodePoint) :: others) = 0 := by
    rw [Scan.space_cons]
    rfl
  have comment : Scan.comment ((0x60 : CodePoint) :: others) = 0 := Scan.comment_of_ne (by decide)
  rw [first_of_visible blank comment]
  simp [Lexeme.ofClass, Scan.classes, text, use, number, string, Scan.template, scanned,
    Terminal.ofName]

namespace Phrase

variable {text other : Text} {words later : List Word}

theorem of_word {w : Word} {c : CodePoint} {more : Text} (same : w.text = c :: more)
    (sign : c ≠ '=') (lexes : ∀ rest, Clear rest → w.Lexes rest) : Phrase w.text [w] := by
  have visible : Scan.isSpace c = false := by
    obtain ⟨⟨d, others, same', visible⟩, -⟩ := lexes [] trivial
    rw [same] at same'
    cases same'
    exact visible
  refine ⟨⟨c, more, same, visible, sign⟩, ?_⟩
  have alone : Spelt (w.text ++ []) [w] := .cons lexes .nil
  rwa [List.append_nil] at alone

theorem of_name {w : Word} (h : IsName w.text) (lexes : ∀ rest, Clear rest → w.Lexes rest) :
    Phrase w.text [w] := by
  obtain ⟨c, more, same, start, -⟩ := h.cases
  refine of_word same ?_ lexes
  rintro rfl
  exact absurd start (by decide)

theorem name {w : Text} (h : IsName w) : Phrase w [⟨.name, w⟩] :=
  of_name (w := ⟨.name, w⟩) h fun _ clear => h.lexes clear

theorem fixedWord {k : Terminal} {w : Text} (mem : (k, w) ∈ Terminal.spellings) (h : IsName w) :
    Phrase w [⟨k, w⟩] :=
  of_name (w := ⟨k, w⟩) h fun _ clear => lexes_word mem h clear

theorem number {raw : Text} (nonempty : raw ≠ []) (whole : Scan.number raw = raw.length) :
    Phrase raw [⟨.number, raw⟩] := by
  obtain ⟨c, more, rfl⟩ := List.exists_cons_of_ne_nil nonempty
  have sign : c ≠ '=' := by
    rintro rfl
    rw [Scan.number_of_not_decimal (by decide)] at whole
    cases whole
  exact of_word (w := ⟨.number, c :: more⟩) rfl sign fun rest clear =>
    lexes_number nonempty whole clear

theorem string {raw : Text} (h : Scan.IsStringToken raw) : Phrase raw [⟨.string, raw⟩] := by
  obtain ⟨c, more, rfl, visible, sign⟩ : Opened raw := by
    cases h with
    | @intro quote inside opens _ =>
      refine ⟨quote, _, rfl, ?_⟩
      rcases opens with rfl | rfl <;> exact ⟨by decide, by decide⟩
  refine of_word (w := ⟨.string, c :: more⟩) rfl sign fun rest _ => ⟨⟨c, more, rfl, visible⟩, ?_⟩
  intro usable plain admitted
  exact Scan.first_of_isStringToken h admitted.1 (plain .jsxText (by simp)) rest

theorem template {raw : Text} (nonempty : raw ≠ []) (whole : Scan.template raw = raw.length) :
    Phrase raw [⟨.template, raw⟩] := by
  obtain ⟨c, more, rfl⟩ := List.exists_cons_of_ne_nil nonempty
  have back : c = 0x60 := by
    apply Decidable.byContradiction
    intro other
    simp [Scan.template, Scan.quoted, other] at whole
  exact of_word (w := ⟨.template, c :: more⟩) rfl (back ▸ by decide) fun rest _ =>
    lexes_template nonempty whole rest

/-- A word or a sign, a space, and a phrase. -/
theorem spaced {k : Terminal} {c : CodePoint} {more : Text} (sign : c ≠ '=')
    (mem : (k, c :: more) ∈ Terminal.spellings) (h : Phrase text words) :
    Phrase (c :: more ++ " " ++ text) (⟨k, c :: more⟩ :: words) := by
  obtain ⟨d, others, same, opens, -⟩ := isSpelling_cases (spellings_shape _ mem)
  cases same
  refine ⟨⟨c, _, rfl, isSpace_of_opensNoLiteral opens, sign⟩, ?_⟩
  rw [List.append_assoc]
  exact .spaced mem h.spelt

/-- A sign directly before a phrase that does not start so as to make it longer. -/
theorem tight {k : Terminal} {c : CodePoint} {more : Text}
    (mem : (k, c :: more) ∈ Terminal.spellings) (mark : isMark (k, c :: more) = true)
    (sign : c ≠ '=') (apart : ∀ d ∈ text.head?, d ∉ followers (c :: more)) (h : Phrase text words) :
    Phrase (c :: more ++ text) (⟨k, c :: more⟩ :: words) := by
  obtain ⟨d, others, same, opens, -⟩ := isSpelling_cases (spellings_shape _ mem)
  cases same
  refine ⟨⟨c, _, rfl, isSpace_of_opensNoLiteral opens, sign⟩, ?_⟩
  simp only [isMark, Bool.and_eq_true, Bool.not_eq_true', decide_eq_true_eq] at mark
  refine Spelt.cons (v := ⟨k, c :: more⟩) (fun rest _ => ?_) h.spelt
  obtain ⟨d, others, rfl, -⟩ := h.opened
  exact lexes_mark mem mark.1.1 mark.1.2 fun e first => apart e first

end Phrase

end Hyperscript.Grammar
