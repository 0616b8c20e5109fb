import Hyperscript.Lowering.Child
import Mathlib.Data.List.DropRight

/-!
# What is left of cleaned text

Cleaning goes through the lines with an index and puts a space behind every line that it keeps but
the last one with ink on it. What comes out is a join: the lines, trimmed where they touch a line
break, without the empty ones, and with single spaces between them. From the join it can be read off
what cleaning keeps, and what it does not look at.
-/
namespace Hyperscript.Lowering.Child

def isBreak (c : CodePoint) : Bool := c = '\r' || c = '\n'

/-- Neither a space nor a tab nor part of a line break. -/
def isSolid (c : CodePoint) : Bool := isInk c && !isBreak c

/-- Nothing of a line break is in the text. -/
def Unbroken (t : Text) : Prop := ∀ c ∈ t, isBreak c = false

/-- A text and its lines. A carriage return with a line feed behind it is one line break. -/
inductive Splits : Text → List Text → Prop
  | last {line : Text} : Unbroken line → Splits line [line]
  | single {line rest : Text} {ls : List Text} {b : CodePoint} : Unbroken line →
      isBreak b = true → (b = '\r' → rest.head? ≠ some (CodePoint.ofChar '\n')) →
      Splits rest ls → Splits (line ++ b :: rest) (line :: ls)
  | double {line rest : Text} {ls : List Text} : Unbroken line → Splits rest ls →
      Splits (line ++ CodePoint.ofChar '\r' :: CodePoint.ofChar '\n' :: rest) (line :: ls)

/-- The lines trimmed where they touch a line break. The flags say that no break stands before the
first or behind the last of them. -/
def tidy (isFirst isLast : Bool) : List Text → List Text
  | [] => []
  | [line] => [trim isFirst isLast line]
  | line :: next :: rest => trim isFirst false line :: tidy false isLast (next :: rest)

/-- The trimmed lines that are not empty. -/
def kept (isFirst isLast : Bool) (ls : List Text) : List Text :=
  (tidy isFirst isLast ls).filter (!·.isEmpty)

section Lines

theorem Splits.ne_nil {t : Text} {ls : List Text} (h : Splits t ls) : ls ≠ [] := by
  cases h <;> exact List.cons_ne_nil _ _

theorem lines_of_unbroken {line t : Text} {next : Text} {others : List Text}
    (unbroken : Unbroken line) (h : lines t = next :: others) :
    lines (line ++ t) = (line ++ next) :: others := by
  induction line with
  | nil => exact h
  | cons c line ih =>
    have own : isBreak c = false := unbroken c List.mem_cons_self
    have below := ih fun d hd => unbroken d (List.mem_cons_of_mem c hd)
    unfold isBreak at own
    simp only [Bool.or_eq_false_iff, decide_eq_false_iff_not] at own
    simp only [List.cons_append, lines, own.1, own.2, decide_false, Bool.false_and, Bool.or_false,
      Bool.false_eq_true, if_false, below]

theorem Splits.lines_eq {t : Text} {ls : List Text} (h : Splits t ls) : lines t = ls := by
  induction h with
  | @last line unbroken => simpa using lines_of_unbroken (t := []) unbroken rfl
  | @single line rest ls b unbroken own alone _ ih =>
    have first : lines (b :: rest) = [] :: ls := by
      unfold isBreak at own
      simp only [lines, own, if_true, ih]
      by_cases carriage : b = '\r'
      · simp [alone carriage]
      · simp [carriage]
    simpa using lines_of_unbroken unbroken first
  | @double line rest ls unbroken _ ih =>
    have feed : CodePoint.ofChar '\n' ≠ CodePoint.ofChar '\r' := by decide
    have first : lines (CodePoint.ofChar '\r' :: CodePoint.ofChar '\n' :: rest) = [] :: ls := by
      simp [lines, feed, ih]
    simpa using lines_of_unbroken unbroken first

/-- A code point in front of a text belongs to its first line, unless it is a line break. -/
theorem Splits.cons {c : CodePoint} {t : Text} {ls : List Text} (h : Splits t ls)
    (own : isBreak c = false) : ∃ ls, Splits (c :: t) ls := by
  have more {line : Text} (unbroken : Unbroken line) : Unbroken (c :: line) :=
    List.forall_mem_cons.mpr ⟨own, unbroken⟩
  cases h with
  | last unbroken => exact ⟨_, .last (more unbroken)⟩
  | single unbroken broken alone below => exact ⟨_, .single (more unbroken) broken alone below⟩
  | double unbroken below => exact ⟨_, .double (more unbroken) below⟩

/-- The rest of a text whose first line is empty. -/
theorem Splits.behind_feed {t : Text} {ls : List Text}
    (h : Splits (CodePoint.ofChar '\n' :: t) ls) : ∃ ls, Splits t ls := by
  have feed {line rest : Text} (unbroken : Unbroken line)
      (same : CodePoint.ofChar '\n' :: t = line ++ rest) :
      rest = CodePoint.ofChar '\n' :: t := by
    cases line with
    | nil => exact same.symm
    | cons c line =>
      have broken := unbroken c List.mem_cons_self
      rw [← (List.cons.inj same).1] at broken
      cases broken
  generalize same : CodePoint.ofChar '\n' :: t = whole at h
  cases h with
  | last unbroken => cases feed unbroken (same.trans (List.append_nil _).symm)
  | single unbroken _ _ below =>
    cases feed unbroken same
    exact ⟨_, below⟩
  | double unbroken _ => cases (List.cons.inj (feed unbroken same)).1

/-- Every text has lines. -/
theorem exists_splits (t : Text) : ∃ ls, Splits t ls := by
  have empty : Unbroken [] := nofun
  induction t with
  | nil => exact ⟨_, .last empty⟩
  | cons c t ih =>
    obtain ⟨ls, below⟩ := ih
    by_cases broken : isBreak c = true
    · by_cases pair : c = '\r' ∧ t.head? = some (CodePoint.ofChar '\n')
      · obtain ⟨rfl, head⟩ := pair
        cases t with
        | nil => cases head
        | cons d t =>
          cases head
          obtain ⟨_, rest⟩ := below.behind_feed
          exact ⟨_, .double empty rest⟩
      · exact ⟨_, .single empty broken (fun carriage head => pair ⟨carriage, head⟩) below⟩
    · exact below.cons (Bool.eq_false_iff.mpr broken)

theorem splits_lines (t : Text) : Splits t (lines t) := by
  obtain ⟨ls, splits⟩ := exists_splits t
  exact splits.lines_eq.symm ▸ splits

/-- No line has a line break in it. -/
theorem Splits.unbroken {t : Text} {ls : List Text} (h : Splits t ls) :
    ∀ line ∈ ls, Unbroken line := by
  induction h with
  | last own => simpa using own
  | single own _ _ _ ih => exact List.forall_mem_cons.mpr ⟨own, ih⟩
  | double own _ ih => exact List.forall_mem_cons.mpr ⟨own, ih⟩

/-- The lines are made of everything in the text but the line breaks. -/
theorem Splits.filter_isSolid {t : Text} {ls : List Text} (h : Splits t ls) :
    ls.flatten.filter isSolid = t.filter isSolid := by
  have dropped {b : CodePoint} (own : isBreak b = true) : isSolid b = false := by
    simp [isSolid, own]
  induction h with
  | last => simp
  | single _ own _ _ ih => simp [dropped own, ih]
  | double _ _ ih =>
    have feed := dropped (b := CodePoint.ofChar '\n') rfl
    have carriage := dropped (b := CodePoint.ofChar '\r') rfl
    simp [feed, carriage, ih]

end Lines

section Trim

variable {isFirst isLast : Bool} {line w : Text}

/-- Spaces and tabs only. -/
def Faint (t : Text) : Prop := ∀ c ∈ t, isInk c = false

/-- A tab counts as a space. -/
def spaced (line : Text) : Text :=
  line.map fun c : CodePoint => if c = '\t' then CodePoint.ofChar ' ' else c

theorem isSpace_spaced (c : CodePoint) :
    isSpace (if c = '\t' then CodePoint.ofChar ' ' else c) = !isInk c := by
  by_cases tab : c = '\t'
  · subst tab; rfl
  · simp [isSpace, isInk, tab]

theorem trim_eq (isFirst isLast : Bool) (line : Text) : trim isFirst isLast line =
    let left := if isFirst then spaced line else (spaced line).dropWhile isSpace
    if isLast then left else left.rdropWhile isSpace := rfl

theorem all_isSpace_spaced : (∀ c ∈ spaced line, isSpace c = true) ↔ Faint line := by
  simp [spaced, Faint, isSpace_spaced]

/-- White space in front of a line does not show behind a line break, -/
theorem trim_prepend (faint : Faint w) (isLast : Bool) (line : Text) :
    trim false isLast (w ++ line) = trim false isLast line := by
  have dropped : (spaced (w ++ line)).dropWhile isSpace = (spaced line).dropWhile isSpace := by
    rw [spaced, List.map_append]
    exact List.dropWhile_append_of_pos (all_isSpace_spaced.mpr faint)
  simp only [trim_eq, Bool.false_eq_true, if_false, dropped]

theorem rdropWhile_append {p : CodePoint → Bool} (all : ∀ c ∈ w, p c = true) (t : Text) :
    (t ++ w).rdropWhile p = t.rdropWhile p := by
  have reversed : ∀ c ∈ w.reverse, p c = true := fun c hc => all c (List.mem_reverse.mp hc)
  unfold List.rdropWhile
  rw [List.reverse_append, List.dropWhile_append_of_pos reversed]

/-- and neither does white space behind a line in front of a line break. -/
theorem trim_append (faint : Faint w) (isFirst : Bool) (line : Text) :
    trim isFirst false (line ++ w) = trim isFirst false line := by
  have blank : ∀ c ∈ spaced w, isSpace c = true := all_isSpace_spaced.mpr faint
  have both : spaced (line ++ w) = spaced line ++ spaced w := List.map_append
  cases isFirst with
  | true => simp only [trim_eq, if_true, Bool.false_eq_true, if_false, both, rdropWhile_append blank]
  | false =>
    simp only [trim_eq, Bool.false_eq_true, if_false, both, List.dropWhile_append]
    split
    · rename_i nothing
      rw [List.isEmpty_iff.mp nothing, List.dropWhile_eq_nil_iff.mpr blank]
    · exact rdropWhile_append blank _

/-- Nothing is left of a line at a line break exactly if it has no ink. -/
theorem trim_eq_nil_iff (touches : isFirst = false ∨ isLast = false) :
    trim isFirst isLast line = [] ↔ Faint line := by
  have left : (spaced line).dropWhile isSpace = [] ↔ Faint line :=
    List.dropWhile_eq_nil_iff.trans all_isSpace_spaced
  cases isFirst with
  | true =>
    have last : isLast = false := touches.resolve_left Bool.noConfusion
    simp only [trim_eq, last, if_true, Bool.false_eq_true, if_false]
    exact List.rdropWhile_eq_nil_iff.trans all_isSpace_spaced
  | false =>
    cases isLast with
    | true => simpa only [trim_eq, if_true, Bool.false_eq_true, if_false] using left
    | false =>
      simp only [trim_eq, Bool.false_eq_true, if_false]
      rw [List.rdropWhile_eq_nil_iff, ← List.dropWhile_eq_nil_iff, List.dropWhile_idempotent, left]

theorem trim_ne_nil (inked : ¬ Faint line) (isFirst isLast : Bool) :
    trim isFirst isLast line ≠ [] := by
  by_cases touches : isFirst = false ∨ isLast = false
  · exact fun nothing => inked ((trim_eq_nil_iff touches).mp nothing)
  · simp only [not_or, Bool.not_eq_false] at touches
    rintro nothing
    rw [touches.1, touches.2] at nothing
    refine inked (all_isSpace_spaced.mp fun c hc => ?_)
    have empty : spaced line = [] := nothing
    rw [empty] at hc
    cases hc

/-- What trimming takes away satisfies a test. -/
theorem filter_dropWhile {p q : CodePoint → Bool} (apart : ∀ c, p c = true → q c = false)
    (t : Text) : (t.dropWhile p).filter q = t.filter q := by
  induction t with
  | nil => rfl
  | cons c t ih =>
    by_cases dropped : p c = true
    · rw [List.dropWhile_cons_of_pos dropped, ih, List.filter_cons_of_neg (by simp [apart c dropped])]
    · rw [List.dropWhile_cons_of_neg dropped]

theorem filter_rdropWhile {p q : CodePoint → Bool} (apart : ∀ c, p c = true → q c = false)
    (t : Text) : (t.rdropWhile p).filter q = t.filter q := by
  unfold List.rdropWhile
  rw [List.filter_reverse, filter_dropWhile apart, ← List.filter_reverse, List.reverse_reverse]

theorem filter_spaced (line : Text) : (spaced line).filter isSolid = line.filter isSolid := by
  induction line with
  | nil => rfl
  | cons c line ih =>
    unfold spaced at ih ⊢
    by_cases tab : c = '\t'
    · subst tab
      exact ih
    · rw [List.map_cons, if_neg tab, List.filter_cons, List.filter_cons, ih]

/-- Trimming leaves everything solid where it is. -/
theorem filter_trim (isFirst isLast : Bool) (line : Text) :
    (trim isFirst isLast line).filter isSolid = line.filter isSolid := by
  have apart (c : CodePoint) (space : isSpace c = true) : isSolid c = false := by
    unfold isSpace at space
    rw [of_decide_eq_true space]
    rfl
  rw [trim_eq, ← filter_spaced line]
  cases isFirst <;> cases isLast <;>
    simp only [if_true, Bool.false_eq_true, if_false, filter_dropWhile apart,
      filter_rdropWhile apart]

theorem trim_subset (isFirst isLast : Bool) (line : Text) :
    trim isFirst isLast line ⊆ spaced line := by
  have left : (spaced line).dropWhile isSpace ⊆ spaced line := List.dropWhile_subset _
  have right (t : Text) : t.rdropWhile isSpace ⊆ t := (List.rdropWhile_prefix isSpace t).subset
  rw [trim_eq]
  cases isFirst <;> cases isLast
  · exact List.Subset.trans (right _) left
  · exact left
  · exact right _
  · exact List.Subset.refl _

theorem mem_spaced {c : CodePoint} (h : c ∈ spaced line) : c ≠ '\t' ∧ (c = ' ' ∨ c ∈ line) := by
  obtain ⟨d, inside, rfl⟩ := List.mem_map.mp h
  by_cases tab : d = '\t'
  · rw [if_pos tab]
    exact ⟨by decide, .inl rfl⟩
  · rw [if_neg tab]
    exact ⟨tab, .inr inside⟩

end Trim

section Kept

variable {isFirst isLast : Bool}

theorem tidy_append {xs ys : List Text} (front : xs ≠ []) (back : ys ≠ []) :
    tidy isFirst isLast (xs ++ ys) = tidy isFirst false xs ++ tidy false isLast ys := by
  fun_induction tidy isFirst false xs with
  | case1 => exact absurd rfl front
  | case2 isFirst x =>
    cases ys with
    | nil => exact absurd rfl back
    | cons y ys => rfl
  | case3 isFirst x next xs ih =>
    rw [List.cons_append, List.cons_append, tidy, ← List.cons_append, ih (List.cons_ne_nil _ _)]
    rfl

theorem kept_append {xs ys : List Text} (front : xs ≠ []) (back : ys ≠ []) :
    kept isFirst isLast (xs ++ ys) = kept isFirst false xs ++ kept false isLast ys := by
  rw [kept, tidy_append front back, List.filter_append]
  rfl

/-- The trimmed lines, each by its number. -/
theorem tidy_eq_map (ls : List Text) (k : Nat) :
    tidy (k = 0) true ls = (ls.zipIdx k).map fun entry =>
      trim (entry.2 = 0) (entry.2 + 1 = k + ls.length) entry.1 := by
  induction ls generalizing k with
  | nil => rfl
  | cons line rest ih =>
    cases rest with
    | nil => simp [tidy]
    | cons next rest =>
      have later := ih (k + 1)
      have length : k + 1 + (next :: rest).length = k + (line :: next :: rest).length := by
        simp only [List.length_cons]; omega
      have inner : ¬ k + 1 = k + (line :: next :: rest).length := by
        simp only [List.length_cons]; omega
      simp only [Nat.add_eq_zero_iff, Nat.one_ne_zero, and_false, decide_false, length] at later
      have numbered : (line :: next :: rest).zipIdx k =
          (line, k) :: (next :: rest).zipIdx (k + 1) := List.zipIdx_cons
      rw [tidy, later, numbered, List.map_cons]
      simp only [inner, decide_false]

/-- There is nothing on the first line, so it only separates. -/
theorem kept_cons_nil {ls : List Text} (more : ls ≠ []) :
    kept isFirst isLast ([] :: ls) = kept false isLast ls := by
  have nothing : trim isFirst false [] = [] := (trim_eq_nil_iff (.inr rfl)).mpr nofun
  cases ls with
  | nil => exact absurd rfl more
  | cons line ls => simp [kept, tidy, nothing]

theorem kept_singleton (line : Text) : kept isFirst isLast [line] =
    if (trim isFirst isLast line).isEmpty then [] else [trim isFirst isLast line] := by
  unfold kept tidy
  cases trim isFirst isLast line <;> rfl

/-- What is kept does not depend on which breaks are taken together: an empty line more or less
between two breaks makes no difference. -/
theorem Splits.kept_eq {t : Text} {ls : List Text} (h : Splits t ls) :
    kept isFirst isLast ls = kept isFirst isLast (t.splitOnP isBreak) := by
  induction h generalizing isFirst with
  | last unbroken => rw [List.splitOnP_eq_singleton unbroken]
  | @single line rest ls b unbroken own _ below ih =>
    have more := List.splitOnP_ne_nil isBreak rest
    rw [List.splitOnP_append_cons _ _ own, List.splitOnP_eq_singleton unbroken,
      kept_append (List.cons_ne_nil _ _) more, ← ih]
    exact kept_append (List.cons_ne_nil line []) below.ne_nil
  | @double line rest ls unbroken below ih =>
    have more := List.splitOnP_ne_nil isBreak rest
    have feed : (CodePoint.ofChar '\n' :: rest).splitOnP isBreak = [] :: rest.splitOnP isBreak :=
      List.splitOnP_append_cons (p := isBreak) [] rest rfl
    rw [List.splitOnP_append_cons _ _ rfl, List.splitOnP_eq_singleton unbroken, feed,
      kept_append (List.cons_ne_nil _ _) (List.cons_ne_nil _ _), kept_cons_nil more, ← ih]
    exact kept_append (List.cons_ne_nil line []) below.ne_nil

end Kept

section Join

def withSpace (line : Text) : Text := line ++ " "

/-- A line that is kept, with a space behind it unless it is the last one with ink. -/
def spacedBehind (last : Nat) (entry : Text × Nat) : Text :=
  if entry.1.isEmpty || entry.2 = last then entry.1 else withSpace entry.1

theorem join_concat (parts : List Text) (part : Text) :
    Text.join " " (parts ++ [part]) = parts.flatMap withSpace ++ part := by
  induction parts with
  | nil => simp [Text.join, List.intercalate]
  | cons first rest ih =>
    unfold Text.join at ih ⊢
    cases rest with
    | nil => simp [List.intercalate, withSpace]
    | cons second rest =>
      have outer : (first :: second :: rest).flatMap withSpace =
          withSpace first ++ (second :: rest).flatMap withSpace := List.flatMap_cons
      rw [List.cons_append, List.cons_append, List.intercalate_cons_cons, ← List.cons_append, ih,
        outer]
      simp [withSpace]

theorem flatten_before {before : List Text} {k last : Nat} (h : k + before.length ≤ last) :
    ((before.zipIdx k).map (spacedBehind last)).flatten =
      (before.filter (!·.isEmpty)).flatMap withSpace := by
  induction before generalizing k with
  | nil => rfl
  | cons line before ih =>
    rw [List.length_cons] at h
    have other : k ≠ last := by omega
    rw [List.zipIdx_cons, List.map_cons, List.flatten_cons, ih (by omega)]
    cases line with
    | nil => rfl
    | cons c line => simp [spacedBehind, other]

theorem flatten_behind {after : List Text} (k last : Nat) (empty : ∀ line ∈ after, line = []) :
    ((after.zipIdx k).map (spacedBehind last)).flatten = [] := by
  induction after generalizing k with
  | nil => rfl
  | cons line after ih =>
    have own : line = [] := empty line List.mem_cons_self
    rw [List.zipIdx_cons, List.map_cons, List.flatten_cons,
      ih _ fun l hl => empty l (List.mem_cons_of_mem line hl), own]
    rfl

/-- The spaces behind the lines are those of a join. -/
theorem flatten_spacedBehind {before after : List Text} {line : Text} (inked : line ≠ [])
    (empty : ∀ l ∈ after, l = []) :
    ((before ++ line :: after).zipIdx.map (spacedBehind before.length)).flatten =
      Text.join " " ((before ++ line :: after).filter (!·.isEmpty)) := by
  have nothing : after.filter (!·.isEmpty) = [] := by
    rw [List.filter_eq_nil_iff]
    intro l hl
    rw [empty l hl]
    exact Bool.false_ne_true
  have own : (line :: after).filter (!·.isEmpty) = [line] := by
    cases line with
    | nil => exact absurd rfl inked
    | cons c line => exact congrArg ((c :: line) :: ·) nothing
  rw [List.zipIdx_append, List.map_append, List.flatten_append, List.zipIdx_cons, List.map_cons,
    List.flatten_cons, flatten_before (by omega), flatten_behind _ _ empty, List.filter_append,
    own, join_concat]
  simp [spacedBehind]

end Join

section Last

theorem faint_iff {line : Text} : Faint line ↔ line.any isInk = false := by
  simp only [Faint, List.any_eq_false, Bool.not_eq_true]

/-- The last line with ink is what the search for it finds. -/
theorem lastInked_append {before after : List Text} {line : Text} (inked : ¬ Faint line)
    (faint : ∀ l ∈ after, Faint l) : lastInked (before ++ line :: after) = before.length := by
  have own : line.any isInk = true := by rwa [faint_iff, Bool.not_eq_false] at inked
  have behind (k d : Nat) : (after.zipIdx k).foldl
      (fun last entry => if entry.1.any isInk then entry.2 else last) d = d := by
    induction after generalizing k with
    | nil => rfl
    | cons l after ih =>
      rw [List.zipIdx_cons, List.foldl_cons, faint_iff.mp (faint l List.mem_cons_self)]
      exact ih (fun m hm => faint m (List.mem_cons_of_mem l hm)) (k + 1)
  unfold lastInked
  rw [List.zipIdx_append, List.foldl_append, List.zipIdx_cons, List.foldl_cons, own, behind]
  exact Nat.zero_add _

/-- The lines have a last one with ink, or there is no ink on any of them. -/
theorem exists_last_inked (ls : List Text) : (∀ line ∈ ls, Faint line) ∨
    ∃ before line after, ls = before ++ line :: after ∧ ¬ Faint line ∧ ∀ l ∈ after, Faint l := by
  induction ls with
  | nil => exact .inl nofun
  | cons first rest ih =>
    rcases ih with faint | ⟨before, line, after, rfl, inked, faint⟩
    · by_cases own : Faint first
      · exact .inl (List.forall_mem_cons.mpr ⟨own, faint⟩)
      · exact .inr ⟨[], first, rest, rfl, own, faint⟩
    · exact .inr ⟨first :: before, line, after, rfl, inked, faint⟩

/-- Lines without ink leave nothing where they touch a line break. -/
theorem tidy_of_faint {isFirst isLast : Bool} {ls : List Text} (faint : ∀ line ∈ ls, Faint line)
    (touches : isFirst = false ∨ isLast = false ∨ 1 < ls.length) :
    ∀ line ∈ tidy isFirst isLast ls, line = [] := by
  fun_induction tidy isFirst isLast ls with
  | case1 => exact nofun
  | case2 isFirst line =>
    have alone : isFirst = false ∨ isLast = false := by simpa using touches
    have own := (trim_eq_nil_iff alone).mpr (faint line List.mem_cons_self)
    simpa using own
  | case3 isFirst line next rest ih =>
    have own : trim isFirst false line = [] :=
      (trim_eq_nil_iff (.inr rfl)).mpr (faint line List.mem_cons_self)
    have below := ih (fun l hl => faint l (List.mem_cons_of_mem line hl)) (.inl rfl)
    exact List.forall_mem_cons.mpr ⟨own, below⟩

theorem kept_of_faint {isFirst isLast : Bool} {ls : List Text} (faint : ∀ line ∈ ls, Faint line)
    (touches : isFirst = false ∨ isLast = false ∨ 1 < ls.length) : kept isFirst isLast ls = [] := by
  unfold kept
  rw [List.filter_eq_nil_iff]
  intro line member
  rw [tidy_of_faint faint touches line member]
  exact Bool.false_ne_true

/-- The last trimmed line with something on it has the number of the last line with ink. -/
theorem tidy_split {before after : List Text} {line : Text} (inked : ¬ Faint line)
    (faint : ∀ l ∈ after, Faint l) : ∃ front trimmed back,
      tidy true true (before ++ line :: after) = front ++ trimmed :: back ∧
      front.length = before.length ∧ trimmed ≠ [] ∧ ∀ l ∈ back, l = [] := by
  have numbered := tidy_eq_map (before ++ line :: after) 0
  rw [List.zipIdx_append, List.zipIdx_cons, List.map_append, List.map_cons] at numbered
  refine ⟨_, _, _, numbered, by simp, trim_ne_nil inked _ _, ?_⟩
  intro l hl
  obtain ⟨entry, member, rfl⟩ := List.mem_map.mp hl
  have later : entry.2 ≠ 0 := by
    have := List.le_snd_of_mem_zipIdx member
    omega
  exact (trim_eq_nil_iff (.inl (decide_eq_false later))).mpr
    (faint _ (List.fst_mem_of_mem_zipIdx member))

theorem zipIdx_tidy (ls : List Text) : (tidy true true ls).zipIdx = ls.zipIdx.map fun entry =>
    (trim (entry.2 = 0) (entry.2 + 1 = ls.length) entry.1, entry.2) := by
  have numbered := tidy_eq_map ls 0
  simp only [decide_true, Nat.zero_add] at numbered
  rw [numbered]
  refine List.ext_getElem (by simp) ?_
  intro i _ _
  simp

theorem clean_eq_flatten (t : Text) : clean t =
    (some ((tidy true true (lines t)).zipIdx.map
      (spacedBehind (lastInked (lines t)))).flatten).filter (!·.isEmpty) := by
  rw [zipIdx_tidy, List.map_map]
  unfold clean
  dsimp only
  split
  · rename_i empty
    exact (congrArg (fun text : Text => (some text).filter (!·.isEmpty)) empty).symm
  · rename_i some_left
    refine (Option.filter_eq_some_iff.mpr ⟨rfl, ?_⟩).symm
    rw [Bool.not_eq_true', List.isEmpty_eq_false_iff]
    exact some_left

/-- The two ways to tell which lines are empty agree: the last line with ink is the last one that
is kept. -/
theorem clean_lines (t : Text) : clean t =
    (some (Text.join " " (kept true true (lines t)))).filter (!·.isEmpty) := by
  rw [clean_eq_flatten]
  refine congrArg (fun text : Text => (some text).filter (!·.isEmpty)) ?_
  have more := (splits_lines t).ne_nil
  generalize lines t = ls at more
  rcases exists_last_inked ls with faint | ⟨before, line, after, rfl, inked, faint⟩
  · by_cases several : 1 < ls.length
    · have touches : true = false ∨ true = false ∨ 1 < ls.length := .inr (.inr several)
      rw [kept_of_faint faint touches, flatten_behind _ _ (tidy_of_faint faint touches)]
      rfl
    · obtain ⟨line, rfl⟩ : ∃ line, ls = [line] := by
        refine List.length_eq_one_iff.mp ?_
        have := List.length_pos_of_ne_nil more
        omega
      have first : lastInked [line] = 0 := ite_self _
      rw [first, kept_singleton, tidy]
      cases trim true true line with
      | nil => rfl
      | cons c rest => simp [spacedBehind, Text.join, List.intercalate]
  · obtain ⟨front, trimmed, back, split, length, nonempty, empty⟩ := tidy_split inked faint
    rw [lastInked_append inked faint, kept, split, ← length]
    exact flatten_spacedBehind nonempty empty

end Last

section Results

variable {t u v w s : Text} {isFirst isLast : Bool}

theorem mem_join {c : CodePoint} {parts : List Text} (h : c ∈ Text.join " " parts) :
    c = ' ' ∨ ∃ part ∈ parts, c ∈ part := by
  unfold Text.join at h
  induction parts with
  | nil => cases h
  | cons first rest ih =>
    cases rest with
    | nil => exact .inr ⟨first, List.mem_cons_self, by simpa [List.intercalate] using h⟩
    | cons second rest =>
      rw [List.intercalate_cons_cons, List.append_assoc, List.mem_append, List.mem_append] at h
      rcases h with own | space | later
      · exact .inr ⟨first, List.mem_cons_self, own⟩
      · exact .inl (List.mem_singleton.mp space)
      · exact (ih later).imp_right fun ⟨part, member, inside⟩ =>
          ⟨part, List.mem_cons_of_mem first member, inside⟩

theorem mem_tidy {ls : List Text} {part : Text} (h : part ∈ tidy isFirst isLast ls) :
    ∃ line ∈ ls, part ⊆ spaced line := by
  fun_induction tidy isFirst isLast ls with
  | case1 => cases h
  | case2 isFirst line =>
    rw [List.mem_singleton.mp h]
    exact ⟨line, List.mem_cons_self, trim_subset _ _ line⟩
  | case3 isFirst line next rest ih =>
    rcases List.mem_cons.mp h with rfl | later
    · exact ⟨line, List.mem_cons_self, trim_subset _ _ line⟩
    · obtain ⟨other, member, inside⟩ := ih later
      exact ⟨other, List.mem_cons_of_mem line member, inside⟩

theorem filter_tidy (ls : List Text) :
    (tidy isFirst isLast ls).flatten.filter isSolid = ls.flatten.filter isSolid := by
  fun_induction tidy isFirst isLast ls with
  | case1 => rfl
  | case2 isFirst line => simp [filter_trim]
  | case3 isFirst line next rest ih =>
    rw [List.flatten_cons, List.filter_append, filter_trim, ih, ← List.filter_append,
      ← List.flatten_cons]

theorem filter_join (parts : List Text) :
    (Text.join " " parts).filter isSolid = parts.flatten.filter isSolid := by
  have space : (Text.ofString " ").filter isSolid = [] := rfl
  unfold Text.join
  induction parts with
  | nil => rfl
  | cons first rest ih =>
    cases rest with
    | nil => simp [List.intercalate]
    | cons second rest =>
      rw [List.intercalate_cons_cons, List.filter_append, List.filter_append, space,
        List.append_nil, ih, ← List.filter_append, ← List.flatten_cons]

theorem getD_filter (text : Text) : ((some text).filter (!·.isEmpty)).getD [] = text := by
  cases text <;> rfl

theorem filter_clean (t : Text) : ((clean t).getD []).filter isSolid = t.filter isSolid := by
  rw [clean_lines, getD_filter, filter_join, kept, List.flatten_filter_not_isEmpty, filter_tidy,
    (splits_lines t).filter_isSolid]

/-- A text on one line without tabs is clean. -/
theorem clean_of_plain (nonempty : s ≠ []) (plain : ∀ c ∈ s, c ≠ '\t' ∧ isBreak c = false) :
    clean s = some s := by
  have own : trim true true s = s := by
    have same : spaced s = s := by
      refine (List.map_congr_left fun c hc => ?_).trans (List.map_id s)
      exact if_neg (plain c hc).1
    exact same
  have single : Splits s [s] := .last fun c hc => (plain c hc).2
  rw [clean_lines, single.lines_eq, kept_singleton, own]
  cases s with
  | nil => exact absurd rfl nonempty
  | cons c s => simp [Text.join, List.intercalate]

/-- What is left of a text is on one line and has no tabs. -/
theorem plain_of_clean (h : clean t = some s) :
    s ≠ [] ∧ ∀ c ∈ s, c ≠ '\t' ∧ isBreak c = false := by
  rw [clean_lines, Option.filter_eq_some_iff] at h
  obtain ⟨same, nonempty⟩ := h
  cases Option.some.inj same
  refine ⟨fun empty => ?_, fun c hc => ?_⟩
  · rw [empty] at nonempty
    cases nonempty
  rcases mem_join hc with rfl | ⟨part, member, inside⟩
  · exact ⟨by decide, rfl⟩
  · obtain ⟨line, own, below⟩ := mem_tidy (List.mem_of_mem_filter member)
    obtain ⟨tab, space | found⟩ := mem_spaced (below inside)
    · exact ⟨tab, space ▸ rfl⟩
    · exact ⟨tab, (splits_lines t).unbroken line own c found⟩

theorem clean_eq (t : Text) : clean t =
    (some (Text.join " " (kept true true (t.splitOnP isBreak)))).filter (!·.isEmpty) := by
  rw [clean_lines, (splits_lines t).kept_eq]

/-- What stands before a line break and what stands behind it are kept independently. -/
theorem kept_at_break {b : CodePoint} (broken : isBreak b = true) (u v : Text) :
    kept true true ((u ++ b :: v).splitOnP isBreak) =
      kept true false (u.splitOnP isBreak) ++ kept false true (v.splitOnP isBreak) := by
  rw [List.splitOnP_append_cons u v broken,
    kept_append (List.splitOnP_ne_nil _ _) (List.splitOnP_ne_nil _ _)]

theorem Faint.unbroken (faint : Faint w) : Unbroken w := by
  intro c hc
  by_cases space : c = ' '
  · rw [space]; rfl
  · by_cases tab : c = '\t'
    · rw [tab]; rfl
    · have inked := faint c hc
      simp [isInk, space, tab] at inked

theorem split_prepend (unbroken : Unbroken w) (v : Text) : ∃ line rest,
    v.splitOnP isBreak = line :: rest ∧ (w ++ v).splitOnP isBreak = (w ++ line) :: rest := by
  obtain ⟨line, rest, split⟩ := List.exists_cons_of_ne_nil (List.splitOnP_ne_nil isBreak v)
  refine ⟨line, rest, split, ?_⟩
  induction w with
  | nil => exact split
  | cons c w ih =>
    have below := ih fun d hd => unbroken d (List.mem_cons_of_mem c hd)
    have own := unbroken c List.mem_cons_self
    rw [List.cons_append, List.splitOnP_cons_eq_if_modifyHead, below, own]
    rfl

theorem split_append (unbroken : Unbroken w) (u : Text) : ∃ front line,
    u.splitOnP isBreak = front ++ [line] ∧ (u ++ w).splitOnP isBreak = front ++ [line ++ w] := by
  induction u with
  | nil => exact ⟨[], [], rfl, by rw [List.nil_append, List.splitOnP_eq_singleton unbroken]; rfl⟩
  | cons c u ih =>
    obtain ⟨front, line, split, longer⟩ := ih
    rw [List.cons_append, List.splitOnP_cons_eq_if_modifyHead, List.splitOnP_cons_eq_if_modifyHead,
      split, longer]
    by_cases broken : isBreak c = true
    · rw [if_pos broken, if_pos broken]
      exact ⟨[] :: front, line, rfl, rfl⟩
    · rw [if_neg broken, if_neg broken]
      cases front with
      | nil => exact ⟨[], c :: line, rfl, rfl⟩
      | cons first front => exact ⟨(c :: first) :: front, line, rfl, rfl⟩

/-- White space next to a line break is not kept. -/
theorem kept_prepend (faint : Faint w) (v : Text) :
    kept false isLast ((w ++ v).splitOnP isBreak) = kept false isLast (v.splitOnP isBreak) := by
  obtain ⟨line, rest, split, longer⟩ := split_prepend faint.unbroken v
  rw [split, longer]
  unfold kept
  cases rest <;> simp only [tidy, trim_prepend faint]

theorem kept_behind (faint : Faint w) (u : Text) :
    kept isFirst false ((u ++ w).splitOnP isBreak) = kept isFirst false (u.splitOnP isBreak) := by
  obtain ⟨front, line, split, longer⟩ := split_append faint.unbroken u
  have same (isFirst : Bool) : kept isFirst false [line ++ w] = kept isFirst false [line] := by
    rw [kept_singleton, kept_singleton, trim_append faint]
  rw [split, longer]
  cases front with
  | nil => exact same isFirst
  | cons first front =>
    rw [kept_append (List.cons_ne_nil _ _) (List.cons_ne_nil _ _), same,
      ← kept_append (List.cons_ne_nil _ _) (List.cons_ne_nil _ _)]

/-- Without anything solid there is nothing to keep next to a line break. -/
theorem kept_of_not_solid (none : ∀ c ∈ t, isSolid c = false)
    (touches : isFirst = false ∨ isLast = false) :
    kept isFirst isLast (t.splitOnP isBreak) = [] := by
  rw [← (splits_lines t).kept_eq]
  apply kept_of_faint _ (touches.imp_right .inl)
  intro line member c hc
  have nothing : (lines t).flatten.filter isSolid = [] := by
    rw [(splits_lines t).filter_isSolid, List.filter_eq_nil_iff]
    exact fun d hd => Bool.eq_false_iff.mp (none d hd)
  have faint : isSolid c = false :=
    Bool.eq_false_iff.mpr (List.filter_eq_nil_iff.mp nothing c (List.mem_flatten_of_mem member hc))
  simpa [isSolid, (splits_lines t).unbroken line member c hc] using faint

end Results

/-- Cleaning a text joins its trimmed lines with single spaces, leaving out the empty ones. So what
is left is clean, everything solid stays, a text of white space with a line break in it vanishes,
and white space next to a line break makes no difference. -/
theorem clean_joins_lines (t : Text) :
    (∃ ls, Splits t ls ∧ ∀ other, Splits t other → other = ls) ∧
    (∀ ls, Splits t ls → clean t =
      (some (Text.join " " ((tidy true true ls).filter (!·.isEmpty)))).filter (!·.isEmpty)) ∧
    (∀ s, clean t = some s → clean s = some s) ∧
    ((clean t).getD []).filter isSolid = t.filter isSolid ∧
    ((∀ c ∈ t, isSolid c = false) → (∃ c ∈ t, isBreak c = true) → clean t = none) ∧
    (∀ u b v, t = u ++ b :: v → isBreak b = true → ∀ w, (∀ c ∈ w, isInk c = false) →
      clean (u ++ w ++ b :: v) = clean t ∧ clean (u ++ b :: (w ++ v)) = clean t) := by
  refine ⟨⟨lines t, splits_lines t, fun ls splits => splits.lines_eq.symm⟩, ?_, ?_, filter_clean t,
    ?_, ?_⟩
  · intro ls splits
    rw [clean_lines, splits.lines_eq]
    rfl
  · intro s left
    obtain ⟨nonempty, plain⟩ := plain_of_clean left
    exact clean_of_plain nonempty plain
  · rintro none ⟨b, member, broken⟩
    obtain ⟨u, v, rfl⟩ := List.append_of_mem member
    have front : ∀ c ∈ u, isSolid c = false := fun c hc => none c (List.mem_append_left _ hc)
    have back : ∀ c ∈ v, isSolid c = false := fun c hc =>
      none c (List.mem_append_right _ (List.mem_cons_of_mem b hc))
    rw [clean_eq, kept_at_break broken, kept_of_not_solid front (.inr rfl),
      kept_of_not_solid back (.inl rfl)]
    rfl
  · rintro u b v rfl broken w faint
    constructor
    · rw [clean_eq, clean_eq, kept_at_break broken, kept_at_break broken, kept_behind faint]
    · rw [clean_eq, clean_eq, kept_at_break broken, kept_at_break broken, kept_prepend faint]

/-- Three lines, of which the second is blank. -/
def blankBetween : Text := "\ta \r\n \n b\t"

theorem clean_joins_lines_blankBetween :
    clean blankBetween = some (Text.ofString " a b ") ∧
    clean " a b " = some (Text.ofString " a b ") ∧
    (Text.ofString " a b ").filter isSolid = blankBetween.filter isSolid ∧
    clean "\ta \r\t\n \n b\t" = some (Text.ofString " a b ") ∧
    clean "\ta \r \t\n \n b\t" = some (Text.ofString " a b ") ∧
    clean " \r\n\t" = none := by
  obtain ⟨-, joins, again, solid, -, beside⟩ := clean_joins_lines blankBetween
  have splits : Splits blankBetween
      [Text.ofString "\ta ", Text.ofString " ", Text.ofString " b\t"] := by
    have three : lines blankBetween =
        [Text.ofString "\ta ", Text.ofString " ", Text.ofString " b\t"] := by decide +kernel
    exact three ▸ splits_lines blankBetween
  have cleaned : clean blankBetween = some (Text.ofString " a b ") :=
    (joins _ splits).trans (by decide +kernel)
  rw [cleaned] at solid
  have between (w : Text) (faint : w.all (!isInk ·) = true) :=
    (beside "\ta \r" '\n' " \n b\t" (by decide +kernel) rfl w (by simpa using faint)).1
  refine ⟨cleaned, again _ cleaned, solid, ?_, ?_, ?_⟩
  · exact (between "\t" (by decide +kernel)).trans cleaned
  · exact (between " \t" (by decide +kernel)).trans cleaned
  · obtain ⟨-, -, -, -, vanishes, -⟩ := clean_joins_lines " \r\n\t"
    have blank : (Text.ofString " \r\n\t").all (!isSolid ·) = true := by decide +kernel
    exact vanishes (by simpa using blank) ⟨'\n', by decide +kernel, rfl⟩

end Hyperscript.Lowering.Child
