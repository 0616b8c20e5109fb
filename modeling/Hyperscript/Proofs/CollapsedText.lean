import Hyperscript.Lowering.Attribute
import Mathlib.Data.List.Pairwise
import Mathlib.Data.List.SplitBy
import Mathlib.Data.List.TakeWhile

/-!
# What is left of collapsed text

The value of an attribute is collapsed in one pass from left to right. Spaces are written next to
text that can itself begin or end with white space, so it is not plain that nothing is left to
collapse. The pass is compared with what it does to each run of white space on its own: a run is cut
at its first line feed, and what is cut off becomes a space if it is more than that line feed.
-/
namespace Hyperscript.Lowering.Attribute

def isFeed (c : CodePoint) : Bool := c = '\n'

/-- No line feed has white space right behind it. -/
def Settled (t : Text) : Prop := t.IsChain fun a b => ¬ (isFeed a = true ∧ b.isBlank = true)

/-- Both are white space, or neither is. -/
def sameKind (a b : CodePoint) : Bool := a.isBlank == b.isBlank

/-- The longest stretches of white space and of anything else, in order. -/
def runs (t : Text) : List Text := t.splitBy sameKind

/-- A run with a space in place of what begins with its first line feed, if that is more than the
line feed alone. -/
def squeeze (run : Text) : Text :=
  if 2 ≤ (run.dropWhile (!isFeed ·)).length then run.takeWhile (!isFeed ·) ++ " " else run

section Settled

variable {c : CodePoint} {t : Text}

theorem isBlank_of_isFeed (feed : isFeed c = true) : c.isBlank = true := by
  obtain rfl : c = '\n' := of_decide_eq_true feed
  decide

/-- The text begins with white space. -/
def beginsBlank (t : Text) : Bool := t.head?.any CodePoint.isBlank

theorem collapse_cons_of_feed (feed : isFeed c = true) (blank : beginsBlank t = true) :
    collapseFrom false (c :: t) = CodePoint.ofChar ' ' :: collapseFrom true t := by
  rw [collapseFrom, if_pos]
  rw [isFeed] at feed
  rw [feed]
  exact blank

theorem collapse_cons_of_not_feed (own : ¬ (isFeed c = true ∧ beginsBlank t = true)) :
    collapseFrom false (c :: t) = c :: collapseFrom false t := by
  rw [collapseFrom, if_neg]
  rwa [Bool.and_eq_true]

theorem collapse_cons_of_not_isBlank (ink : c.isBlank = false) (t : Text) :
    collapseFrom false (c :: t) = c :: collapseFrom false t :=
  collapse_cons_of_not_feed fun feed => by simp [isBlank_of_isFeed feed.1] at ink

/-- After the space for a line feed the rest of its white space is skipped. -/
theorem collapseFrom_true (t : Text) :
    collapseFrom true t = collapseFrom false (t.dropWhile CodePoint.isBlank) := by
  induction t with
  | nil => rfl
  | cons c t ih =>
    rw [collapseFrom]
    split
    · rename_i own
      rw [ih, List.dropWhile_cons_of_pos own]
    · rename_i own
      rw [List.dropWhile_cons_of_neg own,
        collapse_cons_of_not_isBlank (Bool.eq_false_iff.mpr own)]

theorem beginsBlank_collapse (t : Text) : beginsBlank (collapse t) = beginsBlank t := by
  cases t with
  | nil => rfl
  | cons c t =>
    by_cases own : isFeed c = true ∧ beginsBlank t = true
    · have feed : c.isBlank = true := isBlank_of_isFeed own.1
      rw [collapse, collapse_cons_of_feed own.1 own.2]
      exact feed.symm
    · rw [collapse, collapse_cons_of_not_feed own]
      rfl

theorem settled_cons_iff :
    Settled (c :: t) ↔ ¬ (isFeed c = true ∧ beginsBlank t = true) ∧ Settled t := by
  cases t <;> simp [Settled, beginsBlank]

theorem settled_collapseFrom (skips : Bool) (t : Text) : Settled (collapseFrom skips t) := by
  induction t generalizing skips with
  | nil => cases skips <;> exact List.isChain_nil
  | cons c t ih =>
    have copied (own : ¬ (isFeed c = true ∧ beginsBlank t = true)) :
        Settled (c :: collapseFrom false t) :=
      settled_cons_iff.mpr ⟨fun feed => own (beginsBlank_collapse t ▸ feed), ih false⟩
    cases skips with
    | true =>
      rw [collapseFrom]
      split
      · exact ih true
      · rename_i own
        exact copied fun feed => own (isBlank_of_isFeed feed.1)
    | false =>
      by_cases own : isFeed c = true ∧ beginsBlank t = true
      · rw [collapse_cons_of_feed own.1 own.2]
        have space : isFeed ' ' = false := by decide
        exact settled_cons_iff.mpr ⟨fun feed => by simp [space] at feed, ih true⟩
      · rw [collapse_cons_of_not_feed own]
        exact copied own

theorem collapse_of_settled (h : Settled t) : collapse t = t := by
  induction t with
  | nil => rfl
  | cons c t ih =>
    obtain ⟨own, below⟩ := settled_cons_iff.mp h
    rw [collapse, collapse_cons_of_not_feed own]
    exact congrArg (c :: ·) (ih below)

theorem collapse_eq_self_iff : collapse t = t ↔ Settled t :=
  ⟨fun same => same ▸ settled_collapseFrom false t, collapse_of_settled⟩

/-- Only white space is written and left out. -/
theorem filter_collapseFrom (skips : Bool) (t : Text) :
    (collapseFrom skips t).filter (!·.isBlank) = t.filter (!·.isBlank) := by
  induction t generalizing skips with
  | nil => cases skips <;> rfl
  | cons c t ih =>
    have dropped {d : CodePoint} (own : d.isBlank = true) (t : Text) :
        (d :: t).filter (!·.isBlank) = t.filter (!·.isBlank) :=
      List.filter_cons_of_neg (by simp [own])
    cases skips with
    | true =>
      rw [collapseFrom]
      split
      · rename_i own
        rw [ih, dropped own]
      · rw [List.filter_cons, List.filter_cons, ih]
    | false =>
      by_cases own : isFeed c = true ∧ beginsBlank t = true
      · have space : (CodePoint.ofChar ' ').isBlank = true := by decide
        rw [collapse_cons_of_feed own.1 own.2, dropped space, ih, dropped (isBlank_of_isFeed own.1)]
      · rw [collapse_cons_of_not_feed own, List.filter_cons, List.filter_cons, ih]

end Settled

section Runs

variable {kind : Bool} {w v : Text}

/-- All white space, or all anything else. -/
def Uniform (kind : Bool) (w : Text) : Prop := ∀ c ∈ w, c.isBlank = kind

/-- White space is followed by something else, and the other way round. -/
def Turns (kind : Bool) (v : Text) : Prop := ∀ c ∈ v.head?, c.isBlank = !kind

/-- Induction on the longest stretches of one kind. -/
theorem runInduction {motive : Text → Prop} (nil : motive [])
    (run : ∀ kind w v, w ≠ [] → Uniform kind w → Turns kind v → motive v → motive (w ++ v))
    (t : Text) : motive t := by
  induction size : t.length using Nat.strong_induction_on generalizing t with
  | _ n ih =>
    subst size
    cases t with
    | nil => exact nil
    | cons c t =>
      have split : c :: t = (c :: t.takeWhile (sameKind c)) ++ t.dropWhile (sameKind c) := by
        rw [List.cons_append, List.takeWhile_append_dropWhile]
      have uniform : Uniform c.isBlank (c :: t.takeWhile (sameKind c)) := by
        refine List.forall_mem_cons.mpr ⟨rfl, fun d hd => ?_⟩
        exact (eq_of_beq (List.mem_takeWhile_imp (p := sameKind c) hd)).symm
      have turns : Turns c.isBlank (t.dropWhile (sameKind c)) := by
        intro d hd
        have other := List.head?_dropWhile_not (sameKind c) t
        rw [Option.mem_def.mp hd] at other
        exact Bool.eq_not.mpr fun same => by simp [sameKind, same] at other
      have shorter : (t.dropWhile (sameKind c)).length < (c :: t).length :=
        Nat.lt_succ_of_le (List.dropWhile_suffix _).length_le
      rw [split]
      exact run c.isBlank _ _ (List.cons_ne_nil _ _) uniform turns (ih _ shorter _ rfl)

theorem runs_append (nonempty : w ≠ []) (uniform : Uniform kind w) (turns : Turns kind v) :
    runs (w ++ v) = w :: runs v := by
  have seam : ∀ a ∈ w.getLast?, ∀ b ∈ v.head?, sameKind a b = false := by
    intro a ha b hb
    simp [sameKind, uniform a (List.mem_of_mem_getLast? ha), turns b hb]
  have chain : w.IsChain fun a b => sameKind a b = true := by
    refine (List.pairwise_of_forall_mem_list ?_).isChain
    intro a ha b hb
    simp [sameKind, uniform a ha, uniform b hb]
  rw [runs, List.splitBy_append seam, List.splitBy_of_isChain nonempty chain]
  rfl

theorem collapse_append_of_no_feed (none : ∀ c ∈ w, isFeed c = false) (v : Text) :
    collapse (w ++ v) = w ++ collapse v := by
  induction w with
  | nil => rfl
  | cons c w ih =>
    obtain ⟨own, below⟩ := List.forall_mem_cons.mp none
    have copied : ¬ (isFeed c = true ∧ beginsBlank (w ++ v) = true) := by simp [own]
    rw [List.cons_append, collapse, collapse_cons_of_not_feed copied]
    exact congrArg (c :: ·) (ih below)

/-- A line feed that ends its run is kept. -/
theorem collapse_feed_alone (c : CodePoint) (turns : Turns true v) :
    collapse (c :: v) = c :: collapse v := by
  refine collapse_cons_of_not_feed fun feed => ?_
  obtain ⟨d, hd, blank⟩ := (Option.any_eq_true _ _).mp feed.2
  simp [turns d hd] at blank

/-- A line feed becomes a space together with the rest of its run. -/
theorem collapse_feed_append {c : CodePoint} (feed : isFeed c = true) (more : w ≠ [])
    (blank : Uniform true w) (turns : Turns true v) :
    collapse (c :: w ++ v) = CodePoint.ofChar ' ' :: collapse v := by
  have begins : beginsBlank (w ++ v) = true := by
    cases w with
    | nil => exact absurd rfl more
    | cons d w => exact blank d List.mem_cons_self
  have dropped : (w ++ v).dropWhile CodePoint.isBlank = v := by
    rw [List.dropWhile_append_of_pos blank]
    cases v with
    | nil => rfl
    | cons d v => exact List.dropWhile_cons_of_neg (by simp [turns d rfl])
  rw [List.cons_append, collapse, collapse_cons_of_feed feed begins, collapseFrom_true, dropped]
  rfl

/-- A run has no line feed, or is cut at its first one. -/
theorem squeeze_cases (w : Text) :
    ((∀ c ∈ w, isFeed c = false) ∧ squeeze w = w) ∨
    ∃ front c rest, w = front ++ c :: rest ∧ (∀ d ∈ front, isFeed d = false) ∧
      isFeed c = true ∧ squeeze w = front ++ if rest = [] then [c] else " " := by
  have halves := List.takeWhile_append_dropWhile (p := (!isFeed ·)) (l := w)
  have before : ∀ c ∈ w.takeWhile (!isFeed ·), isFeed c = false := by
    intro c hc
    simpa using List.mem_takeWhile_imp (p := (!isFeed ·)) hc
  have head := List.head?_dropWhile_not (!isFeed ·) w
  rw [squeeze]
  generalize w.takeWhile (!isFeed ·) = front at halves before
  cases cut : w.dropWhile (!isFeed ·) with
  | nil =>
    rw [cut, List.append_nil] at halves
    exact .inl ⟨halves ▸ before, if_neg (by simp)⟩
  | cons c rest =>
    rw [cut] at halves head
    refine .inr ⟨front, c, rest, halves.symm, before, by simpa using head, ?_⟩
    cases rest with
    | nil => rw [if_neg (by simp), if_pos rfl, halves]
    | cons d rest => rw [if_pos (by simp), if_neg (List.cons_ne_nil d rest)]

/-- A run is collapsed without regard to what follows it. -/
theorem collapse_append (uniform : Uniform kind w) (turns : Turns kind v) :
    collapse (w ++ v) = squeeze w ++ collapse v := by
  rcases squeeze_cases w with ⟨none, same⟩ | ⟨front, c, rest, rfl, before, feed, squeezed⟩
  · rw [same]
    exact collapse_append_of_no_feed none v
  · obtain rfl : kind = true :=
      (uniform c (by simp)).symm.trans (isBlank_of_isFeed feed)
    have blank : Uniform true rest := fun d hd => uniform d (by simp [hd])
    rw [squeezed, List.append_assoc, List.append_assoc, collapse_append_of_no_feed before]
    by_cases alone : rest = []
    · subst alone
      rw [if_pos rfl]
      exact congrArg (front ++ ·) (collapse_feed_alone c turns)
    · rw [if_neg alone, collapse_feed_append feed alone blank turns]
      rfl

theorem collapse_eq_flatMap (t : Text) : collapse t = (runs t).flatMap squeeze := by
  induction t using runInduction with
  | nil => rfl
  | run kind w v nonempty uniform turns ih =>
    rw [collapse_append uniform turns, runs_append nonempty uniform turns, List.flatMap_cons, ih]

end Runs

/-- The value of a string attribute has no line feed with white space right behind it. It is the
string itself if there is none in that, so it stays what it is from then on. Everything but white
space is kept in order, and so is white space up to the first line feed of its run. From there on it
becomes a single space, if it is more than one line feed. -/
theorem string_collapses (place : Place) (value : Text) (spelling : Option Text) :
    ∃ collapsed,
      expression (some ⟨place, .string value spelling⟩) = ⟨place, .string collapsed none⟩ ∧
      Settled collapsed ∧ (collapsed = value ↔ Settled value) ∧
      expression (some ⟨place, .string collapsed none⟩) = ⟨place, .string collapsed none⟩ ∧
      collapsed = (runs value).flatMap squeeze ∧
      collapsed.filter (!·.isBlank) = value.filter (!·.isBlank) := by
  have settled : Settled (collapse value) := settled_collapseFrom false value
  refine ⟨collapse value, rfl, settled, collapse_eq_self_iff, ?_, collapse_eq_flatMap value,
    filter_collapseFrom false value⟩
  rw [expression, collapse_of_settled settled]

/-- What stands before the first line feed of a run is kept, and a line feed at the end of one. -/
example : collapse " \t\n\n a\n" = Text.ofString " \t a\n" := by decide

end Hyperscript.Lowering.Attribute
