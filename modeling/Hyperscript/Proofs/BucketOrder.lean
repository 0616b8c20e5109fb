import Hyperscript.Lowering.PropGroup
import Hyperscript.Lowering.Tag
import Mathlib.Data.List.Infix
import Mathlib.Data.List.Nodup

/-!
# What goes to which bucket

The names of entries are sorted by rules that look at how a name starts. No two rules take the same
name, because no start is the beginning of another one or of a name that stays beside the buckets.
The object that is laid out holds every value once: beside the buckets or in the one bucket that the
rule gives. Buckets stand where their first members stood, and their members keep their order.
-/
namespace Hyperscript.Lowering

section Names

/-- The rules: the bucket that an entry of a name goes to, unless it stays beside the buckets, and
its key there. -/
inductive Stands : Text → Option Bucket → Text → Prop
  | top {name : Text} : name ∈ Route.topNames → Stands name none name
  /-- A dash behind the name of a bucket is dropped. -/
  | dash {b : Bucket} (rest : Text) : b ≠ .directives →
      Stands (b.name ++ CodePoint.ofChar '-' :: rest) (some b) rest
  /-- An underscore is kept. -/
  | underscore {b : Bucket} (rest : Text) : b ≠ .directives →
      Stands (b.name ++ CodePoint.ofChar '_' :: rest) (some b) (CodePoint.ofChar '_' :: rest)
  /-- A capital becomes small. -/
  | capital {b : Bucket} {c : CodePoint} (rest : Text) : b ≠ .directives → c.isUpper = true →
      Stands (b.name ++ c :: rest) (some b) (c.lower :: rest)
  | directive (rest : Text) : Stands ("v-" ++ rest) (some .directives) rest
  | linked {c : CodePoint} (rest : Text) : c.isUpper = true →
      Stands ("xlink" ++ c :: rest) (some .attrs) ("xlink:" ++ c.lower :: rest)
  /-- Any other name is that of a plain attribute. -/
  | plain {name : Text} : name ∉ Route.topNames →
      (∀ (b : Bucket) (c : CodePoint) (rest : Text), b ≠ .directives → name = b.name ++ c :: rest →
        c ≠ CodePoint.ofChar '-' ∧ c ≠ CodePoint.ofChar '_' ∧ c.isUpper = false) →
      (∀ rest : Text, name ≠ "v-" ++ rest) →
      (∀ (c : CodePoint) (rest : Text), name = "xlink" ++ c :: rest → c.isUpper = false) →
      Stands name (some .attrs) name

/-- The starts that the rules look for. -/
def starts : List Text := Bucket.byWord.map Bucket.name ++ ["v-", "xlink"].map Text.ofString

theorem name_mem_starts {b : Bucket} (word : b ≠ .directives) : b.name ∈ starts := by
  cases b <;> first | exact absurd rfl word | simp [starts, Bucket.byWord]

/-- A name has at most one of the starts. -/
theorem starts_unique {p q name : Text} (hp : p ∈ starts) (hq : q ∈ starts) (first : p <+: name)
    (second : q <+: name) : p = q := by
  have apart : ∀ p ∈ starts, ∀ q ∈ starts, p <+: q → p = q := by decide
  rcases List.prefix_or_prefix_of_prefix first second with left | right
  · exact apart p hp q hq left
  · exact (apart q hq p hp right).symm

theorem not_top_of_start {p name : Text} (hp : p ∈ starts) (first : p <+: name) :
    name ∉ Route.topNames := by
  have apart : ∀ t ∈ Route.topNames, ∀ p ∈ starts, ¬ p <+: t := by decide
  exact fun top => apart name top p hp first

theorem suffix?_eq_some_iff {text inner : Text} :
    Bucket.suffix? text = some inner ↔
      text = CodePoint.ofChar '-' :: inner ∨
      (∃ rest, text = CodePoint.ofChar '_' :: rest ∧ inner = CodePoint.ofChar '_' :: rest) ∨
      ∃ c rest, c.isUpper = true ∧ text = c :: rest ∧ inner = c.lower :: rest := by
  have dash : (CodePoint.ofChar '-').isUpper = false := rfl
  have underscore : (CodePoint.ofChar '_').lower = CodePoint.ofChar '_' := rfl
  have other : CodePoint.ofChar '_' ≠ CodePoint.ofChar '-' := by decide
  cases text with
  | nil => simp [Bucket.suffix?]
  | cons c rest =>
    by_cases isDash : c = CodePoint.ofChar '-'
    · subst isDash
      simp [Bucket.suffix?, dash, other.symm]
    · by_cases isUnderscore : c = CodePoint.ofChar '_'
      · subst isUnderscore
        simp [Bucket.suffix?, underscore, other]
        grind
      · simp [Bucket.suffix?, isDash, isUnderscore]
        grind

theorem after?_eq_some_iff {start name rest : Text} :
    Route.after? start name = some rest ↔ name = start ++ rest := by
  rw [Route.after?]
  split
  · rename_i first
    obtain ⟨tail, rfl⟩ := List.isPrefixOf_iff_prefix.mp first
    simp
  · rename_i first
    simp only [reduceCtorEq, false_iff]
    rintro rfl
    exact first (List.isPrefixOf_iff_prefix.mpr (List.prefix_append _ _))

theorem linked?_eq_some_iff {name new : Text} :
    Route.linked? name = some new ↔ ∃ (c : CodePoint) (rest : Text), c.isUpper = true ∧
      name = "xlink" ++ c :: rest ∧ new = "xlink:" ++ c.lower :: rest := by
  rw [Route.linked?]
  constructor
  · intro linked
    split at linked
    · rename_i c rest found
      split at linked
      · rename_i capital
        exact ⟨c, rest, capital, after?_eq_some_iff.mp found, (Option.some.inj linked).symm⟩
      · cases linked
    · cases linked
  · rintro ⟨c, rest, capital, same, rfl⟩
    rw [after?_eq_some_iff.mpr same]
    exact if_pos capital

theorem mem_byWord_iff {b : Bucket} : b ∈ Bucket.byWord ↔ b ≠ .directives := by
  cases b <;> decide

theorem bucket_name_injective {b c : Bucket} (same : b.name = c.name) : b = c := by
  have apart : ∀ b ∈ Bucket.directives :: Bucket.byWord, ∀ c ∈ Bucket.directives :: Bucket.byWord,
      b.name = c.name → b = c := by decide
  refine apart b ?_ c ?_ same
  · cases b <;> decide
  · cases c <;> decide

theorem nested?_eq_some_iff {name inner : Text} {b : Bucket} :
    Bucket.nested? name = some (b, inner) ↔ b ≠ .directives ∧
      ∃ text, name = b.name ++ text ∧ Bucket.suffix? text = some inner := by
  have each {found : Bucket × Text} (h : Bucket.nested? name = some found) :
      found.1 ≠ .directives ∧
        ∃ text, name = found.1.name ++ text ∧ Bucket.suffix? text = some found.2 := by
    obtain ⟨c, word, asked⟩ := List.exists_of_findSome?_eq_some h
    split at asked
    · rename_i first
      obtain ⟨text, rfl⟩ := List.isPrefixOf_iff_prefix.mp first
      rw [List.drop_left, Option.map_eq_some_iff] at asked
      obtain ⟨inner, suffix, rfl⟩ := asked
      exact ⟨mem_byWord_iff.mp word, text, rfl, suffix⟩
    · cases asked
  refine ⟨each, ?_⟩
  rintro ⟨word, text, rfl, suffix⟩
  -- the search finds a bucket, and no other one has a name that the text starts with
  have some : (Bucket.nested? (b.name ++ text)).isSome = true := by
    rw [Bucket.nested?, List.findSome?_isSome_iff]
    refine ⟨b, mem_byWord_iff.mpr word, ?_⟩
    rw [if_pos (List.isPrefixOf_iff_prefix.mpr (List.prefix_append _ _)), List.drop_left, suffix]
    rfl
  obtain ⟨⟨c, other⟩, found⟩ := Option.isSome_iff_exists.mp some
  obtain ⟨word', text', same, suffix'⟩ := each found
  have own : b = c := bucket_name_injective <| starts_unique (name_mem_starts word)
    (name_mem_starts word') (List.prefix_append _ text) ⟨text', same.symm⟩
  subst own
  rw [List.append_cancel_left same] at suffix
  have last : other = inner := Option.some.inj (suffix'.symm.trans suffix)
  rw [found, last]

/-- Where the rules put a name, by its route. -/
def Route.stand (name : Text) : Route → Option Bucket × Text
  | .top => (none, name)
  | .nested b inner => (some b, inner)
  | .directive inner => (some .directives, inner)
  | .attribute none => (some .attrs, name)
  | .attribute (some new) => (some .attrs, new)

theorem ofName_of_not_top {name : Text} (other : name ∉ Route.topNames) :
    Route.ofName name =
      match Bucket.nested? name with
      | some (b, inner) => .nested b inner
      | none =>
        match Route.after? "v-" name with
        | some inner => .directive inner
        | none => .attribute (Route.linked? name) := by
  have absent : ¬ Route.topNames.contains name = true := mt List.contains_iff_mem.mp other
  rw [Route.ofName]
  exact if_neg absent

/-- A name with another start asks for no bucket. -/
theorem nested?_of_start {start name : Text} (mem : start ∈ starts) (first : start <+: name)
    (other : ∀ b : Bucket, b.name ≠ start) : Bucket.nested? name = none := by
  rw [Option.eq_none_iff_forall_ne_some]
  rintro ⟨b, inner⟩ found
  obtain ⟨word, text, rfl, -⟩ := nested?_eq_some_iff.mp found
  exact other b (starts_unique (name_mem_starts word) mem (List.prefix_append _ _) first)

theorem stand_of_word {b : Bucket} {text key : Text} (word : b ≠ .directives)
    (suffix : Bucket.suffix? text = some key) :
    (Route.ofName (b.name ++ text)).stand (b.name ++ text) = (some b, key) := by
  have first : b.name <+: b.name ++ text := List.prefix_append _ _
  rw [ofName_of_not_top (not_top_of_start (name_mem_starts word) first),
    nested?_eq_some_iff.mpr ⟨word, text, rfl, suffix⟩]
  rfl

theorem Stands.stand {name key : Text} {bucket : Option Bucket} (h : Stands name bucket key) :
    (Route.ofName name).stand name = (bucket, key) := by
  cases h with
  | top mem => rw [Route.ofName, if_pos (List.contains_iff_mem.mpr mem), Route.stand]
  | dash rest word => exact stand_of_word word (suffix?_eq_some_iff.mpr (.inl rfl))
  | underscore rest word =>
    exact stand_of_word word (suffix?_eq_some_iff.mpr (.inr (.inl ⟨rest, rfl, rfl⟩)))
  | capital rest word upper =>
    exact stand_of_word word (suffix?_eq_some_iff.mpr (.inr (.inr ⟨_, rest, upper, rfl, rfl⟩)))
  | directive =>
    have mem : Text.ofString "v-" ∈ starts := by decide
    have other : ∀ b : Bucket, b.name ≠ Text.ofString "v-" := by rintro (_ | _) <;> decide
    have first : Text.ofString "v-" <+: Text.ofString "v-" ++ key := List.prefix_append _ _
    rw [ofName_of_not_top (not_top_of_start mem first), nested?_of_start mem first other,
      after?_eq_some_iff.mpr rfl]
    rfl
  | @linked c rest upper =>
    have mem : Text.ofString "xlink" ∈ starts := by decide
    have directive : Text.ofString "v-" ∈ starts := by decide
    have other : ∀ b : Bucket, b.name ≠ Text.ofString "xlink" := by
      rintro (_ | _) <;> decide
    have first : Text.ofString "xlink" <+: Text.ofString "xlink" ++ c :: rest :=
      List.prefix_append _ _
    have after : Route.after? "v-" ("xlink" ++ c :: rest) = none := by
      rw [Option.eq_none_iff_forall_ne_some]
      intro tail found
      have second : Text.ofString "v-" <+: Text.ofString "xlink" ++ c :: rest :=
        ⟨tail, (after?_eq_some_iff.mp found).symm⟩
      exact absurd (starts_unique directive mem second first) (by decide)
    rw [ofName_of_not_top (not_top_of_start mem first), nested?_of_start mem first other, after,
      linked?_eq_some_iff.mpr ⟨c, rest, upper, rfl, rfl⟩]
    rfl
  | plain top words directive linked =>
    have nested : Bucket.nested? name = none := by
      rw [Option.eq_none_iff_forall_ne_some]
      rintro ⟨b, inner⟩ found
      obtain ⟨word, text, same, suffix⟩ := nested?_eq_some_iff.mp found
      obtain rfl | ⟨rest, rfl, -⟩ | ⟨c, rest, upper, rfl, -⟩ := suffix?_eq_some_iff.mp suffix
      · exact (words b _ _ word same).1 rfl
      · exact (words b _ _ word same).2.1 rfl
      · rw [(words b c rest word same).2.2] at upper
        cases upper
    have after : Route.after? "v-" name = none := by
      rw [Option.eq_none_iff_forall_ne_some]
      exact fun tail found => directive tail (after?_eq_some_iff.mp found)
    have link : Route.linked? name = none := by
      rw [Option.eq_none_iff_forall_ne_some]
      intro new found
      obtain ⟨c, rest, upper, same, -⟩ := linked?_eq_some_iff.mp found
      rw [linked c rest same] at upper
      cases upper
    rw [ofName_of_not_top top, nested, after, link]
    rfl

theorem stands_stand (name : Text) :
    Stands name ((Route.ofName name).stand name).1 ((Route.ofName name).stand name).2 := by
  by_cases top : name ∈ Route.topNames
  · rw [Route.ofName, if_pos (List.contains_iff_mem.mpr top)]
    exact .top top
  rw [ofName_of_not_top top]
  cases nested : Bucket.nested? name with
  | some found =>
    obtain ⟨b, inner⟩ := found
    obtain ⟨word, text, rfl, suffix⟩ := nested?_eq_some_iff.mp nested
    obtain rfl | ⟨rest, rfl, rfl⟩ | ⟨c, rest, upper, rfl, rfl⟩ := suffix?_eq_some_iff.mp suffix
    · exact .dash _ word
    · exact .underscore rest word
    · exact .capital rest word upper
  | none =>
    cases after : Route.after? "v-" name with
    | some inner =>
      obtain rfl := after?_eq_some_iff.mp after
      exact .directive inner
    | none =>
      cases link : Route.linked? name with
      | some new =>
        obtain ⟨c, rest, upper, rfl, rfl⟩ := linked?_eq_some_iff.mp link
        exact .linked rest upper
      | none =>
        refine .plain top ?_ ?_ ?_
        · intro b c rest word same
          have none (inner : Text) : Bucket.suffix? (c :: rest) ≠ some inner := by
            intro suffix
            rw [nested?_eq_some_iff.mpr ⟨word, c :: rest, same, suffix⟩] at nested
            cases nested
          refine ⟨?_, ?_, ?_⟩
          · rintro rfl
            exact none rest (suffix?_eq_some_iff.mpr (.inl rfl))
          · rintro rfl
            exact none _ (suffix?_eq_some_iff.mpr (.inr (.inl ⟨rest, rfl, rfl⟩)))
          · by_contra upper
            rw [Bool.not_eq_false] at upper
            exact none _ (suffix?_eq_some_iff.mpr (.inr (.inr ⟨c, rest, upper, rfl, rfl⟩)))
        · intro rest same
          rw [after?_eq_some_iff.mpr same] at after
          cases after
        · intro c rest same
          by_contra upper
          rw [Bool.not_eq_false] at upper
          rw [linked?_eq_some_iff.mpr ⟨c, rest, upper, same, rfl⟩] at link
          cases link

/-- There is a rule for every name, and only one. -/
theorem stands_iff {name key : Text} {bucket : Option Bucket} :
    Stands name bucket key ↔ (Route.ofName name).stand name = (bucket, key) := by
  refine ⟨Stands.stand, ?_⟩
  intro same
  have own := stands_stand name
  rwa [same] at own

end Names

section Lists

variable {α : Type} {r : α → α → Bool}

/-- The last item of a list is kept unless an earlier one stands for it. -/
theorem eraseDupsBy_concat (trans : ∀ a b c, r a b = true → r b c = true → r a c = true)
    (as : List α) (e : α) :
    (as ++ [e]).eraseDupsBy r =
      if as.any (r e) then as.eraseDupsBy r else as.eraseDupsBy r ++ [e] := by
  induction h : as.length using Nat.strongRecOn generalizing as with
  | _ n ih =>
    subst h
    cases as with
    | nil => rfl
    | cons a as =>
      rw [List.cons_append, List.eraseDupsBy_cons, List.filter_append, List.eraseDupsBy_cons,
        List.any_cons]
      cases known : r e a with
      | true => simp [known]
      | false =>
        have shorter : (as.filter fun b => decide (r b a = false)).length < (a :: as).length :=
          Nat.lt_succ_of_le (List.length_filter_le _ _)
        -- what stands for the last item is not among those that the first stands for
        have same : (as.filter fun b => decide (r b a = false)).any (r e) = as.any (r e) := by
          rw [Bool.eq_iff_iff, List.any_eq_true, List.any_eq_true]
          constructor
          · rintro ⟨b, hb, rb⟩
            exact ⟨b, List.mem_of_mem_filter hb, rb⟩
          · rintro ⟨b, hb, rb⟩
            refine ⟨b, List.mem_filter.mpr ⟨hb, ?_⟩, rb⟩
            rw [decide_eq_true_eq, Bool.eq_false_iff]
            intro ra
            rw [trans e b a rb ra] at known
            cases known
        have kept : [e].filter (fun b => decide (r b a = false)) = [e] := by simp [known]
        rw [kept, ih _ shorter _ rfl, same, Bool.false_or]
        split <;> rfl

theorem mapM_of_forall {β : Type} {f : α → Option β} {g : α → β} {as : List α}
    (h : ∀ a ∈ as, f a = some (g a)) : as.mapM f = some (as.map g) := by
  induction as with
  | nil => rfl
  | cons a as ih =>
    rw [List.mapM_cons, h a List.mem_cons_self, ih fun b hb => h b (List.mem_cons_of_mem a hb)]
    rfl

end Lists

namespace Entry

/-- The bucket that the entry goes to, unless it stays beside the buckets, and its key there. -/
def stand (e : Entry) : Option Bucket × Text := e.route.stand (e.name.getD [])

def bucket? (e : Entry) : Option Bucket := e.stand.1

/-- The key and the value in the object. -/
def item (e : Entry) : Text × Node := (e.stand.2, e.value)

/-- Both entries go to the same bucket. -/
def shares (e f : Entry) : Bool := e.bucket?.isSome && e.bucket? == f.bucket?

/-- The entries that stand beside the buckets or are the first of their bucket. -/
def openers (entries : List Entry) : List Entry := entries.eraseDupsBy shares

/-- The entries of a bucket. -/
def inBucket (entries : List Entry) (b : Bucket) : List Entry :=
  entries.filter fun e => e.bucket? == some b

section Openers

variable {entries : List Entry} {e f : Entry} {b : Bucket}

theorem shares_iff : e.shares f = true ↔ ∃ b, e.bucket? = some b ∧ f.bucket? = some b := by
  rw [shares, Bool.and_eq_true, beq_iff_eq, Option.isSome_iff_exists]
  grind

theorem openers_concat (entries : List Entry) (e : Entry) :
    openers (entries ++ [e]) =
      if entries.any e.shares then openers entries else openers entries ++ [e] := by
  apply eraseDupsBy_concat
  intro a b c
  simp only [shares_iff]
  grind

theorem mem_of_mem_openers (h : e ∈ openers entries) : e ∈ entries := by
  induction entries using List.reverseRecOn with
  | nil => exact h
  | append_singleton entries last ih =>
    rw [openers_concat] at h
    split at h
    · exact List.mem_append_left _ (ih h)
    · rcases List.mem_append.mp h with old | new
      · exact List.mem_append_left _ (ih old)
      · exact List.mem_append_right _ new

/-- Every bucket that is used has an opener. -/
theorem exists_opener (mem : e ∈ entries) (own : e.bucket? = some b) :
    ∃ f ∈ openers entries, f.bucket? = some b := by
  induction entries using List.reverseRecOn generalizing e with
  | nil => cases mem
  | append_singleton entries last ih =>
    rw [openers_concat]
    rcases List.mem_append.mp mem with old | new
    · obtain ⟨f, hf, same⟩ := ih old own
      split
      · exact ⟨f, hf, same⟩
      · exact ⟨f, List.mem_append_left _ hf, same⟩
    · obtain rfl := List.mem_singleton.mp new
      split
      · rename_i known
        obtain ⟨f, hf, shared⟩ := List.any_eq_true.mp known
        obtain ⟨c, first, second⟩ := shares_iff.mp shared
        exact ih hf (second.trans (first.symm.trans own))
      · exact ⟨e, List.mem_append_right _ List.mem_cons_self, own⟩

/-- No bucket has two openers. -/
theorem openers_apart (entries : List Entry) :
    (openers entries).Pairwise fun e f => ∀ b, e.bucket? = some b → f.bucket? ≠ some b := by
  induction entries using List.reverseRecOn with
  | nil => exact .nil
  | append_singleton entries last ih =>
    rw [openers_concat]
    split
    · exact ih
    · rename_i new
      refine List.pairwise_append.mpr ⟨ih, List.pairwise_singleton _ _, ?_⟩
      intro e he f hf b own same
      obtain rfl := List.mem_singleton.mp hf
      exact new (List.any_eq_true.mpr ⟨e, mem_of_mem_openers he, shares_iff.mpr ⟨b, same, own⟩⟩)

theorem inBucket_concat (entries : List Entry) (e : Entry) (b : Bucket) :
    inBucket (entries ++ [e]) b =
      inBucket entries b ++ if e.bucket? = some b then [e] else [] := by
  rw [inBucket, List.filter_append, inBucket]
  by_cases own : e.bucket? = some b <;> simp [own]

end Openers

end Entry

/-- Entries that stand together: one beside the buckets, or all of a bucket. -/
inductive Pile where
  | aside (e : Entry)
  | bucket (b : Bucket) (members : List Entry)

namespace Pile

def bucket? : Pile → Option Bucket
  | .aside _ => none
  | .bucket b _ => some b

def entries : Pile → List Entry
  | .aside e => [e]
  | .bucket _ members => members

/-- The pile that an entry opens. -/
def openedBy (entries : List Entry) (e : Entry) : Pile :=
  match e.bucket? with
  | none => .aside e
  | some b => .bucket b (Entry.inBucket entries b)

def all (entries : List Entry) : List Pile := (Entry.openers entries).map (openedBy entries)

/-- What one more entry does to the piles. -/
inductive Grows (e : Entry) : List Pile → List Pile → Prop
  | aside {piles : List Pile} : e.bucket? = none → Grows e piles (piles ++ [.aside e])
  | opens {piles : List Pile} {b : Bucket} : e.bucket? = some b →
      (∀ p ∈ piles, p.bucket? ≠ some b) → Grows e piles (piles ++ [.bucket b [e]])
  | follows {before after : List Pile} {b : Bucket} {members : List Entry} :
      e.bucket? = some b → (∀ p ∈ before, p.bucket? ≠ some b) →
      Grows e (before ++ .bucket b members :: after) (before ++ .bucket b (members ++ [e]) :: after)

section Step

variable {e f : Entry} {b : Bucket}

theorem bucket?_openedBy (entries : List Entry) (e : Entry) :
    (openedBy entries e).bucket? = e.bucket? := by
  rw [openedBy]
  cases e.bucket? <;> rfl

theorem openedBy_of_bucket (entries : List Entry) (own : e.bucket? = some b) :
    openedBy entries e = .bucket b (Entry.inBucket entries b) := by
  rw [openedBy, own]

/-- A pile does not change when an entry comes that goes elsewhere. -/
theorem openedBy_concat (entries : List Entry)
    (other : ∀ b, f.bucket? = some b → e.bucket? ≠ some b) :
    openedBy (entries ++ [e]) f = openedBy entries f := by
  rw [openedBy, openedBy]
  cases own : f.bucket? with
  | none => rfl
  | some b => simp only [Entry.inBucket_concat, if_neg (other b own), List.append_nil]

theorem map_openedBy_concat (entries : List Entry) {openers : List Entry}
    (other : ∀ f ∈ openers, ∀ b, f.bucket? = some b → e.bucket? ≠ some b) :
    openers.map (openedBy (entries ++ [e])) = openers.map (openedBy entries) :=
  List.map_congr_left fun f hf => openedBy_concat entries (other f hf)

/-- The piles of a list grow with the list. -/
theorem grows (entries : List Entry) (e : Entry) :
    Grows e (all entries) (all (entries ++ [e])) := by
  have step := Entry.openers_concat entries e
  rw [all, all]
  cases own : e.bucket? with
  | none =>
    have new : entries.any e.shares = false := by simp [Entry.shares, own]
    have last : openedBy (entries ++ [e]) e = .aside e := by rw [openedBy, own]
    rw [step, new, if_neg Bool.false_ne_true, List.map_append, List.map_singleton, last,
      map_openedBy_concat entries fun f _ b _ => by simp [own]]
    exact .aside own
  | some b =>
    cases known : entries.any e.shares with
    | false =>
      have absent : ∀ f ∈ entries, f.bucket? ≠ some b := fun f hf same =>
        List.any_eq_false.mp known f hf (Entry.shares_iff.mpr ⟨b, own, same⟩)
      have none : Entry.inBucket entries b = [] := by simpa [Entry.inBucket] using absent
      have last : openedBy (entries ++ [e]) e = .bucket b [e] := by
        rw [openedBy_of_bucket _ own, Entry.inBucket_concat, none, if_pos own, List.nil_append]
      rw [step, known, if_neg Bool.false_ne_true, List.map_append, List.map_singleton, last,
        map_openedBy_concat entries fun f hf c same => by
          rw [own, ← same]
          exact (absent f (Entry.mem_of_mem_openers hf)).symm]
      refine .opens own ?_
      intro p hp
      obtain ⟨f, hf, rfl⟩ := List.mem_map.mp hp
      rw [bucket?_openedBy]
      exact absent f (Entry.mem_of_mem_openers hf)
    | true =>
      obtain ⟨g, hg, shared⟩ := List.any_eq_true.mp known
      obtain ⟨c, first, second⟩ := Entry.shares_iff.mp shared
      obtain ⟨f, hf, same⟩ := Entry.exists_opener hg (second.trans (first.symm.trans own))
      obtain ⟨before, after, split⟩ := List.append_of_mem hf
      have apart := Entry.openers_apart entries
      rw [split, List.pairwise_append, List.pairwise_cons] at apart
      obtain ⟨-, ⟨later, -⟩, earlier⟩ := apart
      have before_other : ∀ k ∈ before, k.bucket? ≠ some b := fun k hk other =>
        earlier k hk f List.mem_cons_self b other same
      have kept {openers : List Entry} (others : ∀ k ∈ openers, k.bucket? ≠ some b) :
          openers.map (openedBy (entries ++ [e])) = openers.map (openedBy entries) :=
        map_openedBy_concat entries fun k hk c same => by
          rw [own, ← same]
          exact (others k hk).symm
      rw [step, known, if_pos rfl, split, List.map_append, List.map_cons, List.map_append,
        List.map_cons, kept before_other, kept fun k hk => later k hk b same,
        openedBy_of_bucket _ same, openedBy_of_bucket _ same, Entry.inBucket_concat, if_pos own]
      refine .follows own ?_
      intro p hp
      obtain ⟨k, hk, rfl⟩ := List.mem_map.mp hp
      rw [bucket?_openedBy]
      exact before_other k hk

end Step

/-- No entry is lost, and none stands in two piles. -/
theorem entries_perm (entries : List Entry) :
    ((all entries).flatMap Pile.entries).Perm entries := by
  induction entries using List.reverseRecOn with
  | nil => exact .nil
  | append_singleton entries e ih =>
    have step := grows entries e
    revert ih step
    generalize all entries = piles
    generalize all (entries ++ [e]) = grown
    intro ih step
    refine List.Perm.trans ?_ (ih.append_right [e])
    cases step with
    | aside own => simp [Pile.entries]
    | opens own absent => simp [Pile.entries]
    | @follows before after b members own absent =>
      simp only [List.flatMap_append, List.flatMap_cons, Pile.entries, List.append_assoc]
      exact (List.perm_append_comm.append_left members).append_left _

end Pile

section Sections

/-- The node that an entry becomes in its bucket. -/
def Entry.node (e : Entry) : Node :=
  match e.route with
  | .nested _ name | .attribute (some name) => e.renamed name
  | .directive name => e.directive name
  | .top | .attribute none => e.toNode

theorem Entry.member?_eq (e : Entry) : e.member? = e.bucket?.map fun b => (b, e.node) := by
  rw [Entry.member?, Entry.bucket?, Entry.stand, Entry.node]
  generalize e.route = route
  match route with
  | .top | .nested .. | .directive _ | .attribute none | .attribute (some _) => rfl

def Pile.toSection : Pile → Section
  | .aside e => .single e
  | .bucket b members => .bucket b (members.map Entry.node)

theorem Pile.isBucket_toSection (p : Pile) (b : Bucket) :
    p.toSection.isBucket b = (p.bucket? == some b) := by
  cases p with
  | aside e => rfl
  | bucket c members => by_cases same : c = b <;> simp [toSection, Section.isBucket, bucket?, same]

/-- A member passes the sections in front of its bucket. -/
theorem put_append {b : Bucket} {before : List Section}
    (absent : ∀ s ∈ before, s.isBucket b = false) (member : Node) (rest : List Section) :
    Section.put b member (before ++ rest) = before ++ Section.put b member rest := by
  induction before with
  | nil => rfl
  | cons s before ih =>
    have others := ih fun t ht => absent t (List.mem_cons_of_mem s ht)
    have own := absent s List.mem_cons_self
    cases s with
    | single e =>
      rw [List.cons_append, Section.put, others, List.cons_append]
      exact nofun
    | bucket c found =>
      have other : c ≠ b := by simpa [Section.isBucket] using own
      rw [List.cons_append, Section.put, if_neg other, others, List.cons_append]

/-- The sections are the piles: each step of the run lets them grow in the same way. -/
theorem ofEntries_eq (entries : List Entry) :
    Section.ofEntries entries = (Pile.all entries).map Pile.toSection := by
  induction entries using List.reverseRecOn with
  | nil => rfl
  | append_singleton entries e ih =>
    have added : Section.ofEntries (entries ++ [e]) =
        Section.add (Section.ofEntries entries) e := by
      rw [Section.ofEntries, List.foldl_append]
      rfl
    have others {b : Bucket} {piles : List Pile} (absent : ∀ p ∈ piles, p.bucket? ≠ some b) :
        ∀ s ∈ piles.map Pile.toSection, s.isBucket b = false := by
      intro s hs
      obtain ⟨p, hp, rfl⟩ := List.mem_map.mp hs
      rw [Pile.isBucket_toSection, beq_eq_false_iff_ne]
      exact absent p hp
    have step := Pile.grows entries e
    rw [added, ih, Section.add, Entry.member?_eq]
    revert step
    generalize Pile.all entries = piles
    generalize Pile.all (entries ++ [e]) = grown
    intro step
    cases step with
    | aside own =>
      rw [own, List.map_append]
      rfl
    | opens own absent =>
      have last := put_append (others absent) e.node []
      rw [List.append_nil] at last
      rw [own, List.map_append]
      exact last
    | follows own absent =>
      rw [own, List.map_append, List.map_cons, List.map_append, List.map_cons, Pile.toSection,
        Pile.toSection, List.map_append]
      refine (put_append (others absent) e.node _).trans ?_
      rw [Section.put, if_pos rfl]
      rfl

end Sections

section Reading

/-- Reads a property. -/
def property? (n : Node) : Option (Text × Node) :=
  match n.form with
  | .objectProperty key value false false => (Tag.plainName? key).map (·, value)
  | _ => none

/-- Reads the name and the value of a directive. -/
def directive? (n : Node) : Option (Text × Node) :=
  match n.form with
  | .objectExpression [first, second] =>
    match property? first, property? second with
    | some (nameKey, ⟨_, .string name none⟩), some (valueKey, value) =>
      if nameKey = "name" && valueKey = "value" then some (name, value) else none
    | _, _ => none
  | _ => none

/-- Reads a member of a bucket. -/
def item? : Bucket → Node → Option (Text × Node)
  | .directives => directive?
  | _ => property?

/-- Reads what a bucket holds. Directives are listed, other members are properties. -/
def items? (b : Bucket) (n : Node) : Option (List (Text × Node)) :=
  match b, n.form with
  | .directives, .arrayExpression members => members.mapM (item? b)
  | .directives, _ => none
  | _, .objectExpression members => members.mapM (item? b)
  | _, _ => none

/-- What the runtime finds in the object. -/
inductive Part where
  | aside (key : Text) (value : Node)
  | bucket (bucket : Bucket) (items : List (Text × Node))

namespace Part

def bucket? : Part → Option Bucket
  | .aside .. => none
  | .bucket b _ => some b

def values : Part → List Node
  | .aside _ value => [value]
  | .bucket _ items => items.map Prod.snd

/-- Reads a property. One with the name of a bucket is that bucket. -/
def ofNode? (n : Node) : Option Part := do
  let (key, value) ← property? n
  match (Bucket.directives :: Bucket.byWord).find? (·.name = key) with
  | some b => return .bucket b (← items? b value)
  | none => return .aside key value

/-- Reads the properties of an object. -/
def ofObject? (n : Node) : Option (List Part) :=
  match n.form with
  | .objectExpression properties => properties.mapM ofNode?
  | _ => none

end Part

def Pile.toPart : Pile → Part
  | .aside e => .aside e.stand.2 e.value
  | .bucket b members => .bucket b (members.map Entry.item)

theorem find?_bucket (b : Bucket) :
    (Bucket.directives :: Bucket.byWord).find? (fun c => decide (c.name = b.name)) = some b := by
  cases b <;> rfl

/-- No entry beside the buckets has the name of one. -/
theorem name_ne_of_top {key : Text} (top : key ∈ Route.topNames) (b : Bucket) : key ≠ b.name := by
  have apart : ∀ t ∈ Route.topNames, ∀ b ∈ Bucket.directives :: Bucket.byWord, t ≠ b.name := by
    decide +kernel
  exact apart key top b (by cases b <;> decide)

theorem find?_top {key : Text} (top : key ∈ Route.topNames) :
    (Bucket.directives :: Bucket.byWord).find? (fun c => decide (c.name = key)) = none :=
  List.find?_eq_none.mpr fun b _ => by simpa using (name_ne_of_top top b).symm

theorem property?_toNode {e : Entry} {name : Text} (named : e.name = some name) :
    property? e.toNode = some (name, e.value) := by
  rw [Entry.toNode, property?, Entry.key, named]
  dsimp only
  split <;> rfl

theorem stand_of_name {e : Entry} {name : Text} (named : e.name = some name) :
    e.stand = (Route.ofName name).stand name := by
  rw [Entry.stand, Entry.route, named]
  rfl

theorem top_of_stands {name key : Text} (h : Stands name none key) :
    key = name ∧ name ∈ Route.topNames := by
  cases h with
  | top mem => exact ⟨rfl, mem⟩

theorem word_of_nested {name inner : Text} {b : Bucket}
    (h : Route.ofName name = .nested b inner) : b ≠ .directives := by
  by_cases top : name ∈ Route.topNames
  · rw [Route.ofName, if_pos (List.contains_iff_mem.mpr top)] at h
    cases h
  · rw [ofName_of_not_top top] at h
    cases nested : Bucket.nested? name with
    | some found =>
      rw [nested] at h
      cases h
      exact (nested?_eq_some_iff.mp nested).1
    | none =>
      rw [nested] at h
      dsimp only at h
      split at h <;> cases h

/-- A member of a bucket is read as the entry that it was. -/
theorem item?_node {e : Entry} {b : Bucket} (named : e.name.isSome = true)
    (own : e.bucket? = some b) : item? b e.node = some e.item := by
  obtain ⟨name, named⟩ := Option.isSome_iff_exists.mp named
  have stand := stand_of_name named
  have route : e.route = Route.ofName name := by
    rw [Entry.route, named]
    rfl
  rw [Entry.bucket?, stand] at own
  rw [Entry.node, route, Entry.item, stand]
  rcases taken : Route.ofName name with _ | ⟨c, inner⟩ | inner | new
  · rw [taken] at own
    cases own
  · rw [taken] at own
    cases own
    have word := word_of_nested taken
    cases b <;> first | rfl | exact absurd rfl word
  · rw [taken] at own
    cases own
    rfl
  · rw [taken] at own
    cases new <;> cases own
    · exact property?_toNode named
    · rfl

theorem items?_container {b : Bucket} {members : List Entry}
    (named : ∀ e ∈ members, e.name.isSome = true) (own : ∀ e ∈ members, e.bucket? = some b) :
    items? b (Section.container b (members.map Entry.node)) = some (members.map Entry.item) := by
  have each : (members.map Entry.node).mapM (item? b) = some (members.map Entry.item) := by
    rw [List.mapM_map]
    exact mapM_of_forall fun e he => item?_node (named e he) (own e he)
  cases b <;> exact each

/-- A section is read as the entries that it was made of. -/
theorem ofNode?_openedBy {entries : List Entry} (named : ∀ e ∈ entries, e.name.isSome = true)
    {e : Entry} (mem : e ∈ entries) :
    Part.ofNode? (Pile.openedBy entries e).toSection.toNode =
      some (Pile.openedBy entries e).toPart := by
  rw [Pile.openedBy]
  cases own : e.bucket? with
  | none =>
    obtain ⟨name, found⟩ := Option.isSome_iff_exists.mp (named e mem)
    have rule : Stands name e.bucket? e.stand.2 := by
      rw [Entry.bucket?, stand_of_name found]
      exact stands_stand name
    rw [own] at rule
    obtain ⟨key, top⟩ := top_of_stands rule
    rw [Pile.toSection, Section.toNode, Part.ofNode?, property?_toNode found, Pile.toPart, key]
    simp only [Option.bind_eq_bind, Option.bind_some, find?_top top]
    rfl
  | some b =>
    have members : ∀ m ∈ Entry.inBucket entries b, m ∈ entries ∧ m.bucket? = some b := by
      simp [Entry.inBucket]
    have read := items?_container (fun m hm => named m (members m hm).1)
      fun m hm => (members m hm).2
    simp only [Pile.toSection, Section.toNode, Part.ofNode?, property?, Node.plain,
      Tag.plainName?, Option.map_some, Option.bind_eq_bind, Option.bind_some, find?_bucket, read]
    rfl

end Reading

section Objects

/-- A computed attribute that the rule asks for has its own name among the properties of the
document node, whatever that name is. -/
theorem stand_entry {rule : PropRule} {tag : Descriptor} {place : Place} {nameNode : Node}
    {value : Option Node} {name : Text}
    (found : (Attribute.named place nameNode value).name? = some name)
    (computed : (Attribute.named place nameNode value).isComputed = true)
    (asked : rule tag.name tag.type name = true) :
    (Attribute.entry rule tag place nameNode value).stand = (some .domProps, name) := by
  have mark : Attribute.domPropsMark ++ name =
      Bucket.domProps.name ++ CodePoint.ofChar '-' :: name := by
    have start : Attribute.domPropsMark = Bucket.domProps.name ++ [CodePoint.ofChar '-'] := by
      rfl
    rw [start, List.append_assoc, List.singleton_append]
  have own : (Attribute.entry rule tag place nameNode value).name =
      some (Bucket.domProps.name ++ CodePoint.ofChar '-' :: name) := by
    rw [Attribute.entry, Attribute.classify, found, Option.map_some, computed, asked, Bool.and_true,
      if_pos rfl, mark]
  rw [stand_of_name own]
  exact (Stands.dash (b := .domProps) name (by decide)).stand

/-- What the rules make of a list of entries: each opener stands for itself or for its bucket. -/
def Part.ofEntries (entries : List Entry) : List Part :=
  (Entry.openers entries).map fun e =>
    match e.bucket? with
    | none => .aside e.stand.2 e.value
    | some b => .bucket b ((Entry.inBucket entries b).map Entry.item)

theorem toPart_all (entries : List Entry) :
    (Pile.all entries).map Pile.toPart = Part.ofEntries entries := by
  rw [Pile.all, List.map_map]
  refine List.map_congr_left fun e _ => ?_
  rw [Function.comp_apply, Pile.openedBy]
  cases e.bucket? <;> rfl

theorem ofObject?_object {entries : List Entry} (named : ∀ e ∈ entries, e.name.isSome = true) :
    Part.ofObject? (Grouping.buckets.object entries) = some (Part.ofEntries entries) := by
  have read : ((Entry.openers entries).map fun e =>
      (Pile.openedBy entries e).toSection.toNode).mapM Part.ofNode? =
        some ((Entry.openers entries).map fun e => (Pile.openedBy entries e).toPart) := by
    rw [List.mapM_map]
    exact mapM_of_forall fun e he => ofNode?_openedBy named (Entry.mem_of_mem_openers he)
  rw [Grouping.object, ofEntries_eq, ← toPart_all, Pile.all]
  simpa only [Part.ofObject?, Node.plain, List.map_map, Function.comp_def] using read

theorem bucket?_ofEntries (entries : List Entry) :
    (Part.ofEntries entries).filterMap Part.bucket? =
      (Entry.openers entries).filterMap Entry.bucket? := by
  rw [Part.ofEntries, List.filterMap_map]
  refine List.filterMap_congr fun e _ => ?_
  rw [Function.comp_apply]
  cases e.bucket? <;> rfl

/-- No bucket is there twice. -/
theorem nodup_ofEntries (entries : List Entry) :
    ((Part.ofEntries entries).filterMap Part.bucket?).Nodup := by
  rw [bucket?_ofEntries, List.Nodup, List.pairwise_filterMap]
  refine (Entry.openers_apart entries).imp ?_
  intro e f apart b own c other same
  exact apart b own (same ▸ other)

theorem mem_ofEntries_aside {entries : List Entry} {key : Text} {value : Node}
    (mem : .aside key value ∈ Part.ofEntries entries) :
    ∃ e ∈ entries, e.stand = (none, key) ∧ e.value = value := by
  obtain ⟨e, he, same⟩ := List.mem_map.mp mem
  cases own : e.bucket? with
  | some b =>
    rw [own] at same
    cases same
  | none =>
    rw [own] at same
    cases same
    exact ⟨e, Entry.mem_of_mem_openers he, Prod.ext own rfl, rfl⟩

theorem mem_ofEntries_bucket {entries : List Entry} {e : Entry} {b : Bucket} (mem : e ∈ entries)
    (own : e.bucket? = some b) :
    .bucket b ((Entry.inBucket entries b).map Entry.item) ∈ Part.ofEntries entries := by
  obtain ⟨f, hf, same⟩ := Entry.exists_opener mem own
  refine List.mem_map.mpr ⟨f, hf, ?_⟩
  rw [same]

theorem values_toPart (p : Pile) : p.toPart.values = p.entries.map Entry.value := by
  cases p with
  | aside e => rfl
  | bucket b members => simp [Pile.toPart, Part.values, Pile.entries, Entry.item, Function.comp_def]

/-- Every value is there once. -/
theorem values_ofEntries (entries : List Entry) :
    ((Part.ofEntries entries).flatMap Part.values).Perm (entries.map Entry.value) := by
  rw [← toPart_all, List.flatMap_map]
  simp only [values_toPart]
  rw [← List.map_flatMap]
  exact (Pile.entries_perm entries).map Entry.value

/-- The object for a list of entries holds what the rules say. It opens with the first entry, a
bucket stands where its first member stood, and there is one of each at most; no entry beside them
has the name of a bucket. A bucket holds the entries that go there, in their order, and every value
is there once. A computed attribute that the rule for properties asks for is among the properties of
the document node, under its own name. -/
theorem object_sorts_entries {entries : List Entry}
    (named : ∀ e ∈ entries, e.name.isSome = true) :
    (∀ e ∈ entries, ∀ name, e.name = some name → ∀ bucket key,
      Stands name bucket key ↔ e.stand = (bucket, key)) ∧
    Part.ofObject? (Grouping.buckets.object entries) = some (Part.ofEntries entries) ∧
    ((Part.ofEntries entries).filterMap Part.bucket?).Nodup ∧
    (∀ key value, .aside key value ∈ Part.ofEntries entries → ∀ b : Bucket, key ≠ b.name) ∧
    ((Part.ofEntries entries).flatMap Part.values).Perm (entries.map Entry.value) ∧
    ∀ (rule : PropRule) (tag : Descriptor) (place : Place) (nameNode : Node)
      (value : Option Node) (name : Text),
      (Attribute.named place nameNode value).name? = some name →
      (Attribute.named place nameNode value).isComputed = true →
      rule tag.name tag.type name = true →
      Attribute.entry rule tag place nameNode value ∈ entries →
      ∃ items, .bucket .domProps items ∈ Part.ofEntries entries ∧
        (name, Attribute.expression value) ∈ items := by
  have rules : ∀ e ∈ entries, ∀ name, e.name = some name → ∀ bucket key,
      Stands name bucket key ↔ e.stand = (bucket, key) := by
    intro e he name found bucket key
    rw [stand_of_name found]
    exact stands_iff
  refine ⟨rules, ofObject?_object named, nodup_ofEntries entries, ?_, values_ofEntries entries, ?_⟩
  · intro key value mem b
    obtain ⟨e, he, stand, -⟩ := mem_ofEntries_aside mem
    obtain ⟨name, found⟩ := Option.isSome_iff_exists.mp (named e he)
    obtain ⟨rfl, top⟩ := top_of_stands ((rules e he name found none key).mpr stand)
    exact name_ne_of_top top b
  · intro rule tag place nameNode value name found computed asked mem
    have stand := stand_entry found computed asked
    have own : (Attribute.entry rule tag place nameNode value).bucket? = some .domProps :=
      congrArg Prod.fst stand
    refine ⟨_, mem_ofEntries_bucket mem own, ?_⟩
    refine List.mem_map.mpr ⟨_, List.mem_filter.mpr ⟨mem, beq_iff_eq.mpr own⟩, ?_⟩
    exact Prod.ext (congrArg Prod.snd stand) rfl

/-- The entries of
`<input onClick="1" class="2" v-show="3" on_x="4" a="5" value={v} xlinkHref="7">`. -/
def sampleEntries : List Entry :=
  let quoted (name value : Text) : Entry :=
    { name := some name, value := .plain (.string value none) }
  [quoted "onClick" "1", quoted "class" "2", quoted "v-show" "3", quoted "on_x" "4", quoted "a" "5",
    Attribute.entry mustUseProp ⟨some "input", none⟩ .nowhere (.plain (.jsxIdentifier "value"))
      (some (.plain (.jsxExpressionContainer (.plain (.identifier "v"))))),
    quoted "xlinkHref" "7"]

theorem object_sorts_sampleEntries :
    (Part.ofObject? (Grouping.buckets.object sampleEntries)).map (List.map Part.bucket?) =
      some [some .on, none, some .directives, some .attrs, some .domProps] ∧
    ((Part.ofEntries sampleEntries).map fun part => part.values.length) = [2, 1, 1, 2, 1] ∧
    ∃ items, .bucket .domProps items ∈ Part.ofEntries sampleEntries ∧
      (Text.ofString "value", .plain (.identifier "v")) ∈ items := by
  have named : ∀ e ∈ sampleEntries, e.name.isSome = true := by decide +kernel
  obtain ⟨-, read, -, -, -, dynamic⟩ := object_sorts_entries named
  refine ⟨?_, by decide +kernel, ?_⟩
  · rw [read]
    decide +kernel
  · exact dynamic mustUseProp ⟨some "input", none⟩ .nowhere (.plain (.jsxIdentifier "value"))
      (some (.plain (.jsxExpressionContainer (.plain (.identifier "v"))))) "value" rfl rfl
      (by decide +kernel) (by simp [sampleEntries])

end Objects

end Hyperscript.Lowering
