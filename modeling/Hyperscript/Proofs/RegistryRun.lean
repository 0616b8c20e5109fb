import Hyperscript.Proofs.FreshName

/-!
# Runs of a registry

A registry is asked for one helper after another. What it has answered so far is all that it
remembers: its helpers are the different exports that were asked for, and beside the names of the
program it takes the names that it has given. So an answer depends on the export alone, and two
exports never share a name, even where the numbered candidates of one run into the name of another.
-/
namespace Hyperscript.Lowering

/-- A helper that is asked for, and the name that it should have if that is free. -/
structure Request where
  source : Text
  exported : Text
  name : Text
  deriving DecidableEq

/-- What is imported. -/
def Request.origin (q : Request) : Text × Text := (q.source, q.exported)

def Helper.origin (h : Helper) : Text × Text := (h.source, h.exported)

/-- A request and the local name that was given to it. -/
structure Answer where
  request : Request
  localName : Text
  deriving DecidableEq

namespace Answer

def origin (a : Answer) : Text × Text := a.request.origin

def helper (a : Answer) : Helper := ⟨a.request.source, a.request.exported, a.localName⟩

end Answer

namespace Registry

/-- The search for a free candidate, from the one with the given number on, comes to an end with
this name. -/
inductive Search (used : List Text) (name : Text) : Nat → Text → Prop
  | free {n : Nat} : candidate name n ∉ used → Search used name n (candidate name n)
  | taken {n : Nat} {found : Text} : candidate name n ∈ used → Search used name (n + 1) found →
      Search used name n found

/-- The registry answers requests one after the other. -/
def resolveAll (r : Registry) : List Request → List Answer × Registry
  | [] => ([], r)
  | q :: rest =>
    let (localName, next) := r.resolve q.source q.exported q.name
    let (answers, last) := next.resolveAll rest
    (⟨q, localName⟩ :: answers, last)

section Names

variable {used other : List Text} {name free : Text}

theorem search_of_before {k n : Nat} (le : n ≤ k) (free : candidate name k ∉ used)
    (before : ∀ j, n ≤ j → j < k → candidate name j ∈ used) :
    Search used name n (candidate name k) := by
  obtain ⟨d, rfl⟩ := Nat.exists_eq_add_of_le le
  induction d generalizing n with
  | zero => exact .free free
  | succ d ih =>
    apply Search.taken
    · exact before n (Nat.le_refl n) (by omega)
    · have same : n + (d + 1) = n + 1 + d := by omega
      rw [same] at free before ⊢
      exact ih (Nat.le_add_right _ _) free fun j low high => before j (by omega) high

/-- The search ends, with the first candidate that is free. -/
theorem IsFirstFree.search (h : IsFirstFree used name free) : Search used name 1 free := by
  obtain ⟨k, low, rfl, open_, before⟩ := h
  exact search_of_before low open_ before

/-- Only which names are taken matters, not in which order. -/
theorem IsFirstFree.congr (same : ∀ t, t ∈ used ↔ t ∈ other) (h : IsFirstFree used name free) :
    IsFirstFree other name free := by
  obtain ⟨k, low, found, open_, before⟩ := h
  refine ⟨k, low, found, fun taken => open_ ((same _).mpr taken), ?_⟩
  intro j hj less
  exact (same _).mp (before j hj less)

theorem IsFirstFree.not_mem (h : IsFirstFree used name free) : free ∉ used := by
  obtain ⟨k, -, -, open_, -⟩ := h
  exact open_

end Names

/-- What a registry knows after it has given these answers, where the taken names are those that it
started with. -/
structure Records (taken : List Text) (answers : List Answer) (r : Registry) : Prop where
  origins : r.helpers.map Helper.origin = (answers.map Answer.origin).eraseDups
  mem_helpers : ∀ h, h ∈ r.helpers ↔ ∃ a ∈ answers, a.helper = h
  used : ∀ t, t ∈ r.used ↔ t ∈ taken ++ answers.map Answer.localName
  fresh : ∀ a ∈ answers, a.localName ∉ taken
  name_iff : ∀ a ∈ answers, ∀ b ∈ answers, a.localName = b.localName ↔ a.origin = b.origin

section Records

variable {taken : List Text} {answers : List Answer} {r : Registry}

theorem provides_iff {h : Helper} {source exported : Text} :
    h.provides source exported = true ↔ h.origin = (source, exported) := by
  simp [Helper.provides, Helper.origin]

theorem records_start (taken : List Text) : Records taken [] { used := taken } where
  origins := rfl
  mem_helpers h := by simp
  used t := by simp
  fresh a ha := absurd ha List.not_mem_nil
  name_iff a ha := absurd ha List.not_mem_nil

theorem eraseDups_concat_of_mem {α : Type} [BEq α] [LawfulBEq α] {as : List α} {b : α}
    (mem : b ∈ as) : (as ++ [b]).eraseDups = as.eraseDups := by
  simp [List.eraseDups_append, List.removeAll, mem]

theorem eraseDups_concat_of_not_mem {α : Type} [BEq α] [LawfulBEq α] {as : List α} {b : α}
    (new : b ∉ as) : (as ++ [b]).eraseDups = as.eraseDups ++ [b] := by
  simp [List.eraseDups_append, List.removeAll, List.eraseDups_cons, new]

theorem name_iff_concat {c : Answer}
    (old : ∀ a ∈ answers, ∀ b ∈ answers, a.localName = b.localName ↔ a.origin = b.origin)
    (new : ∀ a ∈ answers, a.localName = c.localName ↔ a.origin = c.origin) :
    ∀ a ∈ answers ++ [c], ∀ b ∈ answers ++ [c],
      a.localName = b.localName ↔ a.origin = b.origin := by
  intro a ha b hb
  rw [List.mem_append, List.mem_singleton] at ha hb
  rcases ha with ha | rfl
  · rcases hb with hb | rfl
    · exact old a ha b hb
    · exact new a ha
  · rcases hb with hb | rfl
    · rw [eq_comm, new b hb, eq_comm]
    · simp

/-- An answer that repeats an earlier one leaves nothing to remember. -/
theorem Records.again (records : Records taken answers r) {q : Request} {a : Answer}
    (ha : a ∈ answers) (same : a.origin = q.origin) :
    Records taken (answers ++ [⟨q, a.localName⟩]) r := by
  have known : Answer.helper ⟨q, a.localName⟩ = a.helper := by
    obtain ⟨source, exported⟩ := Prod.mk.inj same
    simp [Answer.helper, source, exported]
  have mem : Answer.origin ⟨q, a.localName⟩ ∈ answers.map Answer.origin :=
    List.mem_map.mpr ⟨a, ha, same⟩
  refine ⟨?_, ?_, ?_, ?_, ?_⟩
  · rw [List.map_append, List.map_singleton, eraseDups_concat_of_mem mem]
    exact records.origins
  · intro h
    rw [records.mem_helpers]
    constructor
    · rintro ⟨b, hb, rfl⟩
      exact ⟨b, List.mem_append_left _ hb, rfl⟩
    · rintro ⟨b, hb, rfl⟩
      rcases List.mem_append.mp hb with old | last
      · exact ⟨b, old, rfl⟩
      · rw [List.mem_singleton.mp last]
        exact ⟨a, ha, known.symm⟩
  · intro t
    have repeated : a.localName ∈ answers.map Answer.localName := List.mem_map_of_mem ha
    rw [records.used, List.map_append, List.map_singleton, ← List.append_assoc,
      List.mem_append (t := [a.localName]), List.mem_singleton]
    constructor
    · exact .inl
    · rintro (old | rfl)
      · exact old
      · exact List.mem_append_right taken repeated
  · intro b hb
    rcases List.mem_append.mp hb with old | last
    · exact records.fresh b old
    · rw [List.mem_singleton.mp last]
      exact records.fresh a ha
  · apply name_iff_concat records.name_iff
    intro b hb
    rw [records.name_iff b hb a ha, same]
    rfl

/-- The first answer for an export, under a name that is free, adds a helper. -/
theorem Records.anew (records : Records taken answers r) {q : Request} {free : Text}
    (first : ∀ a ∈ answers, a.origin ≠ q.origin) (unused : free ∉ r.used) :
    Records taken (answers ++ [⟨q, free⟩])
      ⟨free :: r.used, r.helpers ++ [⟨q.source, q.exported, free⟩]⟩ := by
  have open_ : free ∉ taken ++ answers.map Answer.localName := fun mem =>
    unused ((records.used free).mpr mem)
  rw [List.mem_append, not_or] at open_
  have new : Answer.origin ⟨q, free⟩ ∉ answers.map Answer.origin := by
    intro mem
    obtain ⟨a, ha, same⟩ := List.mem_map.mp mem
    exact first a ha same
  refine ⟨?_, ?_, ?_, ?_, ?_⟩
  · rw [List.map_append, List.map_append, List.map_singleton, List.map_singleton,
      eraseDups_concat_of_not_mem new, records.origins]
    rfl
  · intro h
    rw [List.mem_append, List.mem_singleton, records.mem_helpers]
    constructor
    · rintro (⟨a, ha, rfl⟩ | rfl)
      · exact ⟨a, List.mem_append_left _ ha, rfl⟩
      · exact ⟨⟨q, free⟩, List.mem_append_right _ List.mem_cons_self, rfl⟩
    · rintro ⟨a, ha, rfl⟩
      rcases List.mem_append.mp ha with old | last
      · exact .inl ⟨a, old, rfl⟩
      · exact .inr (congrArg Answer.helper (List.mem_singleton.mp last))
  · intro t
    rw [List.map_append, List.map_singleton, ← List.append_assoc,
      List.mem_append (t := [free]), ← records.used, List.mem_cons, List.mem_singleton, or_comm]
  · intro b hb
    rcases List.mem_append.mp hb with old | last
    · exact records.fresh b old
    · rw [List.mem_singleton.mp last]
      exact open_.1
  · apply name_iff_concat records.name_iff
    intro a ha
    refine iff_of_false ?_ (first a ha)
    intro same
    exact open_.2 (List.mem_map.mpr ⟨a, ha, same⟩)

/-- What one request does: the answer is on record, and for an export that was not asked for before
it is the first free candidate. -/
theorem Records.resolve (records : Records taken answers r) (q : Request) :
    ∃ localName next, r.resolve q.source q.exported q.name = (localName, next) ∧
      Records taken (answers ++ [⟨q, localName⟩]) next ∧
      ((∀ a ∈ answers, a.origin ≠ q.origin) →
        IsFirstFree (taken ++ answers.map Answer.localName) q.name localName) := by
  rw [Registry.resolve]
  cases found : r.find? q.source q.exported with
  | some helper =>
    rw [Registry.find?] at found
    obtain ⟨a, ha, rfl⟩ := (records.mem_helpers helper).mp (List.mem_of_find?_eq_some found)
    have provided := List.find?_some found
    have same : a.origin = q.origin := provides_iff.mp provided
    exact ⟨a.localName, r, rfl, records.again ha same, fun first => absurd same (first a ha)⟩
  | none =>
    have free := freshName_isFirstFree r q.name
    have first : ∀ a ∈ answers, a.origin ≠ q.origin := by
      intro a ha same
      have known := List.find?_eq_none.mp found _ ((records.mem_helpers _).mpr ⟨a, ha, rfl⟩)
      exact known (provides_iff.mpr same)
    exact ⟨_, _, rfl, records.anew first free.not_mem, fun _ => free.congr records.used⟩

/-- What a whole run does, from what one request does. -/
theorem Records.resolveAll (records : Records taken answers r) (requests : List Request) :
    ∃ given last, r.resolveAll requests = (given, last) ∧
      given.map Answer.request = requests ∧
      Records taken (answers ++ given) last ∧
      ∀ before a after, given = before ++ a :: after →
        (∀ b ∈ answers ++ before, b.origin ≠ a.origin) →
          IsFirstFree (taken ++ (answers ++ before).map Answer.localName) a.request.name
            a.localName := by
  -- what was answered before the run stays on record, so it is generalised with the registry
  induction requests generalizing answers r with
  | nil =>
    refine ⟨[], r, rfl, rfl, by simpa using records, ?_⟩
    intro before a after same
    simp at same
  | cons q rest ih =>
    obtain ⟨localName, next, resolved, step, first⟩ := records.resolve q
    obtain ⟨given, last, ran, requests, run, later⟩ := ih step
    refine ⟨⟨q, localName⟩ :: given, last, ?_, ?_, ?_, ?_⟩
    · rw [Registry.resolveAll, resolved]
      dsimp only
      rw [ran]
    · rw [List.map_cons, requests]
    · rwa [List.append_cons]
    · intro before a after same others
      cases before with
      | nil =>
        cases same
        rw [List.append_nil] at others ⊢
        exact first others
      | cons b before =>
        cases same
        rw [List.append_cons] at others ⊢
        exact later before a after rfl others

end Records

/-- A registry answers every request of a run. Two answers agree exactly if they are for the same
export, and none is a name of the program. The first answer for an export is the first candidate
that is neither a name of the program nor given already, and the search for it ends. At last the
program gets one import for each export, in the order in which they were first asked for, and
keeps its statements. -/
theorem resolveAll_sound (place : Place) (body : List Node) (requests : List Request) :
    ∃ (answers : List Answer) (last : Registry) (imports : List Helper),
      (ofProgram ⟨place, .program body⟩).resolveAll requests = (answers, last) ∧
      answers.map Answer.request = requests ∧
      (∀ a ∈ answers, ∀ b ∈ answers, a.localName = b.localName ↔ a.origin = b.origin) ∧
      (∀ a ∈ answers, ∀ n ∈ (⟨place, .program body⟩ : Node).walk, n.name? ≠ some a.localName) ∧
      (∀ before a after, answers = before ++ a :: after → (∀ b ∈ before, b.origin ≠ a.origin) →
        let taken := (⟨place, .program body⟩ : Node).walk.filterMap Node.name? ++
          before.map Answer.localName
        IsFirstFree taken a.request.name a.localName ∧
          Search taken a.request.name 1 a.localName) ∧
      imports.map Helper.origin = (requests.map Request.origin).eraseDups ∧
      (∀ a ∈ answers, a.helper ∈ imports) ∧
      last.apply ⟨place, .program body⟩ =
        ⟨place, .program (imports.map Helper.declaration ++ body)⟩ := by
  obtain ⟨answers, last, ran, asked, run, first⟩ :=
    (records_start _).resolveAll (r := ofProgram ⟨place, .program body⟩) requests
  rw [List.nil_append] at run
  refine ⟨answers, last, last.helpers, ran, asked, run.name_iff, ?_, ?_, ?_, ?_, rfl⟩
  · intro a ha n hn named
    exact run.fresh a ha (List.mem_filterMap.mpr ⟨n, hn, named⟩)
  · intro before a after same others
    have free := first before a after same others
    exact ⟨free, free.search⟩
  · rw [run.origins, ← asked, List.map_map]
    rfl
  · intro a ha
    exact (run.mem_helpers a.helper).mpr ⟨a, ha, rfl⟩

/-- Two exports whose candidates run into each other, and the first of them again. -/
def collidingRequests : List Request :=
  [⟨"m", "default", "a"⟩, ⟨"n", "x", "a2"⟩, ⟨"m", "default", "b"⟩]

theorem resolveAll_sound_colliding :
    ∃ answers last,
      (ofProgram ⟨.nowhere, .program [.plain (.identifier "a")]⟩).resolveAll collidingRequests =
        (answers, last) ∧
      answers.map Answer.localName = [Text.ofString "a2", Text.ofString "a22", Text.ofString "a2"] ∧
      IsFirstFree [Text.ofString "a", Text.ofString "a2"] "a2" "a22" := by
  obtain ⟨answers, last, imports, ran, -, -, -, first, -⟩ :=
    resolveAll_sound .nowhere [.plain (.identifier "a")] collidingRequests
  have given : ((ofProgram ⟨.nowhere, .program [.plain (.identifier "a")]⟩).resolveAll
      collidingRequests).1 = [⟨⟨"m", "default", "a"⟩, "a2"⟩, ⟨⟨"n", "x", "a2"⟩, "a22"⟩,
        ⟨⟨"m", "default", "b"⟩, "a2"⟩] := by
    decide +kernel
  rw [ran] at given
  dsimp only at given
  refine ⟨answers, last, ran, by rw [given]; rfl, ?_⟩
  refine (first [⟨⟨"m", "default", "a"⟩, "a2"⟩] ⟨⟨"n", "x", "a2"⟩, "a22"⟩ _ given ?_).1
  decide +kernel

end Registry

end Hyperscript.Lowering
