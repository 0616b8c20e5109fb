import Hyperscript.Proofs.ParameterPattern

/-!
# Where nodes start

The search for the place of a node goes into the first group that is not empty and does not come
back: if nothing in the group has a line, nothing behind it is looked at. So the place found is
always that of the first part with a line, but the search finds none if a group without any stands
in front. Only an arrow function and a member of a class are placed by a group and what follows it.
-/
namespace Hyperscript.Grammar

namespace Located

mutual

/-- The places with a line in an item, at any depth, from left to right. -/
def places : Located → List Place
  | .unlocated => []
  | .part place => if place.line = 0 then [] else [place]
  | .group items => placesIn items

def placesIn : List Located → List Place
  | [] => []
  | item :: rest => places item ++ placesIn rest

end

/-- Something has a line, but at some depth a group that is not empty and has none stands in front
of it. -/
inductive Hidden : List Located → Prop
  | behind {items rest : List Located} : items ≠ [] → placesIn items = [] → placesIn rest ≠ [] →
      Hidden (.group items :: rest)
  | inside {items : List Located} (rest : List Located) : Hidden items →
      Hidden (.group items :: rest)
  | later {item : Located} {rest : List Located} : places item = [] → Hidden rest →
      Hidden (item :: rest)

section Search

variable {item : Located} {items rest : List Located} {p : Place}

theorem decisive_group (nonempty : items ≠ []) : decisive (.group items) = some (first items) := by
  cases items with
  | nil => exact absurd rfl nonempty
  | cons item rest => simp [decisive]

theorem first_cons_silent (silent : decisive item = none) : first (item :: rest) = first rest := by
  simp only [first, silent]

theorem first_cons_decisive {found : Option Place} (decides : decisive item = some found) :
    first (item :: rest) = found := by
  simp only [first, decides]

theorem places_of_silent (silent : decisive item = none) : places item = [] := by
  cases item with
  | unlocated => rfl
  | part place =>
    by_cases line : place.line = 0
    · simp [places, line]
    · simp [decisive, line] at silent
  | group items =>
    cases items with
    | nil => rfl
    | cons => simp [decisive] at silent

/-- The search skips an item, stops at it, or goes on inside it. -/
theorem searchInduction {motive : List Located → Prop} (nil : motive [])
    (silent : ∀ item rest, decisive item = none → motive rest → motive (item :: rest))
    (located : ∀ place rest, place.line ≠ 0 → motive rest → motive (.part place :: rest))
    (group : ∀ items rest, items ≠ [] → motive items → motive rest →
      motive (.group items :: rest)) (items : List Located) : motive items := by
  induction items using Located.rec_1
    (motive_1 := fun item => ∀ rest, motive rest → motive (item :: rest)) with
  | unlocated rest later => exact silent _ rest rfl later
  | part place rest later =>
    by_cases line : place.line = 0
    · exact silent _ rest (by simp [decisive, line]) later
    · exact located place rest line later
  | group items inside rest later =>
    cases items with
    | nil => exact silent _ rest rfl later
    | cons item items => exact group _ rest (List.cons_ne_nil _ _) inside later
  | nil => exact nil
  | cons item rest own later => exact own rest later

/-- What the search finds is the first place with a line. -/
theorem head?_of_first (found : first items = some p) : (placesIn items).head? = some p := by
  induction items using searchInduction with
  | nil => simp [first] at found
  | silent item rest silent ih =>
    rw [first_cons_silent silent] at found
    rw [placesIn, places_of_silent silent]
    exact ih found
  | located place rest line _ =>
    have own : decisive (.part place) = some (some place) := by simp [decisive, line]
    rw [first_cons_decisive own] at found
    simpa [placesIn, places, line] using found
  | group items rest nonempty ih _ =>
    rw [first_cons_decisive (decisive_group nonempty)] at found
    rw [placesIn, places, List.head?_append, ih found]
    rfl

theorem first_of_placesIn (none : placesIn items = []) : first items = Option.none := by
  cases found : first items with
  | none => rfl
  | some p =>
    have head := head?_of_first found
    rw [none] at head
    cases head

/-- An item without a line either is skipped or ends the search. -/
theorem decisive_of_places (none : places item = []) :
    decisive item = Option.none ∨ decisive item = some Option.none := by
  cases item with
  | unlocated => exact .inl rfl
  | part place =>
    by_cases line : place.line = 0
    · exact .inl (by simp [decisive, line])
    · simp [places, line] at none
  | group items =>
    by_cases empty : items = []
    · exact .inl (by simp [decisive, empty])
    · rw [places] at none
      rw [decisive_group empty, first_of_placesIn none]
      exact .inr rfl

/-- The search fails in spite of a place with a line exactly if a group hides it. -/
theorem hidden_iff : Hidden items ↔ first items = none ∧ placesIn items ≠ [] := by
  constructor
  · intro hidden
    induction hidden with
    | behind nonempty none more =>
      rw [first_cons_decisive (decisive_group nonempty), first_of_placesIn none, placesIn]
      exact ⟨rfl, fun all => more (List.append_eq_nil_iff.mp all).2⟩
    | @inside items rest _ ih =>
      have nonempty : items ≠ [] := by
        rintro rfl
        exact ih.2 rfl
      rw [first_cons_decisive (decisive_group nonempty), placesIn, places]
      exact ⟨ih.1, fun all => ih.2 (List.append_eq_nil_iff.mp all).1⟩
    | later none _ ih =>
      refine ⟨?_, fun all => ih.2 (List.append_eq_nil_iff.mp all).2⟩
      rcases decisive_of_places none with silent | ends
      · rw [first_cons_silent silent]
        exact ih.1
      · exact first_cons_decisive ends
  · induction items using searchInduction with
    | nil => exact fun h => absurd rfl h.2
    | silent item rest silent ih =>
      have none := places_of_silent silent
      rw [first_cons_silent silent, placesIn, none]
      exact fun h => .later none (ih h)
    | located place rest line _ =>
      have own : decisive (.part place) = some (some place) := by simp [decisive, line]
      rw [first_cons_decisive own]
      exact fun h => absurd h.1 (by simp)
    | group items rest nonempty ih _ =>
      rw [first_cons_decisive (decisive_group nonempty), placesIn, places]
      rintro ⟨fails, more⟩
      by_cases none : placesIn items = []
      · rw [none] at more
        exact .behind nonempty none more
      · exact .inside rest (ih ⟨fails, none⟩)

theorem line_of_mem_placesIn (h : p ∈ placesIn items) : p.line ≠ 0 := by
  induction items using searchInduction with
  | nil => cases h
  | silent item rest silent ih =>
    rw [placesIn, places_of_silent silent] at h
    exact ih h
  | located place rest line later =>
    rw [placesIn, places, if_neg line] at h
    rcases List.mem_cons.mp h with rfl | below
    · exact line
    · exact later below
  | group items rest _ inside later =>
    rw [placesIn, places] at h
    exact (List.mem_append.mp h).elim inside later

end Search

/-- The place of the first part with a line, and no place if there is none. -/
def firstPlace (items : List Located) : Place := (placesIn items).head?.getD .nowhere

section Start

variable {items rest : List Located} {ns : List Node}

theorem place_eq_nowhere_or (items : List Located) :
    place items = .nowhere ∨ (placesIn items).head? = some (place items) := by
  cases found : first items with
  | none => exact .inl (by rw [place, found, Option.getD_none])
  | some p => exact .inr (by rw [place, found, Option.getD_some, head?_of_first found])

/-- The search finds the first place with a line unless a group hides it, and nothing else. -/
theorem place_eq_firstPlace_iff : place items = firstPlace items ↔ ¬ Hidden items := by
  rw [hidden_iff, place, firstPlace]
  cases found : first items with
  | some p => simp [head?_of_first found]
  | none =>
    cases all : placesIn items with
    | nil => simp
    | cons p more =>
      have line : p.line ≠ 0 := line_of_mem_placesIn (all ▸ List.mem_cons_self)
      have other : Place.nowhere ≠ p := by
        rintro rfl
        exact line rfl
      simp [other]

/-- Items that are no groups hide nothing. -/
theorem not_hidden_of_single (single : ∀ item ∈ items, ∀ inner, item ≠ .group inner) :
    ¬ Hidden items := by
  intro hidden
  induction hidden with
  | behind | inside => exact single _ List.mem_cons_self _ rfl
  | later _ _ ih => exact ih fun item hi => single item (List.mem_cons_of_mem _ hi)

theorem not_hidden_nodes (ns : List Node) : ¬ Hidden (ns.map node) := by
  refine not_hidden_of_single fun item hi inner => ?_
  obtain ⟨n, -, rfl⟩ := List.mem_map.mp hi
  exact nofun

theorem placesIn_nodes_eq_nil_iff : placesIn (ns.map node) = [] ↔ ∀ n ∈ ns, n.place.line = 0 := by
  induction ns with
  | nil => simp [placesIn]
  | cons n rest ih =>
    rw [List.map_cons, placesIn, List.append_eq_nil_iff, ih, List.forall_mem_cons]
    simp [node, places]

/-- A list of nodes in front of single items hides their places exactly if it is not empty and no
node in it has a line. -/
theorem place_behind_nodes_iff (ns : List Node)
    (single : ∀ item ∈ rest, ∀ inner, item ≠ .group inner) :
    place (.nodes ns :: rest) = firstPlace (.nodes ns :: rest) ↔
      ns = [] ∨ (∃ n ∈ ns, n.place.line ≠ 0) ∨ placesIn rest = [] := by
  have hides : Hidden (.nodes ns :: rest) ↔
      ns ≠ [] ∧ (∀ n ∈ ns, n.place.line = 0) ∧ placesIn rest ≠ [] := by
    rw [← placesIn_nodes_eq_nil_iff]
    constructor
    · intro hidden
      cases hidden with
      | behind nonempty none more => exact ⟨by simpa using nonempty, none, more⟩
      | inside _ hidden => exact absurd hidden (not_hidden_nodes ns)
      | later _ hidden => exact absurd hidden (not_hidden_of_single single)
    · rintro ⟨nonempty, none, more⟩
      exact .behind (by simpa using nonempty) none more
  rw [place_eq_firstPlace_iff, hides]
  simp only [not_and_or, not_not, not_forall, exists_prop]

end Start

/-- The place found is that of the first part with a line, unless a group that is not empty and has
no line in it stands in front: then none is found. So an arrow function has the place of its first
part exactly if it has no parameters, or one of them has a line, or its body has none. The same goes
for a member of a class, which its decorators stand in front of. -/
theorem place_is_first_iff (items : List Located) :
    (place items = .nowhere ∨ (placesIn items).head? = some (place items)) ∧
    (place items = firstPlace items ↔ ¬ Hidden items) ∧
    (∀ params body, ∃ start,
      Build.arrowFunction [.nodes params, .node body] = .ok (.node ⟨start, .arrow params body⟩) ∧
      (start = firstPlace [.nodes params, .node body] ↔
        params = [] ∨ (∃ p ∈ params, p.place.line ≠ 0) ∨ body.place.line = 0)) ∧
    ∀ decorators static key,
      let mark := (static.map fun t : Token => Located.part t.place).getD .unlocated
      Build.memberPlace decorators static key =
          firstPlace [.nodes decorators, mark, .node key] ↔
        decorators = [] ∨ (∃ d ∈ decorators, d.place.line ≠ 0) ∨
          placesIn [mark, .node key] = [] := by
  refine ⟨place_eq_nowhere_or items, place_eq_firstPlace_iff, ?_, ?_⟩
  · intro params body
    refine ⟨_, rfl, ?_⟩
    have single : ∀ item ∈ [node body], ∀ inner, item ≠ .group inner := by simp [node]
    have alone : placesIn [node body] = [] ↔ body.place.line = 0 := by simp [placesIn, places, node]
    rw [place_behind_nodes_iff params single, alone]
  · intro decorators static key mark
    refine place_behind_nodes_iff decorators ?_
    cases static <;> simp [node]

def emptyPatternSource : Text := "(\x7b\x7d) => a"

/-- A parameter that is an empty pattern has no place, and hides that of the body. -/
theorem arrow_without_place :
    ∃ (program arrow p body : Node),
      parse emptyPatternSource [] = .ok program ∧ arrow ∈ program.walk ∧
      arrow.form = .arrow [p] body ∧ placesIn (p.walk.map node) = [] ∧
      body.place = ⟨1, 9, none⟩ ∧ firstPlace [.nodes [p], .node body] = body.place ∧
      arrow.place = .nowhere := by
  have checked : ((parse emptyPatternSource []).toOption.any fun program =>
      program.walk.any fun arrow => (onlyParameter? arrow).any fun p =>
        arrow.children.getLast?.any fun body =>
          (placesIn (p.walk.map node)).isEmpty && decide (body.place = ⟨1, 9, none⟩) &&
          decide (firstPlace [.nodes [p], .node body] = body.place) &&
          decide (arrow.place = .nowhere)) = true := by
    decide +kernel
  obtain ⟨program, parsed, checked⟩ := ok_of_any checked
  obtain ⟨arrow, member, checked⟩ := List.any_eq_true.mp checked
  obtain ⟨p, found, checked⟩ := (Option.any_eq_true _ _).mp checked
  obtain ⟨body, last, checked⟩ := (Option.any_eq_true _ _).mp checked
  obtain ⟨other, form⟩ := form_of_onlyParameter? found
  obtain rfl : other = body := by
    rw [Node.children, form] at last
    exact Option.some.inj last
  simp only [Bool.and_eq_true, decide_eq_true_eq, List.isEmpty_iff] at checked
  obtain ⟨⟨⟨unplaced, placed⟩, first⟩, nowhere⟩ := checked
  exact ⟨program, arrow, p, other, parsed, member, form, unplaced, placed, first, nowhere⟩

end Located

end Hyperscript.Grammar
