import Hyperscript.Lowering.Lowerer
import Hyperscript.Proofs.Walk
import Mathlib.Logic.Function.Iterate

/-!
# The walk is the traversal in pre-order

The loop of the walk takes one node off its stack in each step, so it has emptied the stack after as
many steps as there are nodes. A place in a tree is the list of the numbers of the parts that lead to
it. The walk lists the nodes of all places, each once and none before what it is a part of; so the
loop meets the nodes of a kind in the order in which a recursive visit does.
-/
namespace Hyperscript.Node

/-- A walk under way: the nodes listed so far, and the stack of what is still to be visited. -/
structure WalkState where
  listed : List Node
  stack : List Node

namespace WalkState

/-- One round of the loop. A walk that has nothing left to visit stays as it is. -/
def step : WalkState → WalkState
  | ⟨listed, []⟩ => ⟨listed, []⟩
  | ⟨listed, n :: stack⟩ => ⟨listed ++ [n], n.children ++ stack⟩

def start (n : Node) : WalkState := ⟨[], [n]⟩

theorem weight_step (s : WalkState) : weight s.step.stack = weight s.stack - 1 := by
  obtain ⟨listed, stack⟩ := s
  cases stack with
  | nil => rfl
  | cons n rest =>
    rw [step, weight_append, weight_cons, size_children]
    omega

theorem weight_iterate (k : Nat) (s : WalkState) :
    weight (step^[k] s).stack = weight s.stack - k := by
  induction k generalizing s with
  | zero => rfl
  | succ k ih => rw [Function.iterate_succ_apply, ih, weight_step, Nat.sub_sub, Nat.add_comm 1 k]

/-- A stack that stands for no node is empty. -/
theorem weight_eq_zero_iff {stack : List Node} : weight stack = 0 ↔ stack = [] := by
  cases stack with
  | nil => simp [weight]
  | cons n rest =>
    have positive := size_pos n
    rw [weight_cons]
    constructor
    · omega
    · exact fun empty => by cases empty

theorem stack_iterate_eq_nil_iff {k : Nat} {s : WalkState} :
    (step^[k] s).stack = [] ↔ weight s.stack ≤ k := by
  rw [← weight_eq_zero_iff, weight_iterate, Nat.sub_eq_zero_iff_le]

/-- The fuel of a walk is the number of rounds of the loop. -/
theorem listed_iterate (k : Nat) (s : WalkState) :
    (step^[k] s).listed = s.listed ++ walkFrom k s.stack := by
  induction k generalizing s with
  | zero =>
    obtain ⟨listed, stack⟩ := s
    cases stack <;> simp [walkFrom]
  | succ k ih =>
    obtain ⟨listed, stack⟩ := s
    rw [Function.iterate_succ_apply, ih]
    cases stack with
    | nil => cases k <;> simp [step, walkFrom]
    | cons n rest => simp [step, walkFrom]

end WalkState

/-- The node at a place, that is, a list of the numbers of the parts on the way to it. -/
def at? (n : Node) : List Nat → Option Node
  | [] => some n
  | i :: rest => n.children[i]?.bind fun c => c.at? rest

/-- The places in a tree, a place before those below it and before those of later parts. -/
def positions (n : Node) : List (List Nat) :=
  (visit (fun _ form => [] :: (form.children.map Visit.found).zipIdx.flatMap fun (below, i) =>
    below.map (i :: ·)) n).found

theorem positions_eq (n : Node) :
    n.positions = [] :: n.children.zipIdx.flatMap fun (c, i) => c.positions.map (i :: ·) := by
  refine (visit_found _ n).trans ?_
  rw [Form.children_map, List.map_map, List.zipIdx_map, List.flatMap_map]
  rfl

theorem at?_cons {n c : Node} {i : Nat} (part : (c, i) ∈ n.children.zipIdx) (rest : List Nat) :
    n.at? (i :: rest) = c.at? rest := by
  rw [at?, List.mk_mem_zipIdx_iff_getElem?.mp part, Option.bind_some]

theorem mem_positions_iff {n : Node} {p : List Nat} : p ∈ n.positions ↔ (n.at? p).isSome = true := by
  induction p generalizing n with
  | nil =>
    rw [positions_eq]
    exact iff_of_true List.mem_cons_self rfl
  | cons i rest ih =>
    rw [positions_eq]
    constructor
    · intro member
      obtain ⟨⟨c, j⟩, part, q, inside, same⟩ : ∃ part ∈ n.children.zipIdx,
          ∃ q ∈ part.1.positions, part.2 :: q = i :: rest := by simpa using member
      cases same
      rw [at?_cons part]
      exact ih.mp inside
    · intro found
      cases part : n.children[i]? with
      | none => simp [at?, part] at found
      | some c =>
        have mem : (c, i) ∈ n.children.zipIdx := List.mk_mem_zipIdx_iff_getElem?.mpr part
        rw [at?_cons mem] at found
        refine List.mem_cons_of_mem _ (List.mem_flatMap.mpr ⟨(c, i), mem, ?_⟩)
        exact List.mem_map_of_mem (ih.mpr found)

/-- The places come in the lexicographic order. -/
theorem positions_sorted (n : Node) : n.positions.Pairwise (· < ·) := by
  induction n using Node.induction with
  | step n ih =>
    rw [positions_eq, List.pairwise_cons, List.pairwise_flatMap]
    refine ⟨?_, ?_, ?_⟩
    · intro p member
      obtain ⟨part, -, q, -, rfl⟩ : ∃ part ∈ n.children.zipIdx,
          ∃ q ∈ part.1.positions, part.2 :: q = p := by simpa using member
      exact List.nil_lt_cons _ _
    · rintro ⟨c, i⟩ part
      rw [List.pairwise_map]
      refine (ih c (List.fst_mem_of_mem_zipIdx part)).imp fun {p q} less => ?_
      exact List.cons_lt_cons_self.mpr less
    · have ascending : n.children.zipIdx.Pairwise fun a b => a.2 < b.2 := by
        rw [← List.pairwise_map (R := (· < ·)), List.zipIdx_map_snd]
        exact List.pairwise_lt_range'
      refine ascending.imp fun {a b} less p hp q hq => ?_
      obtain ⟨p, -, rfl⟩ := List.mem_map.mp hp
      obtain ⟨q, -, rfl⟩ := List.mem_map.mp hq
      exact List.cons_lt_cons_iff.mpr (.inl less)

/-- The walk lists the nodes of all places in their order. -/
theorem walk_map_some (n : Node) : n.walk.map some = n.positions.map n.at? := by
  induction n using Node.induction with
  | step n ih =>
    rw [walk_eq, positions_eq, List.map_cons, List.map_cons, List.map_flatMap, List.map_flatMap]
    have below (part : Node × Nat) (member : part ∈ n.children.zipIdx) :
        (part.1.positions.map (part.2 :: ·)).map n.at? = part.1.walk.map some := by
      rw [List.map_map, ih part.1 (List.fst_mem_of_mem_zipIdx member)]
      exact List.map_congr_left fun p _ => at?_cons member p
    have parts : n.children.flatMap (fun c => c.walk.map some) =
        n.children.zipIdx.flatMap fun part => part.1.walk.map some := by
      conv_lhs => rw [← List.zipIdx_map_fst 0 n.children, List.flatMap_map]
    rw [parts]
    refine congrArg (some n :: ·) (List.flatMap_congr fun part member => (below part member).symm)

theorem mem_walk_iff_at? {m n : Node} : m ∈ n.walk ↔ ∃ p, n.at? p = some m := by
  have listed : m ∈ n.walk ↔ some m ∈ n.positions.map n.at? := by
    rw [← walk_map_some]
    simp
  rw [listed, List.mem_map]
  constructor
  · rintro ⟨p, -, found⟩
    exact ⟨p, found⟩
  · rintro ⟨p, found⟩
    exact ⟨p, mem_positions_iff.mpr (by rw [found]; rfl), found⟩

/-- The loop empties its stack after as many rounds as the tree has nodes, and no earlier. It has
then listed the node and, part by part, what the walks of the parts list: the nodes of all places,
each once, and before those below it. So the first namespaced name that it meets is the one that the
recursive guard refuses, and it meets an element exactly if one stands at some place. -/
theorem walk_isPreorder (n : Node) :
    WalkState.step^[n.size] (.start n) = ⟨n.walk, []⟩ ∧
      (∀ k, (WalkState.step^[k] (.start n)).stack = [] ↔ n.size ≤ k) ∧
      n.walk = n :: n.children.flatMap walk ∧
      n.walk.map some = n.positions.map n.at? ∧
      (∀ p, p ∈ n.positions ↔ (n.at? p).isSome = true) ∧
      n.positions.Pairwise (fun p q => ¬q <+: p) ∧
      Lowering.checkNamespaces n =
        (match n.walk.find? isNamespacedName with
          | some first => .error ⟨first⟩
          | none => .ok ()) ∧
      (n.containsElement = true ↔ ∃ p m, n.at? p = some m ∧ m.isElement = true) := by
  have rounds (k : Nat) : (WalkState.step^[k] (.start n)).stack = [] ↔ n.size ≤ k :=
    WalkState.stack_iterate_eq_nil_iff
  refine ⟨?_, rounds, walk_eq n, walk_map_some n, fun p => mem_positions_iff, ?_, ?_, ?_⟩
  · have listed := WalkState.listed_iterate n.size (.start n)
    have emptied := (rounds n.size).mpr (Nat.le_refl _)
    generalize WalkState.step^[n.size] (.start n) = last at listed emptied
    obtain ⟨_, _⟩ := last
    cases listed
    cases emptied
    rfl
  · refine n.positions_sorted.imp fun {p q} less before => ?_
    exact absurd less (List.not_lt.mpr before.le)
  · cases first : n.walk.find? isNamespacedName <;>
      simp only [Lowering.checkNamespaces, firstBelow_eq_find?, first]
  · rw [containsElement, List.any_eq_true]
    constructor
    · rintro ⟨m, member, element⟩
      obtain ⟨p, found⟩ := mem_walk_iff_at?.mp member
      exact ⟨p, m, found, element⟩
    · rintro ⟨p, m, found, element⟩
      exact ⟨m, mem_walk_iff_at?.mpr ⟨p, found⟩, element⟩

end Hyperscript.Node
