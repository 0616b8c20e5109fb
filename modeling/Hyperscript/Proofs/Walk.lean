import Hyperscript.Tree.Walk
import Mathlib.Data.List.Perm.Basic

/-!
# Walks are recursive

A node has more nodes below it than each of its parts has, so properties of trees are proved by
induction over the parts. The walk with a stack lists a node and then the walks of its parts, and
the recursive search finds a node exactly if the walk meets one.
-/
namespace Hyperscript

namespace Form

variable {α β γ : Type}

theorem map_map (g : β → γ) (f : α → β) (form : Form α) :
    (form.map f).map g = form.map (g ∘ f) := by
  cases form <;> simp [map]

/-- Only the parts of a form matter to a replacement of its parts. -/
theorem map_congr {f g : α → β} {form : Form α} (h : ∀ x ∈ form.children, f x = g x) :
    form.map f = form.map g := by
  have optional (x : Option α) : (∀ a ∈ x.toList, f a = g a) ↔ x.map f = x.map g := by
    cases x <;> simp
  have list (xs : List α) : (∀ a ∈ xs, f a = g a) ↔ xs.map f = xs.map g :=
    List.map_inj_left.symm
  cases form <;>
    simp only [children, List.forall_mem_append, List.forall_mem_cons, optional, list] at h <;>
    simp only [map, h]

theorem map_id (form : Form α) : form.map id = form := by
  cases form <;> simp [map]

end Form

namespace Node

@[simp] theorem mk_place_form (n : Node) : (⟨n.place, n.form⟩ : Node) = n := by
  cases n
  rfl

theorem fold_mk {β : Type} (layer : Place → Form β → β) (place : Place) (form : Form Node) :
    fold layer ⟨place, form⟩ = layer place (form.map (fold layer)) :=
  fold_eq layer ⟨place, form⟩

/-- The tree without its places. -/
def unplaced : Node → Node := fold fun _ form => .plain form

theorem unplaced_mk (place : Place) (form : Form Node) :
    unplaced ⟨place, form⟩ = .plain (form.map unplaced) := fold_mk _ place form

theorem size_eq (n : Node) : n.size = (n.children.map size).foldr (· + ·) 1 := by
  rw [size, fold_eq, Form.children_map]
  rfl

theorem size_pos (n : Node) : 0 < n.size := by
  rw [size_eq]
  induction n.children.map size with
  | nil => exact Nat.one_pos
  | cons k rest ih => exact Nat.lt_of_lt_of_le ih (Nat.le_add_left _ _)

/-- The nodes that a stack stands for. -/
def weight (stack : List Node) : Nat := (stack.map size).foldr (· + ·) 0

@[simp] theorem weight_cons (n : Node) (stack : List Node) :
    weight (n :: stack) = n.size + weight stack := rfl

theorem weight_append (left right : List Node) :
    weight (left ++ right) = weight left + weight right := by
  induction left with
  | nil => simp [weight]
  | cons n rest ih => simp [ih, Nat.add_assoc]

theorem size_children (n : Node) : n.size = weight n.children + 1 := by
  rw [size_eq, weight]
  induction n.children.map size with
  | nil => rfl
  | cons k rest ih => simp only [List.foldr_cons, ih, Nat.add_assoc]

theorem size_le_weight {c : Node} {stack : List Node} (h : c ∈ stack) : c.size ≤ weight stack := by
  induction stack with
  | nil => cases h
  | cons n rest ih =>
    rcases List.mem_cons.mp h with rfl | later
    · exact Nat.le_add_right _ _
    · exact Nat.le_trans (ih later) (Nat.le_add_left _ _)

theorem size_lt_of_mem {c n : Node} (h : c ∈ n.children) : c.size < n.size := by
  rw [size_children n]
  exact Nat.lt_succ_of_le (size_le_weight h)

/-- What holds of a node whenever it holds of its parts holds of every node. -/
theorem induction {motive : Node → Prop}
    (step : ∀ n : Node, (∀ c ∈ n.children, motive c) → motive n) (n : Node) : motive n := by
  have bounded (k : Nat) : ∀ n : Node, n.size ≤ k → motive n := by
    induction k with
    | zero => exact fun n h => absurd (size_pos n) (Nat.not_lt.mpr h)
    | succ k ih =>
      intro n h
      exact step n fun c hc => ih c (Nat.le_of_lt_succ (Nat.lt_of_lt_of_le (size_lt_of_mem hc) h))
  exact bounded n.size n (Nat.le_refl _)

/-- With fuel for every node on it, the stack is walked from top to bottom. -/
theorem walkFrom_eq (fuel : Nat) (stack : List Node) (h : weight stack ≤ fuel) :
    walkFrom fuel stack = stack.flatMap walk := by
  induction fuel using Nat.strongRecOn generalizing stack with
  | _ fuel ih =>
    cases stack with
    | nil => cases fuel <;> rfl
    | cons n rest =>
      have total : weight n.children + 1 + weight rest ≤ fuel := by
        rw [← size_children]
        exact h
      obtain ⟨k, rfl⟩ : ∃ k, fuel = k + 1 := ⟨fuel - 1, by omega⟩
      have below : weight (n.children ++ rest) ≤ k := by rw [weight_append]; omega
      have alone : walk n = n :: n.children.flatMap walk := by
        have fits : weight n.children < k + 1 := by omega
        rw [walk, size_children, walkFrom, List.append_nil]
        exact congrArg (n :: ·) (ih _ fits _ (Nat.le_refl _))
      rw [walkFrom, ih k (Nat.lt_succ_self k) _ below, List.flatMap_cons, alone,
        List.flatMap_append, List.cons_append]

theorem walk_eq (n : Node) : n.walk = n :: n.children.flatMap walk := by
  rw [walk, size_children, walkFrom, List.append_nil, walkFrom_eq _ _ (Nat.le_refl _)]

theorem mem_walk_iff {m n : Node} : m ∈ n.walk ↔ m = n ∨ ∃ c ∈ n.children, m ∈ c.walk := by
  rw [walk_eq, List.mem_cons, List.mem_flatMap]

theorem self_mem_walk (n : Node) : n ∈ n.walk := mem_walk_iff.mpr (.inl rfl)

theorem mem_walk_of_mem_children {m c n : Node} (hc : c ∈ n.children) (hm : m ∈ c.walk) :
    m ∈ n.walk :=
  mem_walk_iff.mpr (.inr ⟨c, hc, hm⟩)

/-- A property of all nodes of a tree is a property of its root and of its parts' trees. -/
theorem forall_mem_walk_iff {p : Node → Prop} (n : Node) :
    (∀ m ∈ n.walk, p m) ↔ p n ∧ ∀ c ∈ n.children, ∀ m ∈ c.walk, p m := by
  simp only [walk_eq n, List.mem_cons, List.mem_flatMap, forall_eq_or_imp, forall_exists_index,
    and_imp]
  refine and_congr_right fun _ => ⟨fun h c hc m hm => h m c hc hm, fun h m c hc hm => h c hc m hm⟩

theorem mem_walk_trans {m k n : Node} (hm : m ∈ k.walk) (hk : k ∈ n.walk) : m ∈ n.walk := by
  induction n using Node.induction with
  | step n ih =>
    rcases mem_walk_iff.mp hk with rfl | ⟨c, hc, below⟩
    · exact hm
    · exact mem_walk_of_mem_children hc (ih c hc below)

/-- What holds of a node whenever it holds of everything below it holds of every node. -/
theorem walkInduction {motive : Node → Prop}
    (step : ∀ n : Node, (∀ c ∈ n.children, ∀ m ∈ c.walk, motive m) → motive n) (n : Node) :
    motive n := by
  have all : ∀ m ∈ n.walk, motive m := by
    induction n using Node.induction with
    | step n ih => exact (forall_mem_walk_iff n).mpr ⟨step n ih, ih⟩
  exact all n (self_mem_walk n)

section Visit

variable {β : Type} (find : Node → Form (Visit β) → β)

/-- A recursive visit, given what is found at a node when its parts have been visited. -/
def visit : Node → Visit β :=
  fold fun place form => ⟨⟨place, form.map Visit.node⟩, find ⟨place, form.map Visit.node⟩ form⟩

theorem visit_node (n : Node) : (visit find n).node = n := by
  induction n using Node.induction with
  | step n ih =>
    rw [visit, fold_eq]
    have same := (Form.map_map Visit.node (visit find) n.form).trans
      ((Form.map_congr ih).trans (Form.map_id _))
    exact (congrArg (Node.mk n.place) same).trans (mk_place_form n)

theorem visit_found (n : Node) : (visit find n).found = find n (n.form.map (visit find)) := by
  have same := visit_node find n
  rw [visit, fold_eq] at same ⊢
  exact congrArg (find · _) same

end Visit

/-- The recursive search looks at a node, then below its parts in their order. -/
theorem firstBelow_eq (test : Node → Bool) (n : Node) :
    n.firstBelow test =
      if test n then some n else n.children.findSome? (firstBelow test) := by
  let find (here : Node) (form : Form (Visit (Option Node))) : Option Node :=
    if test here then some here else form.children.findSome? Visit.found
  refine (visit_found find n).trans ?_
  simp only [find]
  rw [Form.children_map, List.findSome?_map]
  rfl

/-- The recursive search and the walk meet the same node first. -/
theorem firstBelow_eq_find? (test : Node → Bool) (n : Node) :
    n.firstBelow test = n.walk.find? test := by
  induction n using Node.induction with
  | step n ih =>
    rw [firstBelow_eq, walk_eq, List.find?_cons, List.find?_flatMap]
    cases test n with
    | true => rfl
    | false =>
      simp only [Bool.false_eq_true, if_false]
      generalize n.children = cs at ih
      induction cs with
      | nil => rfl
      | cons c rest below =>
        rw [List.findSome?_cons, List.findSome?_cons, ih c List.mem_cons_self,
          below fun d hd => ih d (List.mem_cons_of_mem c hd)]

theorem firstBelow_eq_none_iff {test : Node → Bool} {n : Node} :
    n.firstBelow test = none ↔ ∀ m ∈ n.walk, test m = false := by
  rw [firstBelow_eq_find?, List.find?_eq_none]
  simp only [Bool.not_eq_true]

/-- The nodes of a tree with parts before what they are parts of. -/
def postorder (n : Node) : List Node :=
  (visit (fun here form => form.children.flatMap Visit.found ++ [here]) n).found

theorem postorder_eq (n : Node) : n.postorder = n.children.flatMap postorder ++ [n] := by
  refine (visit_found _ n).trans ?_
  rw [Form.children_map, List.flatMap_map]
  rfl

theorem postorder_perm (n : Node) : n.postorder.Perm n.walk := by
  induction n using Node.induction with
  | step n ih =>
    have below : (n.children.flatMap postorder).Perm (n.children.flatMap walk) :=
      List.Perm.flatMap_left _ ih
    rw [postorder_eq, walk_eq]
    exact (List.perm_append_singleton n _).trans (below.cons n)

end Node

end Hyperscript
