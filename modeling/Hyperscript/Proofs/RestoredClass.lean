import Hyperscript.Proofs.RestoredExpression

/-!
# Classes are read back

The members of a class and what decorates them. A decorator is a dotted name or a call of one, and
the key of a member must not be spelled like a word.
-/
namespace Hyperscript.Node

open Grammar

variable {place namePlace callPlace : Place} {n key body object callee : Node} {kind name : Text}
variable {params decorators members arguments : List Node} {id superClass value : Option Node}
variable {computed isStatic spacious : Bool}

section Decorators

/-- However it is printed, what decorates is read back as such, and nothing binds tighter. -/
def RestoresTarget (n : Node) : Prop :=
  n.Restores (.nonterminal .decoratorTarget) ∧ Precedence.call ≤ n.precedence

theorem restoresTarget_name (free : IsFreeName name) :
    RestoresTarget ⟨place, .identifier name⟩ := by
  refine ⟨fun _ _ => ⟨name, by rw [Node.print]; rfl, ?_⟩,
    (by decide : Precedence.call ≤ Precedence.primary)⟩
  exact denotes_token (i := 0) (.name free) (by decide) rfl rfl apply_identifier

theorem restoresTarget_member (h : object.RestoresTarget) (isName : IsName name) :
    RestoresTarget ⟨place, .member object ⟨namePlace, .identifier name⟩ false⟩ := by
  refine ⟨fun pretty depth => ?_, Nat.le_refl _⟩
  obtain ⟨text, printed, denotes⟩ := h.1 pretty depth
  refine ⟨text ++ "." ++ name, ?_, denotes_decoratorMember isName denotes⟩
  rw [Node.print, printed, Node.print]
  simp [bind, Except.bind, pure, Except.pure, operand_of_le h.2]

theorem restores_decorator (h : n.RestoresTarget) :
    Restores (.nonterminal .decorator) ⟨place, .decorator n⟩ := by
  intro pretty depth
  obtain ⟨text, printed, denotes⟩ := h.1 pretty depth
  refine ⟨"@" ++ text, ?_, denotes_decorator denotes⟩
  rw [Node.print, printed]
  simp only [bind, Except.bind, pure, Except.pure, operand_of_le h.2]

theorem restores_decoratorCall (h : callee.RestoresTarget)
    (each : ∀ n ∈ arguments, n.RestoresItem .argument Precedence.assignment) :
    Restores (.nonterminal .decorator)
      ⟨place, .decorator ⟨callPlace, .call callee arguments spacious⟩⟩ := by
  intro pretty depth
  obtain ⟨text, printed, denotes⟩ := h.1 pretty depth
  obtain ⟨inside, detached, others, print_eq⟩ := Restorable.print_call each pretty depth
  refine ⟨"@" ++ (text ++ inside), ?_, denotes_decoratorCall denotes detached others⟩
  rw [Node.print, print_eq text printed, operand_of_le h.2]
  have tight : Precedence.call ≤ precedence ⟨callPlace, .call callee arguments spacious⟩ :=
    Nat.le_refl _
  simp only [bind, Except.bind, pure, Except.pure, operand_of_le tight]

theorem printAll_restores {x : Symbol} {ns : List Node} (each : ∀ n ∈ ns, n.Restores x)
    (pretty : Bool) (depth : Nat) : ∃ texts, printAll pretty depth 0 ns = .ok texts ∧
      List.Forall₂ (fun n t => Denotes x t (IsNode n)) ns texts := by
  induction ns with
  | nil => exact ⟨[], rfl, .nil⟩
  | cons n ns ih =>
    obtain ⟨text, printed, denotes⟩ := each n List.mem_cons_self pretty depth
    obtain ⟨texts, printedAll, all⟩ := ih fun m mem => each m (List.mem_cons_of_mem n mem)
    refine ⟨text :: texts, ?_, .cons denotes all⟩
    rw [printAll, printed, printedAll]
    simp only [bind, Except.bind, pure, Except.pure, operand_of_le (Nat.zero_le _)]

end Decorators

section Members

theorem printOption_denotes (h : ∀ m ∈ value, m.Restorable) (pretty : Bool) (depth least : Nat) :
    ∃ t, printOption pretty depth least value = .ok t ∧
      DenotesOption (.nonterminal (.chain true (Precedence.level least))) value t := by
  cases value with
  | none => exact ⟨none, rfl, .none⟩
  | some m =>
    obtain ⟨text, printed, -, denotes⟩ := (h m rfl).operand least pretty depth
    refine ⟨some (m.operand least text), ?_, .some (denotes true nofun)⟩
    rw [printOption, printed]
    rfl

theorem restores_classMethod
    (above : ∀ d ∈ decorators, Build.isDecorator d = true ∧ d.Restores (.nonterminal .decorator))
    (known : kind ∈ ["method", "get", "set"].map Text.ofString) (hk : key.RestoresFreeKey computed)
    (hp : ∀ p ∈ params, p.RestoresItem .param Precedence.assignment)
    (hb : body.Restores (.nonterminal .block)) :
    Restores (.nonterminal .classMember)
      ⟨place, .classMethod key params body kind isStatic computed decorators⟩ := by
  intro pretty depth
  have marks : ∀ d ∈ decorators, Build.isDecorator d = true := fun d mem => (above d mem).1
  obtain ⟨aboves, printedAbove, all⟩ :=
    printAll_restores (fun d mem => (above d mem).2) pretty depth
  obtain ⟨text, printed, denotes⟩ := hk pretty depth
  obtain ⟨texts, printedAll, items⟩ := printAll_items hp pretty depth
  obtain ⟨text', printed', denotes'⟩ := hb pretty depth
  refine ⟨_, ?_, denotes_classMethod all marks known denotes items denotes' depth⟩
  rw [Node.print, printedAbove, printed, printedAll, printed']
  simp [bind, Except.bind, pure, Except.pure, staticText, accessorText, Text.ofString]

theorem restores_classProperty
    (above : ∀ d ∈ decorators, Build.isDecorator d = true ∧ d.Restores (.nonterminal .decorator))
    (hk : key.RestoresFreeKey computed) (hv : ∀ m ∈ value, m.Restorable) :
    Restores (.nonterminal .classMember)
      ⟨place, .classProperty key value isStatic computed decorators⟩ := by
  intro pretty depth
  have marks : ∀ d ∈ decorators, Build.isDecorator d = true := fun d mem => (above d mem).1
  obtain ⟨aboves, printedAbove, all⟩ :=
    printAll_restores (fun d mem => (above d mem).2) pretty depth
  obtain ⟨text, printed, denotes⟩ := hk pretty depth
  obtain ⟨initial, printedInitial, other⟩ :=
    printOption_denotes hv pretty depth Precedence.assignment
  refine ⟨_, ?_, denotes_classProperty all marks denotes other depth⟩
  rw [Node.print, printedAbove, printed, printedInitial]
  cases initial <;>
    simp [bind, Except.bind, pure, Except.pure, staticText, initialText, Text.ofString]

theorem restores_classBody (each : ∀ m ∈ members, m.Restores (.nonterminal .classMember)) :
    Restores (.nonterminal .classBody) ⟨place, .classBody members⟩ := by
  intro pretty depth
  obtain ⟨texts, printed, all⟩ := printAll_restores each pretty (depth + 1)
  rw [Node.print, printed]
  cases all with
  | nil => exact ⟨"\x7b\x7d", rfl, denotes_nothing encloses_classBody ⟨_, rfl, .intro rfl⟩⟩
  | cons first others =>
    refine ⟨_, rfl, denotes_enclosed encloses_classBody repeats_classMembers blank_feed first
      (.of_denotes others) trivial ?_⟩
    exact fun _ nodes => ⟨_, rfl, .intro (by simp [Form.map, Form.asRead, nodes.compact])⟩

theorem Restorable.classExpression (free : ∀ n ∈ id, n.IsFree) (hs : ∀ m ∈ superClass, m.Restorable)
    (hb : body.Restores (.nonterminal .classBody)) :
    Restorable ⟨place, .classExpression id superClass body []⟩ := by
  intro pretty depth
  obtain ⟨parent, printedParent, extension⟩ :=
    printOption_denotes hs pretty depth Precedence.call
  obtain ⟨text, printed, denotes⟩ := hb pretty depth
  have print_eq : Node.print pretty depth ⟨place, .classExpression id superClass body []⟩ =
      .ok (bareClassText id parent text) := by
    rw [Node.print, printedParent, printed]
    simp [bind, Except.bind, pure, Except.pure, printAll, classText_eq, Layout.decorators,
      Text.ofString]
  exact ⟨_, print_eq, rfl, fun brace _ =>
    .primary (.pass (i := 11) (by decide) rfl rfl (denotes_class free extension denotes)) brace _⟩

end Members

end Hyperscript.Node
