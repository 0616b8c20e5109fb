import Hyperscript.Proofs.Printable
import Mathlib.Data.Option.Basic
import Mathlib.Data.List.Forall2
import Mathlib.Tactic.GCongr

/-!
# Layout is not ink

Whether calls are laid out with one argument per line, at which depth a node is printed, and
whether an object fits on one line decide about spaces and line feeds only. What else is printed, and
whether there is a printed form at all, is the same for every layout.
-/
namespace Hyperscript

/-- A space or a line feed. -/
def CodePoint.isLayout (c : CodePoint) : Bool :=
  c = CodePoint.ofChar ' ' || c = CodePoint.ofChar '\n'

namespace Text

/-- The text without spaces and line feeds. -/
def ink (t : Text) : Text := t.filter (!·.isLayout)

theorem ink_append (s t : Text) : ink (s ++ t) = ink s ++ ink t := List.filter_append ..

/-- The texts differ in layout only, and neither is empty without the other. -/
structure SameInk (s t : Text) : Prop where
  ink_eq : ink s = ink t
  nil_iff : s = [] ↔ t = []

/-- Each item differs from the one at its position in layout only. -/
abbrev SameInks (ss ts : List Text) : Prop := List.Forall₂ SameInk ss ts

namespace SameInk

@[refl] theorem refl (t : Text) : SameInk t t := ⟨rfl, Iff.rfl⟩

theorem symm {s t : Text} (h : SameInk s t) : SameInk t s := ⟨h.ink_eq.symm, h.nil_iff.symm⟩

theorem trans {s t u : Text} (h : SameInk s t) (h' : SameInk t u) : SameInk s u :=
  ⟨h.ink_eq.trans h'.ink_eq, h.nil_iff.trans h'.nil_iff⟩

@[gcongr] theorem append {s s' t t' : Text} (first : SameInk s s') (second : SameInk t t') :
    SameInk (s ++ t) (s' ++ t') where
  ink_eq := by rw [ink_append, ink_append, first.ink_eq, second.ink_eq]
  nil_iff := by rw [List.append_eq_nil_iff, List.append_eq_nil_iff, first.nil_iff, second.nil_iff]

/-- Pieces of layout alone may come and go, as long as something else is there. -/
theorem of_ink {s t : Text} (h : ink s = ink t) (hs : s ≠ []) (ht : t ≠ []) : SameInk s t :=
  ⟨h, iff_of_false hs ht⟩

end SameInk

theorem SameInks.length_eq {ss ts : List Text} (h : SameInks ss ts) : ss.length = ts.length :=
  List.Forall₂.length_eq h

theorem SameInks.isEmpty_eq {ss ts : List Text} (h : SameInks ss ts) : ss.isEmpty = ts.isEmpty := by
  cases h <;> rfl

end Text

namespace Layout

open Text

theorem ink_indent (depth : Nat) : ink (indent depth) = [] := by
  rw [ink, List.filter_eq_nil_iff]
  intro c hc
  rw [(List.mem_replicate.mp hc).2]
  decide

/-- Separators with the same ink between items with the same ink. -/
theorem ink_join {separator other : Text} (same : ink separator = ink other) {ss ts : List Text}
    (h : List.Forall₂ (fun s t => ink s = ink t) ss ts) :
    ink (Text.join separator ss) = ink (Text.join other ts) := by
  induction h with
  | nil => rfl
  | @cons s t ss ts first others ih =>
    cases others with
    | nil => simpa [Text.join, List.intercalate] using first
    | cons second others =>
      simp only [Text.join, List.intercalate_cons_cons, ink_append, first, same] at ih ⊢
      rw [ih]

variable {s t : Text} {ss ts : List Text}

@[gcongr] theorem sameInk_commas (h : SameInks ss ts) : SameInk (commas ss) (commas ts) where
  ink_eq := ink_join rfl (h.imp fun _ _ => SameInk.ink_eq)
  nil_iff := by
    cases h with
    | nil => exact Iff.rfl
    | cons first others =>
      cases others with
      | nil => simpa [commas, Text.join, List.intercalate] using first.nil_iff
      | cons second others =>
        simp [commas, Text.join, List.intercalate_cons_cons, Text.ofString]

@[gcongr] theorem sameInk_parenthesize (needed : Bool) (h : SameInk s t) :
    SameInk (parenthesize needed s) (parenthesize needed t) := by
  cases needed with
  | false => exact h
  | true =>
    simp only [parenthesize, if_true]
    gcongr

/-- On one line or on lines of their own, items stand between the same brackets. -/
theorem sameInk_lines (opening separator closing mark : Text) (h : SameInks ss ts)
    (bracket : opening ≠ []) (same : ink (separator ++ "\n") = ink mark) (depth : Nat) :
    SameInk (lines opening separator closing depth ss)
      (opening ++ Text.join mark ts ++ closing) := by
  have indented : List.Forall₂ (fun s t => ink s = ink t)
      (ss.map (indent (depth + 1) ++ ·)) ts := by
    rw [List.forall₂_map_left_iff]
    refine h.imp fun s t hst => ?_
    rw [ink_append, ink_indent, List.nil_append, hst.ink_eq]
  refine .of_ink ?_ (by simp [lines, bracket]) (by simp [bracket])
  have break_eq : ink "\n" = [] := rfl
  simp only [lines, ink_append, ink_indent, break_eq, List.append_nil, ink_join same indented]

/-- The same items on lines of their own at two depths. -/
theorem sameInk_lines_lines {opening separator closing : Text} (h : SameInks ss ts)
    (bracket : opening ≠ []) (depth other : Nat) :
    SameInk (lines opening separator closing depth ss) (lines opening separator closing other ts) :=
  (sameInk_lines opening separator closing _ h bracket rfl depth).trans
    (sameInk_lines opening separator closing _ (List.forall₂_same.mpr fun t _ => .refl t) bracket
      rfl other).symm

theorem sameInk_decorators (depth other : Nat) (h : SameInks ss ts) :
    SameInk (decorators depth ss) (decorators other ts) := by
  induction h with
  | nil => exact .refl []
  | @cons s t ss ts first _ ih =>
    have below : SameInk (s ++ "\n" ++ indent depth) (t ++ "\n" ++ indent other) := by
      refine .of_ink ?_ (by simp [Text.ofString]) (by simp [Text.ofString])
      simp only [ink_append, ink_indent, first.ink_eq]
    exact below.append ih

@[gcongr] theorem sameInk_functionText (id : Option Node) (h : SameInks ss ts)
    (body : SameInk s t) : SameInk (functionText id ss s) (functionText id ts t) := by
  unfold functionText
  gcongr

theorem sameInk_classText (depth other : Nat) (exporting : Text) (id : Option Node)
    {above below : Option Text} (h : SameInks ss ts) (parent : Option.Rel SameInk above below)
    (body : SameInk s t) :
    SameInk (classText depth exporting ss id above s)
      (classText other exporting ts id below t) := by
  have decorated := sameInk_decorators depth other h
  cases parent <;> simp only [classText] <;> gcongr

theorem sameInk_importText (flags : List Bool) (h : SameInks ss ts) (source : SameInk s t) :
    SameInk (importText (flags.zip ss) s) (importText (flags.zip ts) t) := by
  have chosen (p : Bool → Bool) :
      SameInks (((flags.zip ss).filter fun e => p e.1).map (·.2))
        (((flags.zip ts).filter fun e => p e.1).map (·.2)) := by
    induction h generalizing flags with
    | nil => simp
    | @cons s t ss ts first _ ih =>
      cases flags with
      | nil => exact .nil
      | cons flag flags =>
        simp only [List.zip_cons_cons, List.filter_cons]
        split
        · exact .cons first (ih flags)
        · exact ih flags
  have others := chosen fun flag => !flag
  have named := chosen fun flag => flag
  simp only [importText, named.isEmpty_eq]
  split
  · gcongr
  · have parts := List.rel_append others (.cons ((SameInk.refl "\x7b ").append
      (sameInk_commas named) |>.append (.refl " \x7d")) .nil)
    gcongr

/-- The space behind a unary operator is the only thing that depends on the operand's text. -/
theorem sameInk_unaryText (operator : Text) (h : SameInk s t) :
    SameInk (unaryText operator s) (unaryText operator t) := by
  have spaced (u : Text) : ink (unaryText operator u) = ink (operator ++ u) := by
    rw [unaryText]
    split
    · have space : ink " " = [] := rfl
      simp only [ink_append, space, List.append_nil]
    · rfl
  have visible (u : Text) : unaryText operator u ≠ [] := by
    rw [unaryText]
    split
    · simp [Text.ofString]
    · rename_i tight
      simp only [Bool.or_eq_true, not_or] at tight
      have : operator ≠ [] := by
        rintro rfl
        exact tight.2 rfl
      simp [this]
  refine .of_ink ?_ (visible s) (visible t)
  rw [spaced, spaced, ink_append, ink_append, h.ink_eq]

end Layout

/-- Both computations give results that are related, or both stop with the same error. -/
inductive Alike {ε α β : Type} (R : α → β → Prop) : Except ε α → Except ε β → Prop
  | error (e : ε) : Alike R (.error e) (.error e)
  | ok {a : α} {b : β} : R a b → Alike R (.ok a) (.ok b)

namespace Alike

variable {ε α β γ δ : Type} {R : α → β → Prop} {S : γ → δ → Prop}

theorem bind {x : Except ε α} {y : Except ε β} {f : α → Except ε γ} {g : β → Except ε δ}
    (h : Alike R x y) (later : ∀ a b, R a b → Alike S (f a) (g b)) :
    Alike S (x >>= f) (y >>= g) := by
  cases h with
  | error e => exact .error e
  | ok related => exact later _ _ related

theorem of_ok {x : Except ε α} {b : β} (h : Alike R x (.ok b)) : ∃ a, x = .ok a ∧ R a b := by
  cases h with
  | ok related => exact ⟨_, rfl, related⟩

theorem trans_symm {x y z : Except ε Text} (h : Alike Text.SameInk x z)
    (h' : Alike Text.SameInk y z) : Alike Text.SameInk x y := by
  cases h with
  | error e =>
    cases h'
    exact .error e
  | ok first =>
    cases h' with
    | ok second => exact .ok (first.trans second.symm)

end Alike

namespace Node

open Text Layout

section Parts

variable {s t : Text} (n : Node)

@[gcongr] theorem sameInk_operand (least : Nat) (h : SameInk s t) :
    SameInk (n.operand least s) (n.operand least t) :=
  sameInk_parenthesize _ h

@[gcongr] theorem sameInk_printedKey (computed : Bool) (h : SameInk s t) :
    SameInk (n.printedKey computed s) (n.printedKey computed t) := by
  unfold printedKey
  split <;> gcongr

@[gcongr] theorem sameInk_arrowBody (h : SameInk s t) :
    SameInk (n.arrowBody s) (n.arrowBody t) := by
  unfold arrowBody
  split <;> gcongr

end Parts

/-- The node is printed with the same ink in every layout. -/
def Steady (n : Node) : Prop :=
  ∀ (pretty other : Bool) (depth elsewhere : Nat),
    Alike SameInk (n.print pretty depth) (n.print other elsewhere)

variable {pretty other : Bool} {depth elsewhere : Nat}

theorem printAll_alike {ns : List Node} (each : ∀ n ∈ ns, n.Steady) (pretty other : Bool)
    (depth elsewhere least : Nat) :
    Alike SameInks (printAll pretty depth least ns) (printAll other elsewhere least ns) := by
  induction ns with
  | nil => exact .ok .nil
  | cons n rest ih =>
    rw [printAll, printAll]
    refine .bind (each n List.mem_cons_self pretty other depth elsewhere) fun s t first => ?_
    refine .bind (ih fun m hm => each m (List.mem_cons_of_mem n hm)) fun ss ts others => ?_
    exact .ok (.cons (sameInk_operand n least first) others)

theorem printOption_alike {n : Option Node} (each : ∀ m ∈ n.toList, m.Steady)
    (pretty other : Bool) (depth elsewhere least : Nat) :
    Alike (Option.Rel SameInk) (printOption pretty depth least n)
      (printOption other elsewhere least n) := by
  cases n with
  | none => exact .ok .none
  | some m =>
    rw [printOption, printOption]
    refine .bind (each m (by simp) pretty other depth elsewhere) fun s t own => ?_
    exact .ok (.some (sameInk_operand m least own))

/-- However an object is laid out, its ink is that of one line. -/
theorem object_alike {place : Place} {properties : List Node}
    (each : ∀ n ∈ properties, n.Steady) : Steady ⟨place, .objectExpression properties⟩ := by
  intro pretty other depth elsewhere
  have line (pretty : Bool) (depth : Nat) :
      Alike SameInk (print pretty depth ⟨place, .objectExpression properties⟩) (do
        let printed ← printAll other elsewhere 0 properties
        return "\x7b " ++ commas printed ++ " \x7d") := by
    have here := printAll_alike each pretty other depth elsewhere 0
    have deeper := printAll_alike each pretty other (depth + 1) elsewhere 0
    rw [print]
    cases base : printAll other elsewhere 0 properties with
    | error e =>
      rw [base] at here
      generalize printAll pretty depth 0 properties = x at here
      cases here
      exact .error e
    | ok items =>
      rw [base] at here deeper
      obtain ⟨printed, first, same⟩ := here.of_ok
      obtain ⟨members, second, same'⟩ := deeper.of_ok
      have bracket : Text.ofString "\x7b" ≠ [] := by decide
      rw [first, second]
      dsimp only [bind, Except.bind, pure, Except.pure]
      split
      · rename_i none
        obtain rfl := List.isEmpty_iff.mp none
        cases same
        exact .ok (.of_ink rfl (by decide) (by decide))
      · split
        · have spaced : SameInk (lines "\x7b" "," "\x7d" depth members)
              ("\x7b" ++ commas items ++ "\x7d") :=
            sameInk_lines "\x7b" "," "\x7d" ", " same' bracket rfl depth
          refine .ok (spaced.trans (.of_ink ?_ (by simp [bracket]) (by simp [Text.ofString])))
          have space : ink "\x7b " = ink "\x7b" ∧ ink " \x7d" = ink "\x7d" := ⟨rfl, rfl⟩
          simp only [ink_append, space]
        · refine .ok ?_
          gcongr
  exact (line pretty depth).trans_symm (line other elsewhere)

/-- A call with one argument per line has the ink of a call on one line. -/
theorem call_alike {place : Place} {callee : Node} {arguments : List Node} {spacious : Bool}
    (own : callee.Steady) (each : ∀ n ∈ arguments, n.Steady) :
    Steady ⟨place, .call callee arguments spacious⟩ := by
  intro pretty other depth elsewhere
  have line (pretty : Bool) (depth : Nat) :
      Alike SameInk (print pretty depth ⟨place, .call callee arguments spacious⟩) (do
        let function ← print other elsewhere callee
        let printed ← printAll other elsewhere Precedence.assignment arguments
        return callee.operand Precedence.call function ++ "(" ++ commas printed ++ ")") := by
    rw [print]
    refine .bind (own pretty other depth elsewhere) fun s t function => ?_
    have head := sameInk_operand callee Precedence.call function
    split
    · refine .bind (printAll_alike each pretty other (depth + 1) elsewhere _) fun ss ts same => ?_
      have spaced : SameInk (lines "(" "," ")" depth ss) ("(" ++ commas ts ++ ")") :=
        sameInk_lines "(" "," ")" ", " same (by decide) rfl depth
      refine .ok ?_
      rw [List.append_assoc, List.append_assoc, ← List.append_assoc (Text.ofString "(")]
      exact head.append spaced
    · refine .bind (printAll_alike each pretty other depth elsewhere _) fun ss ts same => ?_
      refine .ok ?_
      gcongr
  exact (line pretty depth).trans_symm (line other elsewhere)

section Classes

variable {id superClass : Option Node} {params decorators : List Node} {body : Node}

theorem class_alike (exporting : Text)
    (below : ∀ c ∈ id.toList ++ superClass.toList ++ [body] ++ decorators, c.Steady)
    (pretty other : Bool) (depth elsewhere : Nat) :
    Alike SameInk
      (do
        let above ← printAll pretty depth 0 decorators
        let parent ← printOption pretty depth Precedence.call superClass
        let text ← print pretty depth body
        return classText depth exporting above id parent text)
      (do
        let above ← printAll other elsewhere 0 decorators
        let parent ← printOption other elsewhere Precedence.call superClass
        let text ← print other elsewhere body
        return classText elsewhere exporting above id parent text) := by
  refine .bind (printAll_alike (fun m hm => below m (by simp [hm])) ..) fun ss ts decorated => ?_
  refine .bind (printOption_alike (fun m hm => below m (by simp [hm])) ..) fun _ _ parent => ?_
  refine .bind (below body (by simp) ..) fun s t same => ?_
  exact .ok (sameInk_classText depth elsewhere exporting id decorated parent same)

theorem function_alike (exporting : Text)
    (below : ∀ c ∈ id.toList ++ params ++ [body], c.Steady)
    (pretty other : Bool) (depth elsewhere : Nat) :
    Alike SameInk
      (do
        let printed ← printAll pretty depth Precedence.assignment params
        let text ← print pretty depth body
        return exporting ++ functionText id printed text)
      (do
        let printed ← printAll other elsewhere Precedence.assignment params
        let text ← print other elsewhere body
        return exporting ++ functionText id printed text) := by
  refine .bind (printAll_alike (fun m hm => below m (by simp [hm])) ..) fun ss ts printed => ?_
  refine .bind (below body (by simp) ..) fun s t same => ?_
  refine .ok ?_
  gcongr

end Classes

/-- A default export looks into a declaration of a class or a function. -/
theorem exportDefault_alike {place : Place} {declaration : Node} (own : declaration.Steady)
    (below : ∀ c ∈ declaration.children, c.Steady) :
    Steady ⟨place, .exportDefault declaration⟩ := by
  intro pretty other depth elsewhere
  by_cases isClass : ∃ p id superClass body decorators,
      declaration = ⟨p, .classDeclaration id superClass body decorators⟩
  · obtain ⟨p, id, superClass, body, decorators, rfl⟩ := isClass
    rw [print, print]
    exact class_alike _ below ..
  by_cases isFunction : ∃ p id params body, declaration = ⟨p, .functionDeclaration id params body⟩
  · obtain ⟨p, id, params, body, rfl⟩ := isFunction
    rw [print, print]
    exact function_alike _ below ..
  have expression (pretty : Bool) (depth : Nat) :
      print pretty depth ⟨place, .exportDefault declaration⟩ = (do
        let text ← print pretty depth declaration
        let ambiguous := declaration.startsLikeDeclaration && !declaration.isDeclarationLike
        let guarded := parenthesize ambiguous (declaration.operand Precedence.assignment text)
        return "export default " ++ guarded ++ ";") := by
    rw [print]
    · exact fun p id superClass body _ same => isClass ⟨p, id, superClass, body, _, same⟩
    · exact fun p id params body same => isFunction ⟨p, id, params, body, same⟩
  rw [expression, expression]
  refine .bind (own ..) fun s t same => .ok ?_
  gcongr

theorem exportNamed_alike {place : Place} {declaration : Node} {specifiers : List Node}
    (own : declaration.Steady) (below : ∀ c ∈ declaration.children, c.Steady) :
    Steady ⟨place, .exportNamed (some declaration) specifiers⟩ := by
  intro pretty other depth elsewhere
  by_cases isClass : ∃ p id superClass body decorators,
      declaration = ⟨p, .classDeclaration id superClass body decorators⟩
  · obtain ⟨p, id, superClass, body, decorators, rfl⟩ := isClass
    rw [print, print]
    exact class_alike _ below ..
  have plain (pretty : Bool) (depth : Nat) :
      print pretty depth ⟨place, .exportNamed (some declaration) specifiers⟩ = (do
        let text ← print pretty depth declaration
        return "export " ++ text) := by
    rw [print]
    exact fun p id superClass body _ same => isClass ⟨p, id, superClass, body, _, same⟩
  rw [plain, plain]
  refine .bind (own ..) fun s t same => .ok ?_
  gcongr

/-- Whether there are names to export does not depend on how they are laid out. -/
theorem exportNames_alike {place : Place} {specifiers : List Node}
    (each : ∀ n ∈ specifiers, n.Steady) : Steady ⟨place, .exportNamed none specifiers⟩ := by
  intro pretty other depth elsewhere
  rw [print, print]
  refine .bind (printAll_alike each ..) fun ss ts same => .ok ?_
  have listed := sameInk_commas same
  have empty : (commas ss).isEmpty = (commas ts).isEmpty := by
    rw [Bool.eq_iff_iff, List.isEmpty_iff, List.isEmpty_iff, listed.nil_iff]
  rw [empty]
  split
  · exact .refl _
  · gcongr

theorem arrow_alike {place : Place} {params : List Node} {body : Node}
    (each : ∀ n ∈ params, n.Steady) (own : body.Steady) : Steady ⟨place, .arrow params body⟩ := by
  intro pretty other depth elsewhere
  by_cases single : ∃ p name, params = [⟨p, .identifier name⟩]
  · obtain ⟨p, name, rfl⟩ := single
    rw [print, print]
    refine .bind (own ..) fun s t same => .ok ?_
    gcongr
  have several (pretty : Bool) (depth : Nat) :
      print pretty depth ⟨place, .arrow params body⟩ = (do
        let printed ← printAll pretty depth Precedence.assignment params
        let text ← print pretty depth body
        return "(" ++ commas printed ++ ") => " ++ body.arrowBody text) := by
    rw [print]
    exact fun p name same => single ⟨p, name, same⟩
  rw [several, several]
  refine .bind (printAll_alike each ..) fun ss ts printed => ?_
  refine .bind (own ..) fun s t same => .ok ?_
  gcongr

theorem classMethod_alike {place : Place} {key body : Node} {params decorators : List Node}
    {kind : Text} {isStatic computed : Bool}
    (below : ∀ c ∈ [key] ++ params ++ [body] ++ decorators, c.Steady) :
    Steady ⟨place, .classMethod key params body kind isStatic computed decorators⟩ := by
  intro pretty other depth elsewhere
  rw [print, print]
  refine .bind (printAll_alike (fun m hm => below m (by simp [hm])) ..) fun _ _ above => ?_
  refine .bind (below key (by simp) ..) fun _ _ name => ?_
  refine .bind (printAll_alike (fun m hm => below m (by simp [hm])) ..) fun _ _ printed => ?_
  refine .bind (below body (by simp) ..) fun _ _ text => .ok ?_
  have decorated := sameInk_decorators depth elsewhere above
  gcongr

theorem classProperty_alike {place : Place} {key : Node} {value : Option Node}
    {decorators : List Node} {isStatic computed : Bool}
    (below : ∀ c ∈ [key] ++ value.toList ++ decorators, c.Steady) :
    Steady ⟨place, .classProperty key value isStatic computed decorators⟩ := by
  intro pretty other depth elsewhere
  rw [print, print]
  refine .bind (printAll_alike (fun m hm => below m (by simp [hm])) ..) fun _ _ above => ?_
  refine .bind (below key (by simp) ..) fun _ _ name => ?_
  refine .bind (printOption_alike (fun m hm => below m (by simp [hm])) ..) fun _ _ initial => ?_
  refine .ok ?_
  have decorated := sameInk_decorators depth elsewhere above
  cases initial <;> dsimp only <;> gcongr

/-- What a shorthand stands for is read off the tree, not off the printed members. -/
theorem objectProperty_alike {place : Place} {key value : Node} {computed shorthand : Bool}
    (name : key.Steady) (own : value.Steady) :
    Steady ⟨place, .objectProperty key value computed shorthand⟩ := by
  intro pretty other depth elsewhere
  rw [print, print]
  split
  · exact .ok (.refl _)
  · split
    · exact own ..
    · refine .bind (name ..) fun _ _ _ => ?_
      refine .bind (own ..) fun _ _ _ => .ok ?_
      gcongr

theorem import_alike {place : Place} {specifiers : List Node} {source : Node}
    (each : ∀ n ∈ specifiers, n.Steady) (own : source.Steady) :
    Steady ⟨place, .importDeclaration specifiers source⟩ := by
  intro pretty other depth elsewhere
  rw [print, print]
  refine .bind (own ..) fun _ _ origin => ?_
  refine .bind (printAll_alike each ..) fun _ _ printed => .ok ?_
  split
  · gcongr
  · exact sameInk_importText _ printed origin

theorem if_alike {place : Place} {test consequent : Node} {alternate : Option Node}
    (below : ∀ c ∈ [test, consequent] ++ alternate.toList, c.Steady) :
    Steady ⟨place, .ifStatement test consequent alternate⟩ := by
  intro pretty other depth elsewhere
  have condition := below test (by simp)
  have first := below consequent (by simp)
  cases alternate with
  | none =>
    rw [print, print]
    refine .bind (condition ..) fun _ _ _ => ?_
    refine .bind (first ..) fun _ _ _ => .ok ?_
    gcongr
  | some alternate =>
    rw [print, print]
    refine .bind (condition ..) fun _ _ _ => ?_
    refine .bind (first ..) fun _ _ _ => ?_
    refine .bind (below alternate (by simp) ..) fun _ _ _ => .ok ?_
    split
    · gcongr
    · have gap : SameInk ("\n" ++ indent depth) ("\n" ++ indent elsewhere) :=
        .of_ink (by simp only [ink_append, ink_indent]) (by simp [Text.ofString])
          (by simp [Text.ofString])
      gcongr

/-- A node that prints its members on lines of their own, or a pair of braces without any. -/
theorem braced_alike {body : List Node} (each : ∀ n ∈ body, n.Steady) (separator : Text)
    (pretty other : Bool) (depth elsewhere : Nat) :
    Alike SameInk
      (do
        let printed ← printAll pretty (depth + 1) 0 body
        return if printed.isEmpty then "\x7b\x7d" else lines "\x7b" separator "\x7d" depth printed)
      (do
        let printed ← printAll other (elsewhere + 1) 0 body
        return if printed.isEmpty then "\x7b\x7d"
          else lines "\x7b" separator "\x7d" elsewhere printed) := by
  refine .bind (printAll_alike each ..) fun ss ts same => .ok ?_
  rw [same.isEmpty_eq]
  split
  · rfl
  · exact sameInk_lines_lines same (by decide) ..

theorem program_alike {place : Place} {body : List Node} (each : ∀ n ∈ body, n.Steady) :
    Steady ⟨place, .program body⟩ := by
  intro pretty other depth elsewhere
  rw [print, print]
  refine .bind (printAll_alike each ..) fun ss ts same => .ok ?_
  induction same with
  | nil => rfl
  | cons first _ ih =>
    rw [List.flatMap_cons, List.flatMap_cons]
    gcongr

theorem steady (n : Node) : n.Steady := by
  induction n using Node.walkInduction with
  | step n ih =>
    have below : ∀ c ∈ n.children, c.Steady := fun c hc => ih c hc c c.self_mem_walk
    have second : ∀ c ∈ n.children, ∀ d ∈ c.children, d.Steady :=
      fun c hc d hd => ih c hc d (mem_walk_of_mem_children hd d.self_mem_walk)
    clear ih
    obtain ⟨place, form⟩ := n
    simp only [children] at below
    cases form <;> dsimp only [Form.children] at below
    case program body => exact program_alike below
    case arrow params body =>
      exact arrow_alike (fun m hm => below m (by simp [hm])) (below body (by simp))
    case objectExpression properties => exact object_alike below
    case objectProperty key value computed shorthand =>
      exact objectProperty_alike (below key (by simp)) (below value (by simp))
    case call callee arguments spacious =>
      exact call_alike (below callee (by simp)) fun m hm => below m (by simp [hm])
    case classMethod => exact classMethod_alike below
    case classProperty => exact classProperty_alike below
    case ifStatement => exact if_alike below
    case importDeclaration specifiers source =>
      exact import_alike (fun m hm => below m (by simp [hm])) (below source (by simp))
    case exportDefault declaration =>
      exact exportDefault_alike (below declaration (by simp))
        (second declaration (by simp [children]))
    case exportNamed declaration specifiers =>
      cases declaration with
      | some declaration =>
        exact exportNamed_alike (below declaration (by simp))
          (second declaration (by simp [children]))
      | none => exact exportNames_alike fun m hm => below m (by simp [hm])
    all_goals intro pretty other depth elsewhere
    case bare | jsxIdentifier | jsxNamespacedName | jsxMember | jsxEmptyExpression | jsxText
        | jsxExpressionContainer | jsxAttribute | jsxSpreadAttribute | jsxElement =>
      rw [print_unprintable rfl, print_unprintable rfl]
      exact .error _
    case block | classBody =>
      rw [print, print]
      exact braced_alike below ..
    case classDeclaration | classExpression =>
      rw [print, print]
      exact class_alike [] below ..
    case functionDeclaration | functionExpression =>
      rw [print, print]
      exact function_alike [] below ..
    case declarator target init =>
      cases init with
      | none =>
        rw [print, print]
        exact below target (by simp) ..
      | some init =>
        rw [print, print]
        refine .bind (below target (by simp) ..) fun _ _ _ => ?_
        refine .bind (below init (by simp) ..) fun _ _ _ => .ok ?_
        gcongr
    case returnStatement argument =>
      cases argument with
      | none =>
        rw [print, print]
        exact .ok (.refl _)
      | some argument =>
        rw [print, print]
        refine .bind (below argument (by simp) ..) fun _ _ _ => .ok ?_
        gcongr
    case unary operator argument =>
      rw [print, print]
      refine .bind (below argument (by simp) ..) fun _ _ same => .ok ?_
      exact sameInk_unaryText operator (sameInk_operand argument Precedence.unary same)
    case update operator argument leading =>
      rw [print, print]
      cases leading <;>
        exact .bind (below argument (by simp) ..) fun _ _ same => .ok (by gcongr)
    case member object property computed =>
      rw [print, print]
      refine .bind (below object (by simp) ..) fun _ _ _ => ?_
      refine .bind (below property (by simp) ..) fun _ _ _ => .ok ?_
      split <;> gcongr
    case objectPattern properties =>
      rw [print, print]
      refine .bind (printAll_alike below ..) fun ss ts same => .ok ?_
      rw [same.isEmpty_eq]
      split
      · rfl
      · gcongr
    -- The other nodes print their parts in order and join them.
    all_goals
      rw [print, print]
      repeat
        first
        | refine .bind (below _ (by simp) ..) fun _ _ _ => ?_
        | refine .bind (printAll_alike (fun m hm => below m (by simp [hm])) ..) fun _ _ _ => ?_
      refine .ok ?_
      gcongr

/-- Whichever tree is printed, pretty or compact and at whichever depths, it is refused with the
same message both times, or it gives texts that differ in spaces and line feeds only. -/
theorem print_same_ink (n : Node) (pretty other : Bool) (depth elsewhere : Nat) :
    (∃ e, n.print pretty depth = .error e ∧ n.print other elsewhere = .error e) ∨
      ∃ s t, n.print pretty depth = .ok s ∧ n.print other elsewhere = .ok t ∧ ink s = ink t := by
  have alike := n.steady pretty other depth elsewhere
  generalize n.print pretty depth = first, n.print other elsewhere = second at alike
  cases alike with
  | error e => exact .inl ⟨e, rfl, rfl⟩
  | ok same => exact .inr ⟨_, _, rfl, rfl, same.ink_eq⟩

end Node

end Hyperscript
