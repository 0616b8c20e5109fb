import Hyperscript.Proofs.BindingVisit
import Hyperscript.Proofs.CustomTag
import Hyperscript.Proofs.Spelling

/-!
# What tags refer to

The first argument of a call is `this`, a variable, a string, or a chain of members that starts at
one of these. A name that stands for the whole tag is always usable: with a small letter in front it
is a string, and all reserved words are written small. The name in front of a chain is taken as it
is, so it can be a reserved word, or a string if it has a dash.
-/
namespace Hyperscript

namespace Grammar

/-- The whole text is a name of markup. -/
def IsJsxName (w : Text) : Prop := w ≠ [] ∧ Scan.jsxName w = w.length

instance (w : Text) : Decidable (IsJsxName w) := inferInstanceAs (Decidable (_ ∧ _))

namespace Scan

theorem all_of_run {p : CodePoint → Bool} {t : Text} (h : run p t = t.length) :
    ∀ c ∈ t, p c = true := by
  have whole : t.takeWhile p = t := (List.takeWhile_prefix p).eq_of_length h
  have all : (t.takeWhile p).all p = true := List.all_takeWhile
  rw [whole] at all
  exact List.all_eq_true.mp all

theorem opensIdentifier_of_isNameStart {c : CodePoint} (h : isNameStart c = true) :
    c.opensIdentifier = true ∧ c ≠ '-' := by
  refine CodePoint.of_ascii (P := fun c => isNameStart c = true →
    c.opensIdentifier = true ∧ c ≠ CodePoint.ofChar '-') ?_ c ?_ h
  · decide +kernel
  · exact val_lt_of_isNamePart (isNamePart_of_isNameStart h)

/-- Of what a name of markup may hold, only the dash is not part of an identifier. -/
theorem continuesIdentifier_iff {c : CodePoint} (h : isJsxNamePart c = true) :
    c.continuesIdentifier = true ↔ c ≠ '-' := by
  refine CodePoint.of_ascii (P := fun c => isJsxNamePart c = true →
    (c.continuesIdentifier = true ↔ c ≠ CodePoint.ofChar '-')) ?_ c ?_ h
  · decide +kernel
  · rw [isJsxNamePart, Bool.or_eq_true, decide_eq_true_eq] at h
    rcases h with part | rfl
    · exact val_lt_of_isNamePart part
    · decide

end Scan

theorem IsJsxName.isIdentifierName_iff {w : Text} (h : IsJsxName w) :
    w.isIdentifierName = true ↔ CodePoint.ofChar '-' ∉ w := by
  obtain ⟨nonempty, whole⟩ := h
  cases w with
  | nil => exact absurd rfl nonempty
  | cons c more =>
    rw [Scan.jsxName, Scan.headed] at whole
    split at whole
    · rename_i start
      obtain ⟨opens, other⟩ := Scan.opensIdentifier_of_isNameStart start
      have parts := Scan.all_of_run (Nat.succ.inj whole)
      rw [Text.isIdentifierName, opens, Bool.true_and, List.all_eq_true, List.mem_cons, not_or]
      constructor
      · intro all
        refine ⟨other.symm, fun member => ?_⟩
        exact (Scan.continuesIdentifier_iff (parts _ member)).mp (all _ member) rfl
      · intro free d member
        rw [Scan.continuesIdentifier_iff (parts d member)]
        rintro rfl
        exact free.2 member
    · cases whole

theorem IsJsxName.dash_notMem {w : Text} (h : IsJsxName w) (valid : w.isValidIdentifier = true) :
    CodePoint.ofChar '-' ∉ w := by
  rw [Text.isValidIdentifier, Bool.and_eq_true] at valid
  exact h.isIdentifierName_iff.mp valid.1

end Grammar

namespace Node

/-- What a chain of members starts at, and any other node itself. -/
def reference : Node → Node
  | ⟨_, .member object _ _⟩ => reference object
  | n => n

/-- `this`, or a variable whose name is no reserved word. -/
def IsReference (n : Node) : Prop :=
  n.form = .this ∨ ∃ name, n.form = .identifier name ∧ name.isValidIdentifier = true

/-- A string on its own, or what starts at a usable reference. -/
def IsUsable (n : Node) : Prop :=
  (∃ value, n.form = .string value none) ∨ n.reference.IsReference

/-- The names are looked up one after the other, starting at a node: behind a dot, or in brackets if
there is a dash. -/
inductive Selects (start : Node) : List Text → Node → Prop
  | start : Selects start [] start
  | dotted {names : List Text} {object : Node} (place propertyPlace : Place) {name : Text} :
      CodePoint.ofChar '-' ∉ name → Selects start names object →
      Selects start (names ++ [name])
        ⟨place, .member object ⟨propertyPlace, .identifier name⟩ false⟩
  | bracketed {names : List Text} {object : Node} (place propertyPlace : Place) {name : Text} :
      CodePoint.ofChar '-' ∈ name → Selects start names object →
      Selects start (names ++ [name])
        ⟨place, .member object ⟨propertyPlace, .string name none⟩ true⟩

theorem isUsable_of_isReference {n : Node} (h : n.IsReference) : n.IsUsable := by
  have own : n.reference = n := by
    obtain ⟨place, form⟩ := n
    rcases h with this | ⟨name, bound, -⟩
    · cases this
      rfl
    · cases bound
      rfl
  apply Or.inr
  rwa [own]

/-- What starts at a variable is no string, and usable if the variable is. -/
theorem isUsable_iff_of_reference {n : Node} {name : Text}
    (h : n.reference.form = .identifier name) : n.IsUsable ↔ name.isValidIdentifier = true := by
  constructor
  · rintro (⟨value, string⟩ | this | ⟨other, bound, valid⟩)
    · obtain ⟨place, form⟩ := n
      cases string
      cases h
    · rw [h] at this
      cases this
    · rw [h] at bound
      cases bound
      exact valid
  · intro valid
    exact .inr (.inr ⟨name, h, valid⟩)

theorem Selects.reference {start n : Node} {names : List Text} (h : Selects start names n) :
    n.reference = start.reference := by
  induction h with
  | start => rfl
  | dotted _ _ _ _ ih => exact ih
  | bracketed _ _ _ _ ih => exact ih

/-- A chain with a name in it is a member. -/
theorem Selects.isMember {start n : Node} {names : List Text} (h : Selects start names n)
    (more : names ≠ []) : ∃ object property computed, n.form = .member object property computed := by
  cases h with
  | start => exact absurd rfl more
  | dotted => exact ⟨_, _, _, rfl⟩
  | bracketed => exact ⟨_, _, _, rfl⟩

end Node

namespace Lowering

open Grammar (IsJsxName)

namespace Tag

/-- A name of markup and the names that follow it behind dots. -/
inductive Names (root : Text) : List Text → Node → Prop
  | root (place : Place) : IsJsxName root → Names root [] ⟨place, .jsxIdentifier root⟩
  | member {names : List Text} {object : Node} (place propertyPlace : Place) {name : Text} :
      Names root names object → IsJsxName name →
      Names root (names ++ [name]) ⟨place, .jsxMember object ⟨propertyPlace, .jsxIdentifier name⟩⟩

/-- What a name becomes that follows a dot. -/
def follower (name : Text) : Form Node :=
  if CodePoint.ofChar '-' ∈ name then .string name none else .identifier name

/-- What the first name of a tag becomes. -/
def start (root : Text) : Form Node := if root = "this" then .this else follower root

section Expressions

variable {root : Text} {names : List Text} {tag : Node}

theorem expression_property (place : Place) (h : IsJsxName root) :
    expression true ⟨place, .jsxIdentifier root⟩ = ⟨place, follower root⟩ := by
  rw [expression, follower, Bool.not_true, Bool.false_and, if_neg Bool.false_ne_true]
  by_cases dash : CodePoint.ofChar '-' ∈ root
  · have other : ¬ root.isIdentifierName = true := fun whole =>
      h.isIdentifierName_iff.mp whole dash
    rw [if_neg other, if_pos dash]
  · rw [if_pos (h.isIdentifierName_iff.mpr dash), if_neg dash]

theorem expression_root (place : Place) (h : IsJsxName root) :
    expression false ⟨place, .jsxIdentifier root⟩ = ⟨place, start root⟩ := by
  rw [start]
  by_cases this : root = Text.ofString "this"
  · simp [expression, this]
  · have same : expression false ⟨place, .jsxIdentifier root⟩ =
        expression true ⟨place, .jsxIdentifier root⟩ := by
      simp [expression, this]
    rw [same, expression_property place h, if_neg this]

/-- The expression of a tag looks up its names, starting at what the first one becomes. -/
theorem Names.selects (h : Names root names tag) :
    ∃ place, Node.Selects ⟨place, start root⟩ names (expression false tag) := by
  induction h with
  | root place name =>
    rw [expression_root place name]
    exact ⟨place, .start⟩
  | @member names object place propertyPlace name _ whole ih =>
    obtain ⟨first, selects⟩ := ih
    refine ⟨first, ?_⟩
    rw [expression, expression_property propertyPlace whole]
    unfold follower
    by_cases dash : CodePoint.ofChar '-' ∈ name
    · rw [if_pos dash]
      exact .bracketed place propertyPlace dash selects
    · rw [if_neg dash]
      exact .dotted place propertyPlace dash selects

/-- The lowering of its parts leaves a tag as it is. -/
theorem Names.pureLowering (h : Names root names tag) (config : Config) (helper : Text) :
    pureLowering config helper tag = tag := by
  induction h with
  | root place _ => exact pureLowering_of_not_element config helper rfl
  | @member names object place propertyPlace name _ _ ih =>
    have property : Lowering.pureLowering config helper ⟨propertyPlace, .jsxIdentifier name⟩ =
      ⟨propertyPlace, .jsxIdentifier name⟩ := pureLowering_of_not_element config helper rfl
    rw [pureLowering_of_not_element config helper rfl]
    simp only [Form.map, ih, property]

end Expressions

section Heads

variable {root : Text} {names : List Text} {tag : Node}

/-- All reserved words start with a small letter. -/
theorem isByName_of_reserved : ∀ w ∈ Text.reservedWords, isByName w = true := by
  decide +kernel

theorem isValidIdentifier_of_not_byName (name : IsJsxName root) (other : isByName root = false) :
    root.isValidIdentifier = true := by
  have whole : root.isIdentifierName = true := by
    rw [name.isIdentifierName_iff]
    intro dash
    rw [isByName, Bool.or_eq_false_iff, List.contains_eq_mem, decide_eq_false_iff_not] at other
    exact other.2 dash
  have free : root ∉ Text.reservedWords := by
    intro reserved
    rw [isByName_of_reserved root reserved] at other
    cases other
  rw [Text.isValidIdentifier, whole]
  simpa using free

/-- A name that stands for the whole tag becomes a string, `this` or a usable variable. -/
theorem head_of_name (name : IsJsxName root) (customTag : Option Text) (place namePlace : Place)
    (attributes : List Attribute) (children : List Node) :
    let head := (Element.mk place ⟨namePlace, .jsxIdentifier root⟩ attributes children).head
      customTag
    (∃ value, head.tag.form = .string value none) ∨ head.tag.IsReference := by
  intro head
  by_cases this : root = Text.ofString "this"
  · have own : head.tag.form = .this := by
      subst this
      cases customTag <;> rfl
    exact .inr (.inl own)
  · have named := plainName?_of_name namePlace this
    rw [expression_root namePlace name] at named
    simp only [head, Element.head, expression_root namePlace name, named]
    split
    · exact .inl ⟨_, rfl⟩
    · by_cases byName : isByName root = true
      · rw [if_pos byName]
        exact .inl ⟨_, rfl⟩
      · have valid := isValidIdentifier_of_not_byName name (Bool.eq_false_iff.mpr byName)
        have dash := name.dash_notMem valid
        rw [if_neg byName, start, if_neg this, follower, if_neg dash]
        exact .inr (.inr ⟨root, rfl, valid⟩)

/-- A tag of more than one name is no custom tag, and is not looked up by name. -/
theorem head_of_path (h : Names root names tag) (more : names ≠ [])
    (customTag : Option Text) (place : Place) (attributes : List Attribute)
    (children : List Node) :
    ((Element.mk place tag attributes children).head customTag).tag = expression false tag := by
  obtain ⟨first, selects⟩ := h.selects
  obtain ⟨object, property, computed, member⟩ := selects.isMember more
  have noName : plainName? (expression false tag) = none := by
    rw [plainName?, member]
  have notCustom : custom? customTag none attributes = none := by
    cases customTag <;> rfl
  simp only [Element.head, noName, notCustom]

/-- What starts at the first name of a tag is usable if this is `this` or a usable variable. -/
theorem isUsable_iff_of_selects {n : Node} {place : Place} (name : IsJsxName root)
    (selects : Node.Selects ⟨place, start root⟩ names n) (more : names ≠ []) :
    n.IsUsable ↔ root = "this" ∨ root.isValidIdentifier = true := by
  have reference := selects.reference
  obtain ⟨object, property, computed, member⟩ := selects.isMember more
  by_cases this : root = Text.ofString "this"
  · have usable : n.reference.form = .this := by
      rw [reference, start, if_pos this]
      rfl
    exact iff_of_true (.inr (.inl usable)) (.inl this)
  · rw [or_iff_right this]
    by_cases dash : CodePoint.ofChar '-' ∈ root
    · have string : n.reference.form = .string root none := by
        rw [reference, start, if_neg this, follower, if_pos dash]
        rfl
      apply iff_of_false
      · rintro (⟨value, other⟩ | other | ⟨text, other, -⟩)
        · rw [member] at other
          cases other
        · rw [string] at other
          cases other
        · rw [string] at other
          cases other
      · exact fun valid => name.dash_notMem valid dash
    · apply Node.isUsable_iff_of_reference
      rw [reference, start, if_neg this, follower, if_neg dash]
      rfl

end Heads

theorem Names.isJsxName {root : Text} {names : List Text} {tag : Node} (h : Names root names tag) :
    IsJsxName root := by
  induction h with
  | root _ name => exact name
  | member _ _ _ _ ih => exact ih

/-- A tag without a dot is the name it starts with. -/
theorem Names.eq_root {root : Text} {names : List Text} {tag : Node} (h : Names root names tag)
    (alone : names = []) : ∃ place, tag = ⟨place, .jsxIdentifier root⟩ := by
  cases h with
  | root place _ => exact ⟨place, rfl⟩
  | member => simp at alone

end Tag

/-- An element becomes a call whose first argument stands for its tag. A tag that is one name becomes
a string, `this` or a usable variable. Of any other tag the names behind the dots are looked up one
after the other, dotted if there is no dash, but the first name is taken as it is: the argument is
usable only if that is `this`, or an identifier and no reserved word. -/
theorem tag_is_usable_iff {root : Text} {names : List Text} {tag : Node}
    (h : Tag.Names root names tag) (config : Config) (place : Place)
    (attributes children : List Node) (closes : Bool) (p : Progress) :
    ∃ (callee argument : Node) (rest : List Node) (pretty : Bool) (q : Progress),
      (lowerElements config ⟨place, .jsxElement tag attributes children closes⟩).run p =
        (⟨place, .call callee (argument :: rest) pretty⟩, q) ∧
      (names = [] → (∃ value, argument.form = .string value none) ∨ argument.IsReference) ∧
      (names ≠ [] → ∃ first, Node.Selects ⟨first, Tag.start root⟩ names argument) ∧
      (argument.IsUsable ↔
        names = [] ∨ root = "this" ∨ root.isValidIdentifier = true) := by
  let helper := (p.registry.resolve config.mergeModule config.mergeExport config.mergeAlias).1
  have gives : p.registry.Gives config helper := rfl
  let e : Element := ⟨place, tag,
    (attributes.map Attribute.ofNode).map (Attribute.map (pureLowering config helper)),
    children.map (pureLowering config helper)⟩
  let n : Node := ⟨place, .jsxElement tag attributes children closes⟩
  have lowered : pureLowering config helper n = e.lowered config helper := by
    rw [pureLowering_element config helper rfl, Element.map, h.pureLowering config helper]
  have run : (lowerElements config n).run p =
      (e.lowered config helper, n.postorder.foldl (Progress.after config) p) := by
    rw [← lowered]
    exact lowerElements_returns config helper n p gives
  refine ⟨_, (e.head config.customTag).tag, _, _, _, run, ?_⟩
  by_cases alone : names = []
  · obtain ⟨namePlace, same⟩ := h.eq_root alone
    have argument := Tag.head_of_name h.isJsxName config.customTag place namePlace e.attributes
      e.children
    rw [← same] at argument
    refine ⟨fun _ => argument, fun more => absurd alone more, ?_⟩
    refine iff_of_true ?_ (.inl alone)
    exact argument.elim .inl Node.isUsable_of_isReference
  · obtain ⟨first, selects⟩ := h.selects
    have argument : (e.head config.customTag).tag = Tag.expression false tag :=
      Tag.head_of_path h alone config.customTag place e.attributes e.children
    rw [argument]
    refine ⟨fun none => absurd none alone, fun _ => ⟨first, selects⟩, ?_⟩
    rw [or_iff_right alone]
    exact Tag.isUsable_iff_of_selects h.isJsxName selects alone

/-- The tag of `<Foo.class.a-b/>`. -/
def pathTag : Node :=
  .plain (.jsxMember (.plain (.jsxMember (.plain (.jsxIdentifier "Foo"))
    (.plain (.jsxIdentifier "class")))) (.plain (.jsxIdentifier "a-b")))

theorem tag_is_usable_iff_path :
    ∃ (callee argument : Node) (rest : List Node) (pretty : Bool) (q : Progress) (first : Place),
      (lowerElements {} ⟨.nowhere, .jsxElement pathTag [] [] true⟩).run ⟨⟨[], []⟩, 0, 0, []⟩ =
        (⟨.nowhere, .call callee (argument :: rest) pretty⟩, q) ∧
      Node.Selects ⟨first, .identifier "Foo"⟩ (["class", "a-b"].map Text.ofString) argument ∧
      argument.IsUsable := by
  have names : Tag.Names "Foo" (["class", "a-b"].map Text.ofString) pathTag :=
    .member _ _ (.member _ _ (.root _ (by decide +kernel)) (by decide +kernel)) (by decide +kernel)
  obtain ⟨callee, argument, rest, pretty, q, run, -, path, usable⟩ :=
    tag_is_usable_iff names {} .nowhere [] [] true ⟨⟨[], []⟩, 0, 0, []⟩
  obtain ⟨first, selects⟩ := path (by simp)
  have start : Tag.start "Foo" = .identifier "Foo" := by
    rw [Tag.start, if_neg (by decide +kernel), Tag.follower, if_neg (by decide +kernel)]
  rw [start] at selects
  exact ⟨callee, argument, rest, pretty, q, first, run, selects,
    usable.mpr (.inr (.inr (by decide +kernel)))⟩

/-- The first argument of a call of the factory. -/
def firstArgument? (n : Node) : Option Node :=
  match n.form with
  | .call ⟨_, .identifier _⟩ (argument :: _) _ => some argument
  | _ => none

def reservedTagSource : Text := "<class.Foo/>"

/-- A reserved word in front of a dot is printed as a variable, and the text is refused by the
parser that its own source comes from. -/
theorem tag_starts_with_reserved_word :
    ∃ (program : Node) (lowered : Lowered) (next : Lowerer) (call argument : Node) (code : Text),
      Grammar.parse reservedTagSource [] = .ok program ∧
      (Lowerer.new {} { verbose := false }).lower program = .ok (lowered, next) ∧
      call ∈ lowered.program.walk ∧ firstArgument? call = some argument ∧
      argument.reference.form = .identifier "class" ∧ ¬ argument.IsUsable ∧
      lowered.program.print false 0 = .ok code ∧ (Grammar.parse code []).toOption = none := by
  let l := Lowerer.new {} { verbose := false }
  have checked : ((Grammar.parse reservedTagSource []).toOption.any fun program =>
      (l.lower program).toOption.any fun (lowered, _) =>
        (lowered.program.walk.any fun call => (firstArgument? call).any fun argument =>
          decide (argument.reference.identifierName? = some (Text.ofString "class"))) &&
        (lowered.program.print false 0).toOption.any fun code =>
          (Grammar.parse code []).toOption.isNone) = true := by
    decide +kernel
  obtain ⟨program, parsed, checked⟩ := Grammar.ok_of_any checked
  obtain ⟨⟨lowered, next⟩, result, checked⟩ := Grammar.ok_of_any checked
  obtain ⟨inside, refused⟩ := (Bool.and_eq_true _ _).mp checked
  obtain ⟨call, member, inside⟩ := List.any_eq_true.mp inside
  obtain ⟨argument, found, named⟩ := (Option.any_eq_true _ _).mp inside
  obtain ⟨code, printed, refused⟩ := Grammar.ok_of_any refused
  have form : argument.reference.form = .identifier "class" :=
    Node.identifierName?_eq_some_iff.mp (of_decide_eq_true named)
  refine ⟨program, lowered, next, call, argument, code, parsed, result, member, found, form, ?_,
    printed, Option.isNone_iff_eq_none.mp refused⟩
  rw [Node.isUsable_iff_of_reference form]
  decide +kernel

end Lowering

end Hyperscript
