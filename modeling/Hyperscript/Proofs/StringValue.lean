import Hyperscript.Proofs.MarkupFree

/-!
# String values

A string node has a value and perhaps a spelling, which the printer prefers. In the script a
spelling stands for the value, in the value of an attribute it need not. Since the lowering makes
its own strings without spellings, and leaves none of an attribute, every string that is printed
reads back as its value.
-/
namespace Hyperscript

namespace Node

/-- The node stands below another one of the tree, and is not the value of an attribute. -/
def OutsideAttributes (root m : Node) : Prop :=
  ∃ k ∈ root.walk, m ∈ k.children ∧ ∀ name value, k.form ≠ .jsxAttribute name value

/-- The name of an attribute is no string, so only its value can be one. -/
theorem outsideAttributes_of_mem_parts {Literal : Node → Prop} {markup : Markup} {root n : Node}
    {r : Role} {part : Role × Node} (inside : n ∈ root.walk) (fits : n.Fits Literal markup r)
    (member : part ∈ n.form.parts r) (role : part.1 ≠ .attributeValue) {value : Text}
    {spelling : Option Text} (string : part.2.form = .string value spelling) :
    OutsideAttributes root part.2 := by
  refine ⟨n, inside, (Form.mem_children_iff r).mpr ⟨part, member, rfl⟩, ?_⟩
  intro name other same
  rw [same, Form.parts, List.mem_cons, List.mem_map] at member
  rcases member with rfl | ⟨v, -, rfl⟩
  · have first : (Role.markupName, name) ∈ n.form.parts r := by simp [same]
    have plays := (fits.parts first).plays
    rw [string] at plays
    cases plays
  · exact role rfl

/-- The literals of a tree are literals outside attributes. -/
theorem Fits.outsideAttributes {Literal : Node → Prop} {markup : Markup} {root n : Node} {r : Role}
    (h : n.Fits Literal markup r) (inside : ∀ m ∈ n.walk, m ∈ root.walk)
    (own : ∀ value spelling, r ≠ .attributeValue → n.form = .string value spelling →
      OutsideAttributes root n) :
    n.Fits (fun m => Literal m ∧ OutsideAttributes root m) markup r := by
  induction h with
  | @intro r place form plays keeps parts ih =>
    refine .intro plays ?_ ?_
    · intro role
      have literal := keeps role
      cases form
      case string value spelling =>
        cases spelling with
        | none => trivial
        | some text => exact ⟨literal, own value text role rfl⟩
      all_goals exact literal
    · intro part member
      have child := (Form.mem_children_iff r).mpr ⟨part, member, rfl⟩
      apply ih part member
      · exact fun m hm => inside m (mem_walk_of_mem_children child hm)
      · intro value spelling role string
        exact outsideAttributes_of_mem_parts (inside _ (self_mem_walk _))
          (.intro plays keeps parts) member role string

/-- A string node is printed as a string that stands for its value, if its spelling does. -/
theorem print_string {m : Node} (spelled : m.Keeps IsSpelled) {value : Text}
    {spelling : Option Text} (string : m.form = .string value spelling) (pretty : Bool)
    (depth : Nat) :
    ∃ text, m.print pretty depth = .ok text ∧ Grammar.Scan.IsString text ∧
      Text.unescape text = .ok value := by
  obtain ⟨place, form⟩ := m
  cases string
  have printed : print pretty depth ⟨place, .string value spelling⟩ =
      .ok (spelling.getD value.quote) := by
    simp only [print]
    rfl
  refine ⟨_, printed, ?_⟩
  cases spelling with
  | none => exact ⟨Grammar.Scan.isString_quote value, Text.unescape_quote value⟩
  | some text => exact spelled

end Node

namespace Lowering

/-- Every string of a lowered program, whatever it was made of, is printed as a text that the lexer
takes for one string and that stands for the value. Only strings of the script keep their spelling:
that of the value of an attribute is not printed. -/
theorem strings_read_back {source name : Text} {program : Node}
    (parsed : Grammar.parse source name = .ok program)
    (plain : ∀ n ∈ program.walk, n.isNamespacedName = false) (l : Lowerer) :
    ∃ (lowered : Lowered) (next : Lowerer), l.lower program = .ok (lowered, next) ∧
      ∀ m ∈ lowered.program.walk, ∀ value spelling, m.form = .string value spelling →
        (∀ pretty depth, ∃ text, m.print pretty depth = .ok text ∧ Grammar.Scan.IsString text ∧
          Text.unescape text = .ok value) ∧
        (spelling.isSome = true → program.OutsideAttributes m) := by
  have literals :
      program.Fits (fun m => m.IsSpelled ∧ program.OutsideAttributes m) .full .code := by
    refine (Grammar.parse_fits parsed).outsideAttributes (fun m hm => hm) ?_
    obtain ⟨place, body, rfl⟩ := Grammar.parse_program parsed
    exact fun _ _ _ string => by cases string
  obtain ⟨lowered, next, result, code⟩ := fits_lowered literals plain l
  refine ⟨lowered, next, result, ?_⟩
  intro m hm value spelling string
  obtain ⟨-, keeps⟩ := code.forall_isCode (.inl rfl) m hm
  obtain ⟨place, form⟩ := m
  cases string
  refine ⟨Node.print_string (Node.keeps_elsewhere And.left keeps) rfl, ?_⟩
  intro spelled
  obtain ⟨text, rfl⟩ := Option.isSome_iff_exists.mp spelled
  exact keeps.2

/-- The same spelling in the value of an attribute, where it has no escape, and in the script. -/
def spellingSource : Text := "<a b='\\n'>\x7b'\\n'\x7d</a>"

/-- The value and the spelling of a string. -/
def string? (m : Node) : Option (Text × Option Text) :=
  match m.form with
  | .string value spelling => some (value, spelling)
  | _ => none

theorem form_of_string? {m : Node} {value : Text} {spelling : Option Text}
    (h : string? m = some (value, spelling)) : m.form = .string value spelling := by
  obtain ⟨place, form⟩ := m
  cases form <;> cases h
  rfl

theorem strings_read_back_spelling :
    ∃ (program : Node) (lowered : Lowered) (next : Lowerer),
      Grammar.parse spellingSource [] = .ok program ∧
      program.walk.filterMap string? =
        [(Text.ofString "\\n", some (Text.ofString "'\\n'")),
         (Text.ofString "\n", some (Text.ofString "'\\n'"))] ∧
      (Lowerer.new {} { verbose := false }).lower program = .ok (lowered, next) ∧
      lowered.program.walk.filterMap string? =
        [(Text.ofString "a", none), (Text.ofString "\\n", none),
         (Text.ofString "\n", some (Text.ofString "'\\n'"))] ∧
      ∀ m ∈ lowered.program.walk, ∀ value spelling, string? m = some (value, spelling) →
        ∀ pretty depth, ∃ text, m.print pretty depth = .ok text ∧ Grammar.Scan.IsString text ∧
          Text.unescape text = .ok value := by
  let l := Lowerer.new {} { verbose := false }
  have checked : ((Grammar.parse spellingSource []).toOption.any fun program =>
      program.walk.all (!·.isNamespacedName) &&
      decide (program.walk.filterMap string? =
        [(Text.ofString "\\n", some (Text.ofString "'\\n'")),
         (Text.ofString "\n", some (Text.ofString "'\\n'"))]) &&
      (l.lower program).toOption.any fun (lowered, _) =>
        decide (lowered.program.walk.filterMap string? =
          [(Text.ofString "a", none), (Text.ofString "\\n", none),
           (Text.ofString "\n", some (Text.ofString "'\\n'"))])) = true := by
    decide +kernel
  obtain ⟨program, parsed, checked⟩ := Grammar.ok_of_any checked
  simp only [Bool.and_eq_true, List.all_eq_true, Bool.not_eq_true', decide_eq_true_eq] at checked
  obtain ⟨⟨plain, before⟩, after⟩ := checked
  obtain ⟨lowered, next, result, strings⟩ := strings_read_back parsed plain l
  rw [result] at after
  refine ⟨program, lowered, next, parsed, before, result, of_decide_eq_true after, ?_⟩
  intro m hm value spelling found
  exact (strings m hm value spelling (form_of_string? found)).1

end Lowering

end Hyperscript
