import Hyperscript.Proofs.CompactText
import Hyperscript.Proofs.CompilationOutcome
import Hyperscript.Proofs.Idempotence
import Hyperscript.Proofs.Legible
import Hyperscript.Proofs.LoweredExpression

/-!
# Compiling what was compiled

Code that has no markup is only read and printed by a compilation.
-/
namespace Hyperscript.Compilation

open Lowering

/-- Whatever the configuration, code without markup is printed as it is read. -/
theorem outcome_of_plain {source name : Text} {program : Node} {code : Text} {pretty : Bool}
    (parsed : Grammar.parse source name = .ok program)
    (plain : ∀ n ∈ program.walk, n.isMarkup = false)
    (printed : program.print pretty 0 = .ok code) (config : Config) (level : Text) :
    (ofSource source name config level pretty).outcome = .ok ⟨.accepted code, []⟩ := by
  obtain ⟨place, body, root⟩ := Grammar.parse_program parsed
  let l := Lowerer.new config (.ofLevel level false)
  have names : ∀ n ∈ program.walk, n.isNamespacedName = false :=
    fun n hn => isNamespacedName_of_isMarkup (plain n hn)
  obtain ⟨again, after, ran, kept, -⟩ := Workspace.run_lower_plain root plain l
  obtain ⟨lowered, next, result, ran'⟩ :=
    Workspace.run_lower_parsed (w := ⟨program, l⟩) parsed (by simpa using names)
  rw [ran] at ran'
  cases ran'
  exact outcome_of_lowered parsed result (by rw [kept, printed])

/-- Where what a source is lowered to is spelled so that it is read back, its compact code is accepted
again, under every name, configuration and verbosity, and compiled to itself. -/
theorem recompiled_of_legible {source name level : Text} {config : Config} {program : Node}
    {lowered : Lowered} {next : Lowerer} (parsed : Grammar.parse source name = .ok program)
    (result : (Lowerer.new config (.ofLevel level false)).lower program = .ok (lowered, next))
    (legible : Legible .program lowered.program) :
    ∃ code, (ofSource source name config level false).outcome = .ok ⟨.accepted code, []⟩ ∧
      ∀ again config' level',
        (ofSource code again config' level' false).outcome = .ok ⟨.accepted code, []⟩ := by
  obtain ⟨code, printed, readBack⟩ := legible.restores false
  refine ⟨code, outcome_of_lowered parsed result printed, fun again config' level' => ?_⟩
  obtain ⟨m, parsed', same⟩ := readBack again
  have plain : ∀ k ∈ lowered.program.walk, k.isMarkup = false := by
    obtain ⟨_, _, result', code⟩ := fits_lowered (Grammar.parse_fits parsed)
      (isNamespacedName_of_lower result) (Lowerer.new config (.ofLevel level false))
    cases result'.symm.trans result
    exact fun k hk => Form.isMarkup_of_isCode (code.forall_isCode (.inl rfl) k hk).1
  exact outcome_of_plain parsed' (Node.plain_of_asRead same plain)
    ((Node.print_of_asRead same 0).trans printed) config' level'

/-- An element around a name. -/
def viewSource : Text := "const v = <p>\x7bx\x7d</p>;"

/-- The declaration `const v = h("p", null, [x]);`. -/
def isView (n : Node) : Bool :=
  match n with
  | ⟨_, .program [⟨_, .variableDeclaration kind [⟨_, .declarator ⟨_, .identifier v⟩
      (some ⟨_, .call ⟨_, .identifier h⟩ [⟨_, .string _ none⟩, ⟨_, .null⟩,
        ⟨_, .arrayExpression [⟨_, .identifier x⟩]⟩] _⟩)⟩]⟩]⟩ =>
    kind = "const" && v = "v" && h = "h" && x = "x"
  | _ => false

theorem legible_of_isView {n : Node} (view : isView n = true) : Legible .program n := by
  simp only [isView] at view
  split at view
  · simp only [Bool.and_eq_true, decide_eq_true_eq] at view
    obtain ⟨⟨⟨rfl, rfl⟩, rfl⟩, rfl⟩ := view
    have string {place : Place} {value : Text} : Legible .item ⟨place, .string value none⟩ :=
      .item (.string (Grammar.Scan.isString_iff.mp (Grammar.Scan.isString_quote value)) (Text.unescape_quote value))
    have x {place : Place} : Legible .item ⟨place, .identifier "x"⟩ :=
      .item (.name (by decide +kernel))
    have null {place : Place} : Legible .item ⟨place, .null⟩ := .item .null
    have call {place namePlace : Place} {items : List Node} {spacious : Bool}
        (each : ∀ n ∈ items, Legible .item n) :
        Legible .expression ⟨place, .call ⟨namePlace, .identifier "h"⟩ items spacious⟩ :=
      .call (.name (by decide +kernel)) each
    refine .program ?_ (.singleton _)
    simp only [List.mem_singleton, forall_eq]
    refine .variableStatement (by decide) (by simp) ?_
    simp only [List.mem_singleton, forall_eq]
    refine .declarator (.namePattern (by decide +kernel)) (call ?_)
    simp only [List.mem_cons, List.not_mem_nil, or_false, forall_eq_or_imp, forall_eq]
    refine ⟨string, null, .item (.array ?_)⟩
    simpa only [List.mem_singleton, forall_eq] using x
  · cases view

theorem recompiled_of_legible_view :
    ∃ program lowered next, Grammar.parse viewSource [] = .ok program ∧
      (Lowerer.new {} (.ofLevel [] false)).lower program = .ok (lowered, next) ∧
      Legible .program lowered.program ∧
      ∃ code, (ofSource viewSource [] {} [] false).outcome = .ok ⟨.accepted code, []⟩ ∧
        ∀ again config' level',
          (ofSource code again config' level' false).outcome = .ok ⟨.accepted code, []⟩ := by
  have checked : ((Grammar.parse viewSource []).toOption.any fun program =>
      ((Lowerer.new {} (.ofLevel [] false)).lower program).toOption.any fun result =>
        isView result.1.program) = true := by decide +kernel
  obtain ⟨program, parsed, checked⟩ := Grammar.ok_of_any checked
  obtain ⟨⟨lowered, next⟩, result, view⟩ := Grammar.ok_of_any checked
  have legible := legible_of_isView view
  exact ⟨program, lowered, next, parsed, result, legible,
    recompiled_of_legible parsed result legible⟩

/-- An arrow function whose body is a member of an object. -/
def objectArrowSource : Text := "x => (\x7b\x7d).a"

/-- The object of an arrow function's body loses its parentheses, and what is left is refused. -/
theorem compiled_objectArrow_refused :
    ∃ code, (ofSource objectArrowSource [] {} [] false).outcome.toOption.map (·.verdict) =
        some (.accepted code) ∧
      (ofSource code [] {} [] false).outcome.toOption.map (·.verdict) = some .parsingFailed := by
  refine ⟨"x => \x7b\x7d.a;\n", ?_, ?_⟩ <;> decide +kernel

end Hyperscript.Compilation
