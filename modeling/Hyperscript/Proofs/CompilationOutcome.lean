import Hyperscript.Compilation
import Hyperscript.Proofs.NamespaceGuard

/-!
# Outcomes of a compilation

A compilation reports at most one problem, and a reported problem is the end of it. What a verbose
collection records besides is for information: it makes no error and no message, so the level of
verbosity shows in the log alone.
-/
namespace Hyperscript

namespace Diagnostics

variable (d : Diagnostics)

theorem messages_error (least : Severity) (r : Report) :
    (d.error r).1.messages least = d.messages least ++ [(d.diagnose .error r).toText] := by
  have shown : least ≤ Severity.error := by cases least <;> decide
  have own : least ≤ (d.diagnose .error r).severity := shown
  simp [error, record, messages, List.filter_append, own]

/-- Informational reports make no error and no message of a warning. -/
theorem infos_silent (rs : List Report) :
    (d.infos rs).1.errors = d.errors ∧ (d.infos rs).1.messages .warning = d.messages .warning := by
  induction rs generalizing d with
  | nil => exact ⟨rfl, rfl⟩
  | cons r rest ih =>
    have first : (d.info r).1.errors = d.errors ∧
        (d.info r).1.messages .warning = d.messages .warning := by
      rw [info]
      split
      · have hidden : ¬Severity.warning ≤ (d.diagnose .info r).severity := by
          change ¬Severity.warning ≤ Severity.info
          decide
        simp [record, messages, List.filter_append, hidden]
      · exact ⟨rfl, rfl⟩
    obtain ⟨errors, messages⟩ := ih (d.info r).1
    exact ⟨errors.trans first.1, messages.trans first.2⟩

end Diagnostics

namespace Lowering

/-- What is left of a program depends on the configuration of the lowerer only. -/
theorem lower_program_eq {program : Node}
    (plain : ∀ n ∈ program.walk, n.isNamespacedName = false) {l l' : Lowerer}
    {lowered lowered' : Lowered} {next next' : Lowerer}
    (h : l.lower program = .ok (lowered, next)) (h' : l'.lower program = .ok (lowered', next'))
    (same : l.config = l'.config) : lowered.program = lowered'.program := by
  obtain ⟨helper, _, _, result, free, imports, tree, -⟩ := lower_ok plain l
  obtain ⟨helper', _, _, result', free', imports', tree', -⟩ := lower_ok plain l'
  rw [h] at result
  rw [h'] at result'
  cases result
  cases result'
  rw [← same] at free' imports' tree'
  rw [tree, tree', imports, imports', free.unique free']

end Lowering

namespace Compilation

open Lowering

/-- What is said of a source that breaks the grammar. -/
def parsingMessage (name : Text) (e : Grammar.ParseError) : Text :=
  Diagnostic.toText ⟨.error, e.message name, "parsing", { file := some name }⟩

/-- What is said of a source with a namespaced name. -/
def transformMessage (n : Node) : Text :=
  Diagnostic.toText ⟨.error, NamespaceError.text, "transform", n.place⟩

section Cases

variable {source name level : Text} {config : Config} {pretty : Bool}

theorem outcome_of_refusal {e : Grammar.ParseError} (parsed : Grammar.parse source name = .error e)
    (refusal : e.isRefusal = true) :
    (ofSource source name config level pretty).outcome =
      .ok ⟨.parsingFailed, [parsingMessage name e]⟩ := by
  rw [ofSource, parsed]
  simp only [refusal, if_true, refused, Diagnostics.messages_error]
  rfl

theorem outcome_of_namespace {program n : Node} (parsed : Grammar.parse source name = .ok program)
    (first : program.walk.find? Node.isNamespacedName = some n) :
    (ofSource source name config level pretty).outcome =
      .ok ⟨.transformFailed, [transformMessage n]⟩ := by
  let l := Lowerer.new config (.ofLevel level false)
  have error : l.lower program = .error ⟨n⟩ :=
    (Workspace.run_lower_refused (w := ⟨program, l⟩) first).1
  simp only [l] at error
  rw [ofSource, parsed]
  simp only [error, refused, Diagnostics.messages_error]
  rfl

theorem outcome_of_lowered {program : Node} {lowered : Lowered} {next : Lowerer} {code : Text}
    (parsed : Grammar.parse source name = .ok program)
    (result : (Lowerer.new config (.ofLevel level false)).lower program = .ok (lowered, next))
    (printed : lowered.program.print pretty 0 = .ok code) :
    (ofSource source name config level pretty).outcome = .ok ⟨.accepted code, []⟩ := by
  obtain ⟨-, -, -, diagnostics⟩ := Workspace.lower_leaves result
  obtain ⟨errors, messages⟩ := Diagnostics.infos_silent
    (Lowerer.new config (.ofLevel level false)).diagnostics
    (Lowerer.reports config lowered.injected lowered.mergeSites)
  have clean : next.diagnostics.hasErrors = false := by
    have none : next.diagnostics.errors = 0 := by
      rw [diagnostics]
      exact errors
    rw [Diagnostics.hasErrors, none]
    rfl
  have silent : next.diagnostics.messages .warning = [] := by
    rw [diagnostics]
    exact messages
  rw [ofSource, parsed]
  simp only [result, printed, clean, silent]
  rfl

variable (source name config pretty) in
/-- What a source that the parser answers for comes to. -/
inductive Concludes : Summary → Prop
  | parsing {e : Grammar.ParseError} : Grammar.parse source name = .error e →
      Concludes ⟨.parsingFailed, [parsingMessage name e]⟩
  | transform {program n : Node} : Grammar.parse source name = .ok program →
      program.walk.find? Node.isNamespacedName = some n →
      Concludes ⟨.transformFailed, [transformMessage n]⟩
  | accepted {program : Node} {code : Text} : Grammar.parse source name = .ok program →
      program.walk.find? Node.isNamespacedName = none →
      (∀ level, ∃ (lowered : Lowered) (next : Lowerer),
        Workspace.lower.run ⟨program, .new config (.ofLevel level false)⟩ =
          .ok lowered ⟨lowered.program, next⟩ ∧
        lowered.program.print pretty 0 = .ok code) →
      Concludes ⟨.accepted code, []⟩

/-- The runs at different levels print the same code. -/
theorem exists_code {program : Node} (parsed : Grammar.parse source name = .ok program)
    (none : program.walk.find? Node.isNamespacedName = none) :
    ∃ code, ∀ level, ∃ (lowered : Lowered) (next : Lowerer),
      (Lowerer.new config (.ofLevel level false)).lower program = .ok (lowered, next) ∧
      Workspace.lower.run ⟨program, .new config (.ofLevel level false)⟩ =
        .ok lowered ⟨lowered.program, next⟩ ∧
      lowered.program.print pretty 0 = .ok code := by
  have plain : ∀ n ∈ program.walk, n.isNamespacedName = false := by
    simpa only [List.find?_eq_none, Bool.not_eq_true] using none
  obtain ⟨quiet, _, result, fits⟩ :=
    fits_lowered (Grammar.parse_fits parsed) plain (.new config (.ofLevel [] false))
  obtain ⟨code, printed⟩ := quiet.program.print_succeeds
    (fun m hm => (fits.forall_isCode (.inl rfl) m hm).1) 0
  refine ⟨code, fun level => ?_⟩
  obtain ⟨lowered, next, result', ran⟩ := Workspace.run_lower_parsed
    (w := ⟨program, .new config (.ofLevel level false)⟩) parsed none
  refine ⟨lowered, next, result', ran, ?_⟩
  rw [← lower_program_eq plain result result' rfl, printed]

variable (config pretty) in
theorem ofSource_concludes
    (answers : ∀ e, Grammar.parse source name = .error e → e.isRefusal = true) :
    ∃ summary, (∀ level, (ofSource source name config level pretty).outcome = .ok summary) ∧
      Concludes source name config pretty summary := by
  cases parsed : Grammar.parse source name with
  | error e =>
    exact ⟨_, fun _ => outcome_of_refusal parsed (answers e parsed), .parsing parsed⟩
  | ok program =>
    cases first : program.walk.find? Node.isNamespacedName with
    | some n => exact ⟨_, fun _ => outcome_of_namespace parsed first, .transform parsed first⟩
    | none =>
      obtain ⟨code, runs⟩ := exists_code parsed first
      refine ⟨⟨.accepted code, []⟩, fun level => ?_, .accepted parsed first fun level => ?_⟩
      · obtain ⟨lowered, next, result, -, printed⟩ := runs level
        exact outcome_of_lowered parsed result printed
      · obtain ⟨lowered, next, -, ran⟩ := runs level
        exact ⟨lowered, next, ran⟩

end Cases

/-- A source that the parser answers for is compiled to one of three verdicts, which is the same at
every level of verbosity: it is refused for its grammar, refused for a namespaced name, with one
message of an error each, or accepted without a message. The code is the printed lowered program. -/
theorem ofSource_outcomes (source name : Text) (config : Config) (pretty : Bool)
    (answers : ∀ e, Grammar.parse source name = .error e → e.isRefusal = true) :
    ∃ summary : Summary,
      (∀ level, (ofSource source name config level pretty).outcome = .ok summary) ∧
      (summary.verdict = .parsingFailed ↔ ∃ e, Grammar.parse source name = .error e) ∧
      (summary.verdict = .transformFailed ↔ ∃ program, Grammar.parse source name = .ok program ∧
        ∃ n ∈ program.walk, n.isNamespacedName = true) ∧
      summary.verdict ≠ .emissionFailed ∧
      (∀ e, Grammar.parse source name = .error e → summary.messages = [parsingMessage name e]) ∧
      (∀ program n, Grammar.parse source name = .ok program →
        program.walk.find? Node.isNamespacedName = some n →
        summary.messages = [transformMessage n]) ∧
      ∀ code, summary.verdict = .accepted code → summary.messages = [] ∧
        ∃ program, Grammar.parse source name = .ok program ∧
          ∀ level, ∃ (lowered : Lowered) (next : Lowerer),
            Workspace.lower.run ⟨program, .new config (.ofLevel level false)⟩ =
              .ok lowered ⟨lowered.program, next⟩ ∧
            lowered.program.print pretty 0 = .ok code := by
  obtain ⟨summary, outcome, concludes⟩ := ofSource_concludes config pretty answers
  refine ⟨summary, outcome, ?_⟩
  cases concludes with
  | parsing parsed => simp [parsed]
  | @transform program n parsed first =>
    have present : ∃ n ∈ program.walk, n.isNamespacedName = true :=
      ⟨n, List.mem_of_find?_eq_some first, List.find?_some first⟩
    refine ⟨by simp [parsed], by simpa [parsed] using present, by simp, by simp [parsed], ?_, nofun⟩
    rintro _ m same found
    rw [parsed] at same
    cases same
    rw [first] at found
    cases found
    rfl
  | @accepted program code parsed none runs =>
    have absent : ∀ n ∈ program.walk, n.isNamespacedName = false := by
      simpa only [List.find?_eq_none, Bool.not_eq_true] using none
    refine ⟨by simp [parsed], by simpa [parsed] using absent, by simp, by simp [parsed], ?_, ?_⟩
    · rintro _ n same found
      rw [parsed] at same
      cases same
      rw [none] at found
      cases found
    · rintro _ ⟨⟩
      exact ⟨rfl, program, parsed, runs⟩

/-- The parser answers that the source is not one of its language. -/
def isRefused (source : Text) : Bool :=
  match Grammar.parse source [] with
  | .error e => e.isRefusal
  | .ok _ => false

/-- An element that is not closed. -/
def openSource : Text := "<a>"

/-- A source for each of the three verdicts. -/
theorem ofSource_outcomes_each :
    (∃ summary, (∀ level, (ofSource openSource [] {} level true).outcome = .ok summary) ∧
      summary.verdict = .parsingFailed ∧ summary.messages.length = 1) ∧
    (∃ summary, (∀ level, (ofSource nestedSource [] {} level true).outcome = .ok summary) ∧
      summary.verdict = .transformFailed ∧ summary.messages.length = 1) ∧
    ∃ summary code,
      (∀ level, (ofSource spreadSource [] { grouping := .flat } level false).outcome =
        .ok summary) ∧
      summary.verdict = .accepted code ∧ summary.messages = [] := by
  refine ⟨?_, ?_, ?_⟩
  · have refused : isRefused openSource = true := by decide +kernel
    rw [isRefused] at refused
    cases parsed : Grammar.parse openSource [] with
    | ok program =>
      rw [parsed] at refused
      cases refused
    | error e =>
      rw [parsed] at refused
      obtain ⟨summary, outcome, parsing, -, -, messages, -⟩ :=
        ofSource_outcomes openSource [] {} true (by simpa [parsed] using refused)
      exact ⟨summary, outcome, parsing.mpr ⟨e, parsed⟩, by rw [messages e parsed]; rfl⟩
  · obtain ⟨program, n, parsed, first⟩ := nestedSource_parses
    obtain ⟨summary, outcome, -, transform, -, -, messages, -⟩ :=
      ofSource_outcomes nestedSource [] {} true (by simp [parsed])
    refine ⟨summary, outcome, transform.mpr ⟨program, parsed, n, ?_, ?_⟩, ?_⟩
    · exact List.mem_of_find?_eq_some first
    · exact List.find?_some first
    · rw [messages program n parsed first]
      rfl
  · obtain ⟨program, parsed, plain, -⟩ := spreadSource_parses
    obtain ⟨summary, outcome, parsing, transform, emission, -, -, accepted⟩ :=
      ofSource_outcomes spreadSource [] { grouping := .flat } false (by simp [parsed])
    cases verdict : summary.verdict with
    | accepted code => exact ⟨summary, code, outcome, verdict, (accepted code verdict).1⟩
    | emissionFailed => exact absurd verdict emission
    | parsingFailed =>
      obtain ⟨e, refused⟩ := parsing.mp verdict
      rw [parsed] at refused
      cases refused
    | transformFailed =>
      obtain ⟨_, same, n, hn, named⟩ := transform.mp verdict
      rw [parsed] at same
      cases same
      rw [plain n hn] at named
      cases named

end Compilation

end Hyperscript
