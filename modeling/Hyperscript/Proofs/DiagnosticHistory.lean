import Hyperscript.Diagnostic
import Hyperscript.LogLevel
import Hyperscript.Proofs.Spelling
import Mathlib.Data.List.Forall2

/-!
# The history of a collection of diagnostics

A collection goes through one operation after another, and goes on after an error that it has raised.
An operation appends what it makes to the records, and changes nothing before that. So the records of
a history are there to stay, their number is that of the operations that make one, and the count of
errors, which is kept apart from the records, is that of the errors that were reported.
-/
namespace Hyperscript

/-- The text is the word, which has small letters, with each letter small or capital. -/
def Text.InAnyCase (word t : Text) : Prop :=
  List.Forall₂ (fun w c => c = w ∨ c = LogLevel.capital w) word t

instance (word t : Text) : Decidable (word.InAnyCase t) :=
  inferInstanceAs (Decidable (List.Forall₂ _ word t))

theorem CodePoint.lower_of_isLower {w : CodePoint} (small : w.isLower = true) :
    w.lower = w ∧ (LogLevel.capital w).lower = w := by
  have ascii : w.val < 128 := by
    simp only [isLower, Bool.and_eq_true, decide_eq_true_eq] at small
    exact Nat.lt_of_le_of_lt small.2 (by decide)
  exact of_ascii (P := fun w => w.isLower = true → w.lower = w ∧ (LogLevel.capital w).lower = w)
    (by decide) w ascii small

theorem CodePoint.capital_lower {c : CodePoint} (large : c.isUpper = true) :
    LogLevel.capital c.lower = c := by
  have ascii : c.val < 128 := by
    simp only [isUpper, Bool.and_eq_true, decide_eq_true_eq] at large
    exact Nat.lt_of_le_of_lt large.2 (by decide)
  exact of_ascii (P := fun c => c.isUpper = true → LogLevel.capital c.lower = c)
    (by decide) c ascii large

theorem CodePoint.lower_eq_iff {c w : CodePoint} (small : w.isLower = true) :
    c.lower = w ↔ c = w ∨ c = LogLevel.capital w := by
  constructor
  · rintro rfl
    cases large : c.isUpper with
    | true => exact .inr (capital_lower large).symm
    | false => exact .inl (by simp [lower, large])
  · rintro (rfl | rfl)
    · exact (lower_of_isLower small).1
    · exact (lower_of_isLower small).2

theorem Text.lower_eq_iff {word t : Text} (small : ∀ w ∈ word, w.isLower = true) :
    t.lower = word ↔ word.InAnyCase t := by
  induction word generalizing t with
  | nil => simp [lower, InAnyCase]
  | cons w word ih =>
    cases t with
    | nil => simp [lower, InAnyCase]
    | cons c t =>
      have rest := ih (t := t) fun v member => small v (List.mem_cons_of_mem w member)
      rw [InAnyCase, List.forall₂_cons, lower, List.map_cons, List.cons.injEq,
        CodePoint.lower_eq_iff (small w List.mem_cons_self)]
      exact and_congr_right fun _ => rest

namespace Diagnostics

/-- What can be done to a collection. -/
inductive Operation where
  | error (r : Report)
  | info (r : Report)
  /-- Names the stage of later reports that name none. -/
  | stage (name : Text)
  /-- Records what was made elsewhere. -/
  | record (entry : Diagnostic)

namespace Operation

def isError : Operation → Bool
  | error _ => true
  | _ => false

/-- The operation makes a record in a collection of the given level. -/
def Records (level : Text) : Operation → Prop
  | error _ => True
  | info _ => Text.InAnyCase "debug" level ∨ Text.InAnyCase "info" level
  | stage _ => False
  | record _ => True

instance (level : Text) : DecidablePred (Records level)
  | error _ => .isTrue trivial
  | info _ => inferInstanceAs (Decidable (_ ∨ _))
  | stage _ => .isFalse id
  | record _ => .isTrue trivial

end Operation

/-- The collection after an operation, and what the operation raises. -/
def perform (d : Diagnostics) : Operation → Diagnostics × Option Diagnostic
  | .error r => ((d.error r).1, d.raised? r)
  | .info r => ((d.info r).1, none)
  | .stage name => ({ d with stage := name }, none)
  | .record entry => (d.record entry, none)

/-- The collection after one operation after another, whatever they raise. -/
def after (d : Diagnostics) (history : List Operation) : Diagnostics :=
  history.foldl (fun d op => (d.perform op).1) d

/-- The records that an operation makes. -/
def made (d : Diagnostics) : Operation → List Diagnostic
  | .error r => [d.diagnose .error r]
  | .info r => if d.verbose then [d.diagnose .info r] else []
  | .stage _ => []
  | .record entry => [entry]

section Operations

variable (d : Diagnostics) (op : Operation) (history later : List Operation)

theorem records_perform : (d.perform op).1.records = d.records ++ d.made op := by
  cases op with
  | error r => rfl
  | info r => cases shown : d.verbose <;> simp [perform, info, made, record, shown]
  | stage name => exact (List.append_nil _).symm
  | record entry => rfl

theorem errors_perform : (d.perform op).1.errors = d.errors + if op.isError then 1 else 0 := by
  cases op with
  | info r => cases shown : d.verbose <;> simp [perform, info, record, shown, Operation.isError]
  | _ => rfl

theorem settings_perform :
    (d.perform op).1.verbose = d.verbose ∧ (d.perform op).1.raising = d.raising := by
  cases op with
  | info r => cases shown : d.verbose <;> simp [perform, info, record, shown]
  | _ => exact ⟨rfl, rfl⟩

/-- An error is raised as it was recorded, and nothing else is raised. -/
theorem raised_perform :
    (d.perform op).2 = if d.raising && op.isError then (d.made op).head? else none := by
  cases op with
  | error r => cases raises : d.raising <;> simp [perform, raised?, made, raises, Operation.isError]
  | _ => simp [perform, Operation.isError]

@[simp] theorem after_nil : d.after [] = d := rfl

@[simp] theorem after_cons : d.after (op :: history) = (d.perform op).1.after history := rfl

theorem after_append : d.after (history ++ later) = (d.after history).after later :=
  List.foldl_append

theorem records_prefix_after : d.records <+: (d.after history).records := by
  induction history generalizing d with
  | nil => exact List.prefix_refl _
  | cons op rest ih =>
    refine List.IsPrefix.trans ?_ (ih (d.perform op).1)
    rw [records_perform]
    exact List.prefix_append _ _

theorem settings_after :
    (d.after history).verbose = d.verbose ∧ (d.after history).raising = d.raising := by
  induction history generalizing d with
  | nil => exact ⟨rfl, rfl⟩
  | cons op rest ih =>
    obtain ⟨verbose, raising⟩ := settings_perform d op
    obtain ⟨verbose', raising'⟩ := ih (d.perform op).1
    exact ⟨verbose'.trans verbose, raising'.trans raising⟩

theorem errors_after : (d.after history).errors = d.errors + history.countP Operation.isError := by
  induction history generalizing d with
  | nil => rfl
  | cons op rest ih =>
    rw [after_cons, ih, errors_perform, List.countP_cons]
    omega

end Operations

section Levels

variable {level : Text}

theorem isVerboseLevel_iff :
    isVerboseLevel level = true ↔ Text.InAnyCase "debug" level ∨ Text.InAnyCase "info" level := by
  have debug : (Text.ofString "debug").all CodePoint.isLower = true := rfl
  have info : (Text.ofString "info").all CodePoint.isLower = true := rfl
  rw [isVerboseLevel, List.contains_iff_mem, List.mem_cons, List.mem_singleton,
    Text.lower_eq_iff (List.all_eq_true.mp debug), Text.lower_eq_iff (List.all_eq_true.mp info)]

/-- An operation makes one record or none. -/
theorem length_made {d : Diagnostics} (own : d.verbose = isVerboseLevel level) (op : Operation) :
    (d.made op).length = if op.Records level then 1 else 0 := by
  cases op with
  | info r =>
    by_cases shown : isVerboseLevel level = true
    · have records : (Operation.info r).Records level := isVerboseLevel_iff.mp shown
      simp [made, own, shown, records]
    · have silent : ¬(Operation.info r).Records level := fun h => shown (isVerboseLevel_iff.mpr h)
      simp [made, own, shown, silent]
  | _ => rfl

theorem length_records_after {d : Diagnostics} (own : d.verbose = isVerboseLevel level)
    (history : List Operation) :
    (d.after history).records.length =
      d.records.length + history.countP fun op => op.Records level := by
  induction history generalizing d with
  | nil => rfl
  | cons op rest ih =>
    have still := (settings_perform d op).1.trans own
    rw [after_cons, ih still, records_perform, List.length_append, length_made own,
      List.countP_cons]
    simp only [decide_eq_true_eq]
    omega

end Levels

/-- A severity that is shown is shown by every lower threshold. -/
theorem messages_filter (d : Diagnostics) {least greater : Severity} (le : least ≤ greater) :
    d.messages greater =
      ((d.records.filter fun entry => least ≤ entry.severity).filter fun entry =>
        greater ≤ entry.severity).map Diagnostic.toText := by
  rw [messages, List.filter_filter]
  refine congrArg _ (List.filter_congr fun entry _ => ?_)
  have lower : greater ≤ entry.severity → least ≤ entry.severity := Nat.le_trans le
  simpa using lower

/-- A collection is a log of its history, whatever it raises. What is recorded stays; each operation
appends the records that it makes, one for an error or a record made elsewhere, and one for
information exactly if the level is debug or info in any case; an error is recorded before it is
raised, and none goes uncounted. The messages of a severity are those of a lower one whose records
are severe enough, in the order of recording. -/
theorem after_isLog (level : Text) (raising : Bool) (history : List Operation) :
    let start := ofLevel level raising
    let d := start.after history
    (∀ later, d.records <+: (start.after (history ++ later)).records) ∧
      d.records.length = history.countP (fun op => op.Records level) ∧
      (∀ op, (start.after (history ++ [op])).records = d.records ++ d.made op ∧
        (d.made op).length = (if op.Records level then 1 else 0) ∧
        (d.perform op).2 = if raising && op.isError then (d.made op).head? else none) ∧
      (d.hasErrors = true ↔ ∃ r, .error r ∈ history) ∧
      ∀ least greater, least ≤ greater →
        let shown := d.records.filter fun entry => least ≤ entry.severity
        d.messages least = shown.map Diagnostic.toText ∧
          d.messages greater =
            (shown.filter fun entry => greater ≤ entry.severity).map Diagnostic.toText ∧
          (d.messages greater).Sublist (d.messages least) := by
  intro start d
  obtain ⟨verbose, raises⟩ := settings_after start history
  refine ⟨?_, ?_, ?_, ?_, ?_⟩
  · intro later
    rw [after_append]
    exact records_prefix_after d later
  · exact (length_records_after rfl history).trans (Nat.zero_add _)
  · intro op
    refine ⟨?_, length_made verbose op, ?_⟩
    · rw [after_append]
      exact records_perform d op
    · rw [raised_perform, raises]
      rfl
  · have count : d.errors = history.countP Operation.isError :=
      (errors_after start history).trans (Nat.zero_add _)
    rw [hasErrors, decide_eq_true_eq, count, List.countP_pos_iff]
    constructor
    · rintro ⟨op, member, own⟩
      cases op with
      | error r => exact ⟨r, member⟩
      | _ => cases own
    · rintro ⟨r, member⟩
      exact ⟨_, member, rfl⟩
  · intro least greater le
    have greaterShown := messages_filter d le
    refine ⟨rfl, greaterShown, ?_⟩
    rw [greaterShown]
    exact List.filter_sublist.map _

example (r : Report) : ((ofLevel "Warning" true).after [.info r, .error r]).records =
    [(ofLevel "Warning" true).diagnose .error r] := rfl

end Diagnostics

end Hyperscript
