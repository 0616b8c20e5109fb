import Hyperscript.Proofs.NamespaceGuard

/-!
# The history of a lowerer

A lowerer takes one program after another and keeps a registry and counts. They are those of the
last program until the guard has let the next one through, and then they start anew. So a call does
what the first call of a new lowerer would do, whatever calls came before it and wherever they
failed.

Runs are compared in pairs. Up to the guard, the two lowerers need no more in common than their
settings; behind it they go level, and differ only in what they have reported.
-/
namespace Hyperscript.Lowering

/-- How the entries of one run of attributes are laid out, and which entries can be. -/
structure EntryLayout where
  object : List Entry → Node
  admits : List Entry → Bool := fun _ => true

def Grouping.layout (g : Grouping) : EntryLayout := ⟨g.object, g.admits⟩

section Layouts

/-!
The settings can name two groupings. Here the caller says what a grouping stands for, so the layout
may be any function of the caller's own.
-/

variable (layouts : Grouping → EntryLayout)

def PropGroup.expressionIn (layout : EntryLayout) : PropGroup → Node
  | .literal entries => layout.object entries
  | .spread argument => argument

def PropGroup.mergeIn (config : Config) (groups : List PropGroup) (r : Registry) :
    Node × Registry :=
  match groups with
  | [] => (.plain .null, r)
  | [group] => (group.expressionIn (layouts config.grouping), r)
  | _ =>
    let (helper, r) := r.resolve config.mergeModule config.mergeExport config.mergeAlias
    let objects := groups.map (expressionIn (layouts config.grouping))
    (.plain (.call (.plain (.identifier helper)) [.plain (.arrayExpression objects)] false), r)

def Element.lowerIn (config : Config) (e : Element) (p : Progress) : Node × Progress :=
  let head := e.head config.customTag
  let groups := head.groups config.mustUseProp
  let (props, registry) := PropGroup.mergeIn layouts config groups p.registry
  let added := registry.helpers.drop p.registry.helpers.length
  (e.call config.pragma head.tag props,
    { registry
      elements := p.elements + 1
      mergeSites := if 1 < groups.length then p.mergeSites + 1 else p.mergeSites
      log := p.log ++ added.map Helper.logLine ++ [e.logLine head.name] })

/-- Rewrites every element of a tree by a rule, innermost first and in the order of the fields. -/
def lowerElementsBy (rule : Element → Progress → Node × Progress) : Node → StateM Progress Node :=
  Node.fold fun place form => do
    let form ← form.traverse id
    let n : Node := ⟨place, form⟩
    match Element.ofNode? n with
    | some e => modifyGet (rule e)
    | none => return n

def canLowerIn (config : Config) (n : Node) : Bool :=
  match n.form with
  | .jsxElement name attributes children _ =>
    let e : Element := ⟨n.place, name, attributes.map Attribute.ofNode, children⟩
    attributes.all isAttribute &&
      ((e.head config.customTag).groups config.mustUseProp).all fun g =>
        (layouts config.grouping).admits g.entries
  | _ => true

namespace Workspace

def lowerAllIn (log : List LogLine) : Step (List LogLine) := do
  let w ← get
  match w.lowerer.registry with
  | none => throw .undefined
  | some registry =>
    require (w.program.walk.all (canLowerIn layouts w.lowerer.config))
    let start : Progress :=
      { registry, elements := w.lowerer.elements, mergeSites := w.lowerer.mergeSites, log }
    let rule := Element.lowerIn layouts w.lowerer.config
    let (program, done) := (lowerElementsBy rule w.program).run start
    let lowerer :=
      { w.lowerer with
        registry := some done.registry, elements := done.elements, mergeSites := done.mergeSites }
    set ({ program, lowerer } : Workspace)
    return done.log

def lowerIn : Step Lowered := do
  checkNames
  restart
  let injected ← bindMethods
  let log ← lowerAllIn layouts (injected.map (·.logLine (← get).lowerer.config.pragma))
  let imports ← importHelpers
  let lines ← report injected
  let w ← get
  return {
    program := w.program
    imports
    injected
    elements := w.lowerer.elements
    mergeSites := w.lowerer.mergeSites
    log := log ++ lines }

end Workspace

theorem PropGroup.expressionIn_layout (g : Grouping) :
    PropGroup.expressionIn g.layout = PropGroup.expression g := by
  funext group
  cases group <;> rfl

theorem PropGroup.mergeIn_layout : PropGroup.mergeIn Grouping.layout = PropGroup.merge := by
  funext config groups r
  unfold mergeIn merge
  rw [expressionIn_layout]
  rfl

theorem Element.lowerIn_layout : Element.lowerIn Grouping.layout = Element.lower := by
  funext config e p
  unfold lowerIn lower
  rw [PropGroup.mergeIn_layout]

/-- With the layouts that the groupings stand for, it is the lowering. -/
theorem Workspace.lowerIn_layout : Workspace.lowerIn Grouping.layout = Workspace.lower := by
  have all : lowerAllIn Grouping.layout = lowerAll := by
    unfold lowerAllIn lowerAll
    rw [Element.lowerIn_layout]
    rfl
  unfold lowerIn lower
  rw [all]

end Layouts

namespace Workspace

section Pairs

variable {α β : Type} {config : Config} {layouts : Grouping → EntryLayout}

/-- Two workspaces with the same program, and with lowerers of the given settings. -/
structure SameTask (config : Config) (w v : Workspace) : Prop where
  program : w.program = v.program
  left : w.lowerer.config = config
  right : v.lowerer.config = config

/-- Besides, the lowerers have come equally far. -/
structure Level (config : Config) (w v : Workspace) : Prop extends SameTask config w v where
  registry : w.lowerer.registry = v.lowerer.registry
  elements : w.lowerer.elements = v.lowerer.elements
  mergeSites : w.lowerer.mergeSites = v.lowerer.mergeSites

/-- Two runs end alike: in workspaces that are related and with results that are, or with the same
failure at the same program. -/
inductive Alike (config : Config) (same : α → α → Prop) (post : Workspace → Workspace → Prop) :
    EStateM.Result Failure Workspace α → EStateM.Result Failure Workspace α → Prop
  | ok {a b : α} {w v : Workspace} (result : same a b) (reached : post w v) :
      Alike config same post (.ok a w) (.ok b v)
  | error {e : Failure} {w v : Workspace} (reached : SameTask config w v) :
      Alike config same post (.error e w) (.error e v)

/-- Runs of two steps from related workspaces end alike. -/
def Related (config : Config) (pre : Workspace → Workspace → Prop) (same : α → α → Prop)
    (post : Workspace → Workspace → Prop) (x y : Step α) : Prop :=
  ∀ w v, pre w v → Alike config same post (x.run w) (y.run v)

variable {pre mid post : Workspace → Workspace → Prop} {same : α → α → Prop} {x y : Step α}

theorem Related.bind {same' : β → β → Prop} {f g : α → Step β}
    (first : Related config pre same mid x y)
    (rest : ∀ a b, same a b → Related config mid same' post (f a) (g b)) :
    Related config pre same' post (x >>= f) (y >>= g) := by
  intro w v before
  have ends := first w v before
  cases left : x.run w <;> cases right : y.run v <;> rw [left, right] at ends <;> cases ends
  case ok.ok.ok result reached =>
    rw [run_bind_ok left, run_bind_ok right]
    exact rest _ _ result _ _ reached
  case error.error.error reached =>
    rw [run_bind_error left, run_bind_error right]
    exact .error reached

theorem Related.pure {a b : α} (result : same a b) :
    Related config pre same pre (Pure.pure a) (Pure.pure b) :=
  fun _ _ before => .ok result before

theorem Related.get : Related config pre pre pre MonadState.get MonadState.get :=
  fun _ _ before => .ok before before

theorem Related.set {w v : Workspace} (after : post w v) :
    Related config pre Eq post (MonadStateOf.set w) (MonadStateOf.set v) :=
  fun _ _ _ => .ok rfl after

theorem Related.throw {e : Failure} :
    Related config (Level config) same post (MonadExcept.throw e) (MonadExcept.throw e) :=
  fun _ _ before => .error before.toSameTask

theorem Related.require (condition : Bool) :
    Related config (Level config) Eq (Level config) (require condition) (require condition) := by
  cases condition with
  | true => exact Related.pure rfl
  | false => exact Related.throw

theorem related_checkNames :
    Related config (SameTask config) Eq (SameTask config) checkNames checkNames := by
  intro w v before
  cases checked : checkNamespaces w.program with
  | ok _ =>
    rw [run_checkNames_ok checked, run_checkNames_ok (before.program ▸ checked)]
    exact .ok rfl before
  | error e =>
    rw [run_checkNames_error checked, run_checkNames_error (before.program ▸ checked)]
    exact .error before

/-- What is left of the last programs ends here. -/
theorem related_restart :
    Related config (SameTask config) Eq (Level config) restart restart := by
  intro w v before
  rw [run_restart, run_restart]
  refine .ok rfl ⟨⟨before.program, before.left, before.right⟩, ?_, rfl, rfl⟩
  exact congrArg (some ∘ Registry.ofProgram) before.program

theorem related_bindMethods :
    Related config (Level config) Eq (Level config) bindMethods bindMethods := by
  refine Related.get.bind fun w v level => ?_
  rw [level.program, level.left, level.right]
  split
  · refine (Related.require _).bind fun _ _ _ => ?_
    refine (Related.set ?_).bind fun _ _ _ => Related.pure rfl
    exact { level with program := rfl }
  · exact Related.pure rfl

theorem related_lowerAllIn (log : List LogLine) :
    Related config (Level config) Eq (Level config) (lowerAllIn layouts log)
      (lowerAllIn layouts log) := by
  refine Related.get.bind fun w v level => ?_
  rw [level.program, level.left, level.right, level.registry, level.elements, level.mergeSites]
  split
  · exact Related.throw
  · refine (Related.require _).bind fun _ _ _ => ?_
    refine (Related.set ?_).bind fun _ _ _ => Related.pure rfl
    exact ⟨⟨rfl, level.left, level.right⟩, rfl, rfl, rfl⟩

theorem related_importHelpers :
    Related config (Level config) Eq (Level config) importHelpers importHelpers := by
  refine Related.get.bind fun w v level => ?_
  rw [level.program, level.registry]
  split
  · refine (Related.set ?_).bind fun _ _ _ => Related.pure rfl
    exact { level with program := rfl }
  · exact Related.throw

/-- Reports may differ: a line is there only if the collection records it. -/
theorem related_report (injected : List Method) :
    Related config (Level config) (fun _ _ => True) (Level config) (report injected)
      (report injected) := by
  intro w v level
  exact .ok trivial ⟨⟨level.program, level.left, level.right⟩, level.registry, level.elements,
    level.mergeSites⟩

end Pairs

end Workspace

/-- What a lowering has returned, without what was logged of it. -/
def Lowered.withoutLog (r : Lowered) : Lowered := { r with log := [] }

/-- Lowerers with the same settings do the same to the same program. -/
theorem Workspace.related_lowerIn {config : Config} (layouts : Grouping → EntryLayout) :
    Related config (SameTask config) (fun a b => a.withoutLog = b.withoutLog) (Level config)
      (lowerIn layouts) (lowerIn layouts) := by
  refine related_checkNames.bind fun _ _ _ => ?_
  refine related_restart.bind fun _ _ _ => ?_
  refine related_bindMethods.bind ?_
  rintro injected _ rfl
  refine Related.get.bind fun w v level => ?_
  rw [level.left, level.right]
  refine (related_lowerAllIn _).bind ?_
  rintro log _ rfl
  refine related_importHelpers.bind ?_
  rintro imports _ rfl
  refine (related_report injected).bind fun lines others _ => ?_
  refine Related.get.bind fun w v level => ?_
  apply Related.pure
  rw [Lowered.withoutLog, Lowered.withoutLog, level.program, level.elements, level.mergeSites]

/-- Programs, each under its number, and the lowerer that is called on them. -/
structure Session where
  programs : Nat → Node
  lowerer : Lowerer

namespace Session

/-- A run as its caller sees it: what it returned or why it failed, and the program that it left. -/
def seen : EStateM.Result Failure Workspace Lowered → Except Failure Lowered × Node
  | .ok lowered w => (.ok lowered.withoutLog, w.program)
  | .error e w => (.error e, w.program)

def reached : EStateM.Result Failure Workspace Lowered → Workspace
  | .ok _ w => w
  | .error _ w => w

/-- The call on the program with the given number. -/
def call (layouts : Grouping → EntryLayout) (s : Session) (number : Nat) :
    EStateM.Result Failure Workspace Lowered :=
  (Workspace.lowerIn layouts).run ⟨s.programs number, s.lowerer⟩

/-- The session after a call. The program and the lowerer are what the call has made of them, also
if it failed. -/
def next (layouts : Grouping → EntryLayout) (s : Session) (number : Nat) : Session :=
  let w := reached (s.call layouts number)
  { programs := fun n => if n = number then w.program else s.programs n
    lowerer := w.lowerer }

/-- The session after one call after another. -/
def after (layouts : Grouping → EntryLayout) (s : Session) (numbers : List Nat) : Session :=
  numbers.foldl (next layouts) s

section Calls

variable {layouts : Grouping → EntryLayout} {config : Config}
  {one other : EStateM.Result Failure Workspace Lowered}

/-- Two calls end alike, so far as their callers see. -/
abbrev Agree (config : Config) (one other : EStateM.Result Failure Workspace Lowered) : Prop :=
  Workspace.Alike config (fun a b => a.withoutLog = b.withoutLog) (Workspace.Level config) one other

theorem Agree.seen_eq (ends : Agree config one other) : seen one = seen other := by
  cases ends with
  | ok result level => exact congrArg₂ Prod.mk (congrArg Except.ok result) level.program
  | error task => exact congrArg (Prod.mk _) task.program

theorem Agree.config_reached (ends : Agree config one other) :
    (reached one).lowerer.config = config := by
  cases ends with
  | ok _ level => exact level.left
  | error task => exact task.left

variable (layouts) in
/-- The lowerers of two calls on one program may have any past. -/
theorem agree_call {s : Session} (own : s.lowerer.config = config) {l : Lowerer}
    (fresh : l.config = config) (number : Nat) :
    Agree config (s.call layouts number)
      ((Workspace.lowerIn layouts).run ⟨s.programs number, l⟩) :=
  Workspace.related_lowerIn layouts _ _ ⟨rfl, own, fresh⟩

theorem config_next (s : Session) (number : Nat) :
    (s.next layouts number).lowerer.config = s.lowerer.config :=
  (agree_call layouts rfl rfl number).config_reached

theorem config_after (s : Session) (numbers : List Nat) :
    (s.after layouts numbers).lowerer.config = s.lowerer.config := by
  induction numbers generalizing s with
  | nil => rfl
  | cons number rest ih => exact (ih (s.next layouts number)).trans (config_next s number)

end Calls

end Session

/-- A lowerer carries nothing from one program to the next. Whatever layouts the settings name, and
whatever calls came before and however they ended, the next call gives and leaves what it would with
a new lowerer of the same settings. With the layouts that the groupings stand for, the calls are
those of the lowering itself. -/
theorem lowerer_carries_nothing (layouts : Grouping → EntryLayout) (s : Session)
    (earlier : List Nat) (number : Nat) (diagnostics : Diagnostics) :
    Session.seen ((s.after layouts earlier).call layouts number) =
        Session.seen ((Workspace.lowerIn layouts).run
          ⟨(s.after layouts earlier).programs number,
            Lowerer.new s.lowerer.config diagnostics⟩) ∧
      Workspace.lowerIn Grouping.layout = Workspace.lower := by
  constructor
  · have fresh : (Lowerer.new s.lowerer.config diagnostics).config = s.lowerer.config := rfl
    exact (Session.agree_call layouts (Session.config_after s earlier) fresh number).seen_eq
  · exact Workspace.lowerIn_layout

end Hyperscript.Lowering
