import Hyperscript.Diagnostic
import Hyperscript.Lowering.Config

/-!
# Command line options

Options and the one argument may come in any order, and `--` ends the options. An option that
takes a value takes whatever comes next. Of repeated options the last one counts.
-/
namespace Hyperscript.CommandLine

/-- Options that take a value. -/
inductive Setting where
  | input | output | logLevel | mergeHelper
  deriving DecidableEq, Repr

/-- Options that take none. -/
inductive Switch where
  | noCustomTag | noBinding | compact | help
  deriving DecidableEq, Repr

inductive Flag where
  | setting (s : Setting)
  | switch (s : Switch)
  deriving DecidableEq, Repr

def longNames : List (String × Flag) :=
  [("--input", .setting .input), ("--output", .setting .output),
   ("--log-level", .setting .logLevel), ("--merge-helper", .setting .mergeHelper),
   ("--no-custom-tag", .switch .noCustomTag), ("--no-inject-h", .switch .noBinding),
   ("--compact", .switch .compact), ("--help", .switch .help)]

def shortNames : List (Char × Setting) := [('i', .input), ('o', .output)]

def long? (name : Text) : Option Flag :=
  (longNames.find? fun entry => Text.ofString entry.1 = name).map (·.2)

def short? (c : CodePoint) : Option Setting :=
  (shortNames.find? fun entry => CodePoint.ofChar entry.1 = c).map (·.2)

/-- What a command line consists of. -/
inductive Item where
  | value (setting : Setting) (text : Text)
  | switch (switch : Switch)
  | positional (text : Text)
  deriving DecidableEq, Repr

/-- What an option says by itself. -/
inductive Reading where
  | complete (item : Item)
  /-- The value is the next argument. -/
  | pending (setting : Setting)
  deriving DecidableEq, Repr

def isOption (arg : Text) : Bool := arg.head? == some (CodePoint.ofChar '-') && 1 < arg.length

/-- Reads a long name, perhaps with a value after an equals sign, or a short name, perhaps with its
value behind it. -/
def readOption (arg : Text) : Option Reading :=
  let isEquals (c : CodePoint) : Bool := c = '='
  let name := arg.takeWhile (!isEquals ·)
  let explicit := if arg.any isEquals then some (arg.drop (name.length + 1)) else none
  match long? name, explicit with
  | some (.setting s), some text => some (.complete (.value s text))
  | some (.setting s), none => some (.pending s)
  | some (.switch s), none => some (.complete (.switch s))
  | some (.switch _), some _ => none
  | none, _ =>
    match arg with
    | _ :: c :: text =>
      (short? c).map fun s => if text.isEmpty then .pending s else .complete (.value s text)
    | _ => none

/-- The items of a command line, unless an option is unknown or lacks its value. -/
def items : List Text → Option (List Item)
  | [] => some []
  | arg :: rest =>
    if arg = "--" then some (rest.map .positional)
    else if isOption arg then
      match readOption arg with
      | none => none
      | some (.complete item) => (items rest).map (item :: ·)
      | some (.pending s) =>
        match rest with
        | [] => none
        | text :: rest => (items rest).map (.value s text :: ·)
    else (items rest).map (.positional arg :: ·)

/-- Why arguments are not carried out. -/
inductive Refusal where
  | misuse
  /-- A file name with a null code point. -/
  | nullByte (name : Text)
  deriving DecidableEq, Repr

structure Options where
  file : Option Text := none
  input : Option Text := none
  output : Option Text := none
  logLevel : Severity := .warning
  config : Lowering.Config := {}
  compact : Bool := false

/-- The names of levels, in any case. -/
def severity? (name : Text) : Option Severity :=
  [Severity.debug, .info, .warning, .error].find? fun s => s.label.lower = name.lower

def lastValue (setting : Setting) (found : List Item) : Option Text :=
  found.reverse.findSome? fun
    | .value s text => if s = setting then some text else none
    | _ => none

def positionals (found : List Item) : List Text :=
  found.filterMap fun
    | .positional text => some text
    | _ => none

def checkName (name : Text) : Except Refusal Unit :=
  if name.contains 0 then .error (.nullByte name) else .ok ()

/-- A level has to be a known one, and an output a possible name. -/
def Setting.check (setting : Setting) (value : Text) : Except Refusal Unit :=
  match setting with
  | .logLevel => if (severity? value).isSome then .ok () else .error .misuse
  | .output => checkName value
  | .input | .mergeHelper => .ok ()

/-- Where a setting is mentioned, the value that counts for it is checked. -/
def Item.check (found : List Item) : Item → Except Refusal Unit
  | .value setting text => setting.check ((lastValue setting found).getD text)
  | _ => .ok ()

namespace Options

/-- The one argument, if there is any. Its name is checked before their number. -/
def fileOf (found : List Item) : Except Refusal (Option Text) :=
  match positionals found with
  | [] => .ok none
  | file :: others => do
    checkName file
    if others.isEmpty then return some file else throw .misuse

/-- The options that items stand for. Settings are checked in the order in which they come, and all
of them before the argument. -/
def ofItems (found : List Item) : Except Refusal Options := do
  found.forM (Item.check found)
  let file ← fileOf found
  let on (s : Switch) : Bool := found.contains (.switch s)
  let base : Lowering.Config := {}
  return {
    file
    input := lastValue .input found
    output := lastValue .output found
    logLevel := ((lastValue .logLevel found).bind severity?).getD .warning
    config := { base with
      customTag := if on .noCustomTag then none else base.customTag
      bindsFactory := !on .noBinding
      mergeModule := (lastValue .mergeHelper found).getD base.mergeModule }
    compact := on .compact }

end Options

/-- What the arguments ask for. -/
inductive Request where
  | help
  | compilation (options : Options)

/-- A call for help comes before all else that is wrong with the values. -/
def Request.ofArguments (arguments : List Text) : Except Refusal Request :=
  match items arguments with
  | none => .error .misuse
  | some found =>
    if found.contains (.switch .help) then .ok .help
    else (Options.ofItems found).map .compilation

end Hyperscript.CommandLine
