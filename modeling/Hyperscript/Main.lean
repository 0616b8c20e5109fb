import Hyperscript.CommandLine.Command

/-!
# The program

Runs the command on the file system, and prints what it says.
-/
namespace Hyperscript

/-- The text as a string; a surrogate becomes the replacement character. -/
def Text.toDisplay (t : Text) : String :=
  String.ofList (t.map fun c => c.toChar?.getD '\ufffd')

def Path.toDisplay (p : Path) : String := p.toText.toDisplay

namespace FileSystem

/-- Why a file could not be used, as far as the command tells causes apart. -/
def cause (e : IO.Error) (isDirectory : Bool) : FileCause :=
  match e with
  | .noFileOrDirectory .. => .missing
  | .alreadyExists .. => .occupied
  | .invalidArgument .. => .nameTooLong
  | _ => if isDirectory then .isDirectory else .notDirectory

def isDirectoryAt (name : String) : IO Bool := do
  let path := (← IO.currentDir) / name
  path.isDir

/-- Acts on a path, unless its name would be cut short at a null code point. -/
def attempt {α : Type} (p : Path) (action : IO α) : IO (Except FileError α) := do
  if p.toText.contains 0 then return .error ⟨.nullByte, p⟩
  try
    return .ok (← action)
  catch e =>
    return .error ⟨cause e (← isDirectoryAt p.toDisplay), p⟩

instance : FileStore IO where
  isPresent name := do
    let path := (← IO.currentDir) / name.toDisplay
    return !name.isEmpty && (← path.pathExists)
  isDirectory p := isDirectoryAt p.toDisplay
  read p := attempt p do
    let bytes ← IO.FS.readBinFile p.toDisplay
    return bytes.toList
  makeDirectory p := attempt p (IO.FS.createDir p.toDisplay)
  write p content := attempt p (IO.FS.writeBinFile p.toDisplay ⟨content.toArray⟩)
  fullName p := do
    let path ← IO.FS.realPath p.toDisplay
    return Text.ofString path.toString

end FileSystem

/-- Prints what a command says, and what stopped it if it came to no verdict. -/
def CommandLine.Outcome.print (o : CommandLine.Outcome) : IO Unit := do
  let output ← IO.getStdout
  let errors ← IO.getStderr
  errors.putStr (o.errorText (← errors.isTty)).toDisplay
  output.putStr (o.outputText (← output.isTty)).toDisplay
  match o.failure with
  | some failure => errors.putStrLn failure.message.toDisplay
  | none => return

end Hyperscript

def main (args : List String) : IO UInt32 := do
  let outcome ← Hyperscript.CommandLine.run (args.map Hyperscript.Text.ofString)
  outcome.print
  return outcome.exitCode.toUInt32
