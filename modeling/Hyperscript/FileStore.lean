import Hyperscript.Path
import Hyperscript.Text.QuotedName

/-!
# File stores

What a command asks of a file system, and why an operation on a file can fail.
-/
namespace Hyperscript

inductive FileCause where
  | missing | occupied | notDirectory | isDirectory | nameTooLong
  /-- The name has a null code point, so no file can have it. -/
  | nullByte
  deriving DecidableEq, Repr

namespace FileCause

/-- The number by which the system knows the cause, unless the name does not even reach it. -/
def number? : FileCause → Option Nat
  | .missing => some 2
  | .occupied => some 17
  | .notDirectory => some 20
  | .isDirectory => some 21
  | .nameTooLong => some 36
  | .nullByte => none

def text : FileCause → Text
  | .missing => "No such file or directory"
  | .occupied => "File exists"
  | .notDirectory => "Not a directory"
  | .isDirectory => "Is a directory"
  | .nameTooLong => "File name too long"
  | .nullByte => "embedded null byte"

end FileCause

/-- An operation failed on a path. -/
structure FileError where
  cause : FileCause
  path : Path
  deriving DecidableEq, Repr

def FileError.message (e : FileError) : Text :=
  match e.cause.number? with
  | none => e.cause.text
  | some number =>
    "[Errno " ++ Text.ofNat number ++ "] " ++ e.cause.text ++ ": " ++ e.path.toText.quotedName

/-- The operations on files that a command needs. -/
class FileStore (m : Type → Type) where
  /-- A name, as it is spelled, leads to a file or a directory. -/
  isPresent : Text → m Bool
  isDirectory : Path → m Bool
  read : Path → m (Except FileError (List UInt8))
  makeDirectory : Path → m (Except FileError Unit)
  write : Path → List UInt8 → m (Except FileError Unit)
  /-- The full name of an existing file. -/
  fullName : Path → m Text

namespace FileStore

variable {m : Type → Type} [Monad m] [FileStore m]

/-- Makes a directory whose parent exists. One that exists already will do. -/
def ensureDirectory (p : Path) (result : Except FileError Unit) : m (Except FileError Unit) := do
  match result with
  | .ok () => return .ok ()
  | .error e => if ← isDirectory p then return .ok () else return .error e

/-- Makes a directory and the directories above it that are missing, at most as many as the number
says. -/
def makeDirectories : Nat → Path → m (Except FileError Unit)
  | 0, p => do ensureDirectory p (← makeDirectory p)
  | depth + 1, p => do
    match ← makeDirectory p with
    | .error ⟨.missing, path⟩ =>
      if p.parent = p then return .error ⟨.missing, path⟩
      else
        match ← makeDirectories depth p.parent with
        | .error e => return .error e
        | .ok () => ensureDirectory p (← makeDirectory p)
    | result => ensureDirectory p result

end FileStore

end Hyperscript
