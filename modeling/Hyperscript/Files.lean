import Hyperscript.FileStore
import Hyperscript.Text.Utf8

/-!
# Files

A file system that is a value: a tree of directories, and the location in it where relative paths
start, the home. A path is followed step by step, and the directories on the way are kept, so that a
step back leads to where the way came from.
-/
namespace Hyperscript

/-- A location is the list of names from the root to it. -/
abbrev Location := List Text

inductive FileEntry where
  | file (content : List UInt8)
  | directory (entries : List (Text × FileEntry))
  /-- Reads as empty, and whatever is written to it is gone. -/
  | sink

namespace FileEntry

def isDirectory : FileEntry → Bool
  | .directory _ => true
  | _ => false

/-- What a directory holds. -/
def entries : FileEntry → List (Text × FileEntry)
  | .directory entries => entries
  | _ => []

def entry? (tree : FileEntry) (name : Text) : Option FileEntry :=
  (tree.entries.find? (·.1 = name)).map (·.2)

/-- Puts an entry at a location, with the directories above it. -/
def put (entry : FileEntry) : Location → FileEntry → FileEntry
  | [], _ => entry
  | name :: rest, tree =>
    let below := (tree.entry? name).getD (.directory [])
    .directory ((name, entry.put rest below) :: tree.entries.filter (·.1 ≠ name))

end FileEntry

/-- Where a path leads to. There need not be anything. -/
structure Spot where
  /-- The names on the way, each with the directory in which it was looked up, the last one first. -/
  trail : List (Text × FileEntry) := []
  entry : Option FileEntry

namespace Spot

/-- The most bytes that a name may have. -/
def nameLimit : Nat := 255

def location (s : Spot) : Location := (s.trail.map (·.1)).reverse

/-- Goes on by one piece of a path, which has to be looked up in a directory. Above the root there
is the root itself. -/
def step (s : Spot) (piece : Text) : Except FileCause Spot :=
  match s.entry with
  | none => .error .missing
  | some here =>
    if !here.isDirectory then .error .notDirectory
    else if nameLimit < (Utf8.encode piece).length then .error .nameTooLong
    else if piece.isEmpty || piece = "." then .ok s
    else if piece = ".." then
      match s.trail with
      | [] => .ok s
      | (_, above) :: trail => .ok { trail, entry := some above }
    else .ok { trail := (piece, here) :: s.trail, entry := here.entry? piece }

def follow (s : Spot) (pieces : List Text) : Except FileCause Spot := pieces.foldlM step s

end Spot

structure Files where
  home : Location
  /-- How the full name of the home is written. -/
  homeName : Text
  root : FileEntry := .directory []

namespace Files

/-- The least number of bytes that is too much for a path. -/
def pathLimit : Nat := 4096

def put (files : Files) (location : Location) (entry : FileEntry) : Files :=
  { files with root := entry.put location files.root }

/-- Nothing but the home. -/
def empty (home : Location) (homeName : Text) : Files :=
  put { home, homeName } home (.directory [])

/-- Where a name leads, as it is spelled. -/
def resolve (files : Files) (name : Text) : Except FileCause Spot :=
  let top : Spot := { entry := some files.root }
  if name.contains 0 then .error .nullByte
  else if pathLimit ≤ (Utf8.encode name).length then .error .nameTooLong
  else if name.isEmpty then .error .missing
  else if name.head? = some (CodePoint.ofChar '/') then top.follow (Path.pieces name)
  else top.follow (files.home ++ Path.pieces name)

def locate (files : Files) (p : Path) : Except FileError Spot :=
  (files.resolve p.toText).mapError (⟨·, p⟩)

def isPresent (files : Files) (name : Text) : Bool :=
  match files.resolve name with
  | .ok spot => spot.entry.isSome
  | .error _ => false

def isDirectory (files : Files) (p : Path) : Bool :=
  match files.locate p with
  | .ok spot => spot.entry.any FileEntry.isDirectory
  | .error _ => false

def read (files : Files) (p : Path) : Except FileError (List UInt8) := do
  let spot ← files.locate p
  match spot.entry with
  | some (.file content) => return content
  | some .sink => return []
  | some (.directory _) => throw ⟨.isDirectory, p⟩
  | none => throw ⟨.missing, p⟩

def makeDirectory (files : Files) (p : Path) : Except FileError Files := do
  let spot ← files.locate p
  if spot.entry.isSome then throw ⟨.occupied, p⟩
  else return files.put spot.location (.directory [])

def write (files : Files) (p : Path) (content : List UInt8) : Except FileError Files := do
  let spot ← files.locate p
  match spot.entry with
  | some (.directory _) => throw ⟨.isDirectory, p⟩
  | some .sink => return files
  | _ => return files.put spot.location (.file content)

/-- The name of a location from the root, with the home under its own name. -/
def nameOf (files : Files) (location : Location) : Text :=
  if files.home <+: location then
    Text.join "/" (files.homeName :: location.drop files.home.length)
  else "/" ++ Text.join "/" location

def fullName (files : Files) (p : Path) : Text :=
  match files.locate p with
  | .ok spot => files.nameOf spot.location
  | .error _ => p.toText

/-- Changes the files if the operation succeeds. -/
def updating (f : Files → Except FileError Files) : StateM Files (Except FileError Unit) :=
  fun files =>
    match f files with
    | .ok after => (.ok (), after)
    | .error e => (.error e, files)

instance : FileStore (StateM Files) where
  isPresent name := return (← get).isPresent name
  isDirectory p := return (← get).isDirectory p
  read p := return (← get).read p
  makeDirectory p := updating (·.makeDirectory p)
  write p content := updating (·.write p content)
  fullName p := return (← get).fullName p

end Files

end Hyperscript
