import Hyperscript.Text

/-!
# Path names

A path name is a root and a list of parts. Reading one drops empty parts and single dots, and keeps
double dots as they are.
-/
namespace Hyperscript

structure Path where
  /-- Empty for a relative path; one slash, or exactly two, for an absolute one. -/
  root : Text
  parts : List Text
  deriving DecidableEq, Repr

namespace Path

/-- The pieces between slashes. -/
def pieces : Text → List Text
  | [] => [[]]
  | c :: rest =>
    match pieces rest with
    | [] => [[c]]
    | piece :: others => if c = '/' then [] :: piece :: others else (c :: piece) :: others

def ofText (t : Text) : Path :=
  let slashes := (t.takeWhile fun c : CodePoint => c = '/').length
  let root : Text := if slashes = 0 then "" else if slashes = 2 then "//" else "/"
  ⟨root, (pieces t).filter fun piece => !piece.isEmpty && piece != Text.ofString "."⟩

/-- The last part, or nothing for a path without parts. -/
def name (p : Path) : Text := p.parts.getLast?.getD []

def parent (p : Path) : Path := { p with parts := p.parts.dropLast }

def toText (p : Path) : Text :=
  if p.root.isEmpty && p.parts.isEmpty then "." else p.root ++ Text.join "/" p.parts

end Path

end Hyperscript
