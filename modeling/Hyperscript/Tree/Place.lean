import Hyperscript.Path

/-!
# Places

Where a node stands in its source, and how that is written in messages.
-/
namespace Hyperscript

/-- A line and a column, counted from one, in a file; line zero means nowhere. -/
structure Place where
  line : Int := 0
  column : Int := 0
  file : Option Text := none
  deriving DecidableEq, Repr

namespace Place

def nowhere : Place := ⟨0, 0, none⟩

/-- The file, unless its name is empty. -/
def file? (p : Place) : Option Text := p.file.filter (!·.isEmpty)

/-- `file:line:column` without what is not known; of the file only the last part of its path. -/
def toText (p : Place) : Text :=
  let file := (p.file?.map fun name => (Path.ofText name).name).toList
  let line := if 0 < p.line then [Text.ofInt p.line] else []
  let column := if 0 < p.line ∧ 0 < p.column then [Text.ofInt p.column] else []
  match file ++ line ++ column with
  | [] => "unknown"
  | parts => Text.join ":" parts

/-- `line:column`, whether known or not. -/
def lineColumn (p : Place) : Text := Text.ofInt p.line ++ ":" ++ Text.ofInt p.column

end Place

end Hyperscript
