import Hyperscript.Tree.Kind

/-!
# Children

What stands between the tags of an element becomes a list of arguments. Text is cleaned: white space
next to a line break goes, and the lines that are left are joined by single spaces.
-/
namespace Hyperscript.Lowering.Child

/-- The lines of a text. A line ends at a line feed, a carriage return, or one after the other. -/
def lines : Text → List Text
  | [] => [[]]
  | c :: rest =>
    if c = '\r' && rest.head? == some (CodePoint.ofChar '\n') then lines rest
    else if c = '\r' || c = '\n' then [] :: lines rest
    else
      match lines rest with
      | [] => [[c]]
      | line :: others => (c :: line) :: others

def isSpace (c : CodePoint) : Bool := c = ' '

/-- Neither a space nor a tab. -/
def isInk (c : CodePoint) : Bool := c ≠ ' ' && c ≠ '\t'

/-- The number of the last line with anything but spaces and tabs on it, and zero if there is
none. -/
def lastInked (ls : List Text) : Nat :=
  ls.zipIdx.foldl (fun last entry => if entry.1.any isInk then entry.2 else last) 0

/-- Tabs become spaces, and spaces go from each end that touches a line break. -/
def trim (isFirst isLast : Bool) (line : Text) : Text :=
  let spaced := line.map fun c : CodePoint => if c = '\t' then CodePoint.ofChar ' ' else c
  let left := if isFirst then spaced else spaced.dropWhile isSpace
  if isLast then left else Text.dropRightWhile isSpace left

/-- A text as it is rendered, or nothing if nothing is left of it. -/
def clean (t : Text) : Option Text :=
  let ls := lines t
  let last := lastInked ls
  let kept := ls.zipIdx.map fun entry =>
    let trimmed := trim (entry.2 = 0) (entry.2 + 1 = ls.length) entry.1
    if trimmed.isEmpty || entry.2 = last then trimmed else trimmed ++ " "
  match kept.flatten with
  | [] => none
  | text => some text

def isEmptyExpression (n : Node) : Bool :=
  match n.form with
  | .jsxEmptyExpression => true
  | _ => false

/-- The argument that a child stands for, if any. -/
def argument? (n : Node) : Option Node :=
  match n.form with
  | .jsxText value _ => (clean value).map fun text => ⟨n.place, .string text none⟩
  | .jsxExpressionContainer expression =>
    if isEmptyExpression expression then none else some expression
  | _ => if isEmptyExpression n then none else some n

/-- The arguments that children stand for, in their order. -/
def arguments (children : List Node) : List Node := children.filterMap argument?

end Hyperscript.Lowering.Child
