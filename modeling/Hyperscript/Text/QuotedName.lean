import Hyperscript.Text
import Hyperscript.Text.UnprintableRanges

/-!
# Quoted names

A message shows a name between quotes, with every code point visible: what would not be shown is
written as a number.
-/
namespace Hyperscript

def CodePoint.isPrintable (c : CodePoint) : Bool := !c.within Text.unprintable

namespace Text

/-- A code point by its number, in two, four or eight digits. -/
def numericEscape (c : CodePoint) : Text :=
  if c < 0x100 then "\\x" ++ ofNatHex 2 c.val
  else if c < 0x10000 then "\\u" ++ ofNatHex 4 c.val
  else "\\U" ++ ofNatHex 8 c.val

/-- A code point as it stands in a name between the given quotes. -/
def visible (mark c : CodePoint) : Text :=
  if c = '\\' || c = mark then ['\\', c]
  else if c = '\n' then "\\n"
  else if c = '\r' then "\\r"
  else if c = '\t' then "\\t"
  else if c.isPrintable then [c]
  else numericEscape c

/-- A name in single quotes, or in double ones if it has a single quote and no double one. -/
def quotedName (name : Text) : Text :=
  let single : CodePoint := '\''
  let double : CodePoint := '"'
  let mark := if name.contains single && !name.contains double then double else single
  mark :: name.flatMap (visible mark) ++ [mark]

end Text

end Hyperscript
