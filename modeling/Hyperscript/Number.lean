import Hyperscript.Number.Shortest
import Hyperscript.Text.Digit
import Hyperscript.Text.Quoted
import Hyperscript.Text.Reference

/-!
# Numeric literals

A literal with a point or an exponent denotes a double precision number, any other an exact
integer. Digits of every script count.
-/
namespace Hyperscript

inductive Number where
  | integer (n : Int)
  | double (x : Binary64)
  deriving DecidableEq, Repr

namespace Number

def digitsValue (t : Text) : Nat := t.foldl (fun n c => 10 * n + c.digitValue?.getD 0) 0

/-- The exponent written after its mark, with an optional sign. -/
def exponentValue : Text → Int
  | [] => 0
  | c :: rest =>
    if c = '-' then -(digitsValue rest : Int)
    else if c = '+' then digitsValue rest
    else digitsValue (c :: rest)

def isExponentMark (c : CodePoint) : Bool := c = 'e' || c = 'E'

/-- The double precision number written with a point or an exponent, or both. -/
def readDouble (negative : Bool) (t : Text) : Binary64 :=
  let whole := t.takeWhile CodePoint.isDecimal
  let rest := t.drop whole.length
  let fraction :=
    if rest.head? = some (CodePoint.ofChar '.') then rest.tail.takeWhile CodePoint.isDecimal
    else []
  let exponent := exponentValue ((t.dropWhile fun c => !isExponentMark c).drop 1)
  .ofDecimal negative (digitsValue (whole ++ fraction)) (exponent - fraction.length)

/-- The value of a numeric literal. -/
def read (t : Text) : Except LiteralError Number :=
  if Text.ofString "0x" <+: t || Text.ofString "0X" <+: t then
    .ok (.integer (Text.hexNumber (t.drop 2)))
  else if t.any fun c => c = '.' || isExponentMark c then .ok (.double (readDouble false t))
  else if Text.digitLimit < t.length then .error (.digits t.length)
  else .ok (.integer (digitsValue t))

/-- Reads a number that may have a sign and need not be finite. White space around it and
underscores between its digits do not count. -/
def readSigned (t : Text) : Binary64 :=
  let trimmed := Text.dropRightWhile CodePoint.isBlank (t.dropWhile CodePoint.isBlank)
  let spelled := trimmed.filter fun c : CodePoint => c ≠ '_'
  let negative := spelled.head? = some (CodePoint.ofChar '-')
  let signed := negative || spelled.head? = some (CodePoint.ofChar '+')
  let unsigned := if signed then spelled.tail else spelled
  let word := Text.lower unsigned
  if word = "inf" || word = "infinity" then .infinite negative
  else if word = "nan" then .notNumber
  else readDouble negative unsigned

def toText : Number → Text
  | .integer n => Text.ofInt n
  | .double x => x.toText

end Number

end Hyperscript
