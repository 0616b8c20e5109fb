import Hyperscript.Number.Binary64
import Hyperscript.Text

/-!
# Shortest decimals

The decimal of a double precision number has the fewest digits that read back as the same number,
and of those the nearest one. It is positional for exponents from -4 to 15.
-/
namespace Hyperscript.Binary64

/-- A ratio of natural numbers; the second is positive. -/
abbrev Ratio := Nat × Nat

def Ratio.le (a b : Ratio) : Bool := a.1 * b.2 ≤ b.1 * a.2

def Ratio.lt (a b : Ratio) : Bool := a.1 * b.2 < b.1 * a.2

/-- `n * base ^ exponent` for a positive base. -/
def scaled (n base : Nat) : Int → Ratio
  | .ofNat k => (n * Nat.pow base k, 1)
  | .negSucc k => (n, Nat.pow base (k + 1))

/-- The numbers that round to the mantissa: half a step to either side, where the step below a power
of two is half as wide. Everything is counted in quarters of a step. -/
def interval (mantissa : Nat) (exponent : Int) : Ratio × Ratio :=
  let below := if mantissa = Nat.pow 2 52 && -1074 < exponent then 1 else 2
  (scaled (4 * mantissa - below) 2 (exponent - 2), scaled (4 * mantissa + 2) 2 (exponent - 2))

def inInterval (mantissa : Nat) (exponent : Int) (candidate : Ratio) : Bool :=
  let (low, high) := interval mantissa exponent
  if mantissa % 2 = 0 then low.le candidate && candidate.le high
  else low.lt candidate && candidate.lt high

/-- The greatest `p` with `10 ^ p ≤ value`, found from `p` upwards. -/
def decimalExponent (value : Ratio) : Nat → Int → Int
  | 0, p => p
  | fuel + 1, p => if (scaled 1 10 (p + 1)).le value then decimalExponent value fuel (p + 1) else p

/-- The multiple of `10 ^ unit` in the interval that is nearest to the value, an exact tie going to
the even one. -/
def nearestMultiple (mantissa : Nat) (exponent unit : Int) : Option Nat :=
  let value := scaled mantissa 2 exponent
  let step := scaled 1 10 unit
  let num := value.1 * step.2
  let den := value.2 * step.1
  let low := num / den
  let rest := 2 * (num % den)
  let lowFits := low ≠ 0 && inInterval mantissa exponent (scaled low 10 unit)
  let highFits := inInterval mantissa exponent (scaled (low + 1) 10 unit)
  if lowFits && highFits then
    if rest < den || (rest = den && low % 2 = 0) then some low else some (low + 1)
  else if lowFits then some low
  else if highFits then some (low + 1)
  else none

/-- Digits and the exponent of their last place, with at least the given number of digits. -/
def shortestFrom (mantissa : Nat) (exponent top : Int) : Nat → Nat → Nat × Int
  | 0, _ => (mantissa, exponent)
  | fuel + 1, count =>
    match nearestMultiple mantissa exponent (top - count + 1) with
    | some digits => (digits, top - count + 1)
    | none => shortestFrom mantissa exponent top fuel (count + 1)

/-- Drops zeros at the end of the digits. -/
def trimZeros : Nat → Nat × Int → Nat × Int
  | 0, decimal => decimal
  | fuel + 1, (digits, exponent) =>
    if digits % 10 = 0 && digits ≠ 0 then trimZeros fuel (digits / 10, exponent + 1)
    else (digits, exponent)

/-- The fewest digits that read back, and the exponent of their last place. -/
def shortest (mantissa : Nat) (exponent : Int) : Nat × Int :=
  if mantissa = 0 then (0, 0)
  else
    let top := decimalExponent (scaled mantissa 2 exponent) 700 (-330)
    trimZeros 20 (shortestFrom mantissa exponent top 17 1)

/-- Exponents of the leading digit that are written positionally. -/
def positional (top : Int) : Bool := -4 ≤ top && top < 16

/-- An exponent has a sign and at least two digits. -/
def exponentText (n : Int) : Text :=
  let digits := Text.ofNat n.natAbs
  (if n < 0 then "-" else "+") ++ (if digits.length < 2 then "0" ++ digits else digits)

def zeros (n : Nat) : Text := List.replicate n (CodePoint.ofChar '0')

def decimalText (digits : Nat) (exponent : Int) : Text :=
  let written := Text.ofNat digits
  let top : Int := exponent + written.length - 1
  if positional top then
    if 0 ≤ exponent then written ++ zeros exponent.toNat ++ ".0"
    else if 0 ≤ top then
      let whole := (top + 1).toNat
      written.take whole ++ "." ++ written.drop whole
    else "0." ++ zeros (-top - 1).toNat ++ written
  else
    let fraction : Text := if written.length = 1 then [] else "." ++ written.drop 1
    written.take 1 ++ fraction ++ "e" ++ exponentText top

def toText : Binary64 → Text
  | .finite negative mantissa exponent =>
    let (digits, last) := shortest mantissa exponent
    (if negative then "-" else "") ++ decimalText digits last
  | .infinite negative => if negative then "-inf" else "inf"
  | .notNumber => "nan"

end Hyperscript.Binary64
