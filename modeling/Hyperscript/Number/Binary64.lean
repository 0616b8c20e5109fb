/-!
# Double precision numbers

A finite number is a mantissa below 2^53 times a power of two, kept as exact integers. `ofRatio`
rounds a quotient to the nearest such number, and a tie goes to the even mantissa.
-/
namespace Hyperscript

/-- Finite numbers have a mantissa of 53 bits, or the least exponent, -1074. -/
inductive Binary64 where
  | finite (negative : Bool) (mantissa : Nat) (exponent : Int)
  | infinite (negative : Bool)
  | notNumber
  deriving DecidableEq, Repr

namespace Binary64

/-- The quotient rounded to the nearest natural number, a tie to the even one. -/
def roundDiv (num den : Nat) : Nat :=
  let quotient := num / den
  let twice := 2 * (num % den)
  if twice < den then quotient
  else if den < twice then quotient + 1
  else quotient + quotient % 2

/-- `num / den` divided by `2 ^ exponent` and rounded. -/
def roundAt (num den : Nat) (exponent : Int) : Nat :=
  match exponent with
  | .ofNat k => roundDiv num (den * Nat.pow 2 k)
  | .negSucc k => roundDiv (num * Nat.pow 2 (k + 1)) den

/-- The exponent at which `num / den` has a mantissa of 53 bits, but at least -1074. -/
def exponentOf (num den : Nat) : Int :=
  let guess : Int := (num.log2 : Int) - (den.log2 : Int) - 53
  let fits : Bool :=
    match guess with
    | .ofNat k => num < den * Nat.pow 2 k * Nat.pow 2 53
    | .negSucc k => num * Nat.pow 2 (k + 1) < den * Nat.pow 2 53
  max (if fits then guess else guess + 1) (-1074)

def ofRatio (negative : Bool) (num den : Nat) : Binary64 :=
  if num = 0 then .finite negative 0 (-1074)
  else
    let exponent := exponentOf num den
    let mantissa := roundAt num den exponent
    let (mantissa, exponent) :=
      if mantissa = Nat.pow 2 53 then (Nat.pow 2 52, exponent + 1) else (mantissa, exponent)
    if exponent ≤ 971 then .finite negative mantissa exponent else .infinite negative

/-- The number nearest to `digits * 10 ^ exponent`. Outside the range of the format the power of
ten is not even formed. -/
def ofDecimal (negative : Bool) (digits : Nat) (exponent : Int) : Binary64 :=
  let magnitude : Int := (Nat.toDigits 10 digits).length + exponent
  if digits = 0 || magnitude < -400 then .finite negative 0 (-1074)
  else if 400 < magnitude then .infinite negative
  else
    match exponent with
    | .ofNat k => ofRatio negative (digits * Nat.pow 10 k) 1
    | .negSucc k => ofRatio negative digits (Nat.pow 10 (k + 1))

/-- The word that stands for the number in memory. -/
def toBits : Binary64 → Nat
  | .finite negative mantissa exponent =>
    (if negative then Nat.pow 2 63 else 0) +
      (if mantissa < Nat.pow 2 52 then mantissa
        else (exponent + 1075).toNat * Nat.pow 2 52 + (mantissa - Nat.pow 2 52))
  | .infinite negative => (if negative then Nat.pow 2 63 else 0) + 0x7ff * Nat.pow 2 52
  | .notNumber => 0x7ff8 * Nat.pow 2 48

end Binary64

end Hyperscript
