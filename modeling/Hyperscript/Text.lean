/-!
# Text

A text is a list of Unicode code points. Surrogates are code points like any other, because an
escape in a source file can name one half of a pair on its own.
-/
namespace Hyperscript

/-- There are code points, so numbers can be written as code points. -/
instance instNeZeroCodePoints : @NeZero Nat Zero.ofOfNat0 0x110000 := ⟨Nat.succ_ne_zero _⟩

abbrev CodePoint := Fin 0x110000

abbrev Text := List CodePoint

namespace CodePoint

def ofChar (c : Char) : CodePoint :=
  ⟨c.toNat, by rcases c.valid with h | h <;> simp only [Char.toNat] <;> omega⟩

instance : Coe Char CodePoint := ⟨ofChar⟩

def isSurrogate (c : CodePoint) : Bool := 0xd800 ≤ c && c ≤ 0xdfff

/-- The character with this number, unless the number is a surrogate. -/
def toChar? (c : CodePoint) : Option Char :=
  if h : c.val.isValidChar then some (Char.ofNatAux c.val h) else none

def isDigit (c : CodePoint) : Bool := '0' ≤ c && c ≤ '9'

def isLower (c : CodePoint) : Bool := 'a' ≤ c && c ≤ 'z'

def isUpper (c : CodePoint) : Bool := 'A' ≤ c && c ≤ 'Z'

def isLetter (c : CodePoint) : Bool := c.isLower || c.isUpper

def isHexDigit (c : CodePoint) : Bool :=
  c.isDigit || ('a' ≤ c && c ≤ 'f') || ('A' ≤ c && c ≤ 'F')

/-- The value of a hexadecimal digit; anything else counts as zero. -/
def hexValue (c : CodePoint) : Nat :=
  if c.isDigit then c.val - 0x30
  else if c.isLower then c.val - 0x57
  else if c.isUpper then c.val - 0x37
  else 0

/-- Capital letters of the basic alphabet become small ones. -/
def lower (c : CodePoint) : CodePoint := if c.isUpper then c + 0x20 else c

/-- White space in the wide sense: every code point with the Unicode property, and the four
separators 1c to 1f. -/
def isBlank (c : CodePoint) : Bool :=
  (0x09 ≤ c && c ≤ 0x0d) || (0x1c ≤ c && c ≤ 0x20) || c = 0x85 || c = 0xa0 || c = 0x1680 ||
    (0x2000 ≤ c && c ≤ 0x200a) || c = 0x2028 || c = 0x2029 || c = 0x202f || c = 0x205f ||
    c = 0x3000

/-- The code point lies in one of the closed ranges. -/
def within (c : CodePoint) (ranges : List (Nat × Nat)) : Bool :=
  ranges.any fun (low, high) => low ≤ c.val && c.val ≤ high

end CodePoint

namespace Text

def ofString (s : String) : Text := s.toList.map CodePoint.ofChar

instance : Coe String Text := ⟨ofString⟩

/-- The string with the same code points, when none of them is a surrogate. -/
def toString? (t : Text) : Option String := (t.mapM CodePoint.toChar?).map String.ofList

def ofNat (n : Nat) : Text := (Nat.toDigits 10 n).map CodePoint.ofChar

def ofInt : Int → Text
  | .ofNat n => ofNat n
  | .negSucc n => "-" ++ ofNat (n + 1)

/-- The number in hexadecimal, with zeros in front up to a width. -/
def ofNatHex (width n : Nat) : Text :=
  let digits := (Nat.toDigits 16 n).map CodePoint.ofChar
  List.replicate (width - digits.length) (CodePoint.ofChar '0') ++ digits

/-- The number written in hexadecimal. -/
def hexNumber (t : Text) : Nat := t.foldl (fun n c => 16 * n + c.hexValue) 0

/-- The number written in decimal. -/
def decimalNumber (t : Text) : Nat := t.foldl (fun n c => 10 * n + c.hexValue) 0

def join (separator : Text) (parts : List Text) : Text := separator.intercalate parts

def dropRightWhile (p : CodePoint → Bool) (t : Text) : Text := (t.reverse.dropWhile p).reverse

/-- The text without its first and last code points. -/
def inner (t : Text) : Text := (t.drop 1).dropLast

def lower (t : Text) : Text := t.map CodePoint.lower

end Text

end Hyperscript
