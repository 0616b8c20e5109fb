import Hyperscript.Text.Quoted
import Hyperscript.Text.ReferenceNames

/-!
# Character references

`decodeReferences` replaces every reference that ends in a semicolon by the text it denotes, from
left to right and once: what a reference denotes is not read again.
-/
namespace Hyperscript.Text

/-- Where numbers from 80 to 9f lead when a page means the older eight-bit set. -/
def eightBitSet : List CodePoint :=
  [0x20ac, 0x81, 0x201a, 0x192, 0x201e, 0x2026, 0x2020, 0x2021, 0x2c6, 0x2030, 0x160, 0x2039,
   0x152, 0x8d, 0x17d, 0x8f, 0x90, 0x2018, 0x2019, 0x201c, 0x201d, 0x2022, 0x2013, 0x2014, 0x2dc,
   0x2122, 0x161, 0x203a, 0x153, 0x9d, 0x17e, 0x178]

/-- Control codes and the code points that are no characters. -/
def denotesNothing (n : Nat) : Bool :=
  (0x1 ≤ n && n ≤ 0x8) || n == 0xb || (0xe ≤ n && n ≤ 0x1f) || n == 0x7f ||
    (0xfdd0 ≤ n && n ≤ 0xfdef) || 0xfffe ≤ n % 0x10000

def numericReference (n : Nat) : Text :=
  if h : n < 0x110000 then
    if n = 0 || (0xd800 ≤ n && n ≤ 0xdfff) then [0xfffd]
    else if 0x80 ≤ n && n ≤ 0x9f then (eightBitSet[n - 0x80]?).toList
    else if denotesNothing n then []
    else [⟨n, h⟩]
  else [0xfffd]

def lookupName (name : Text) : Option Text :=
  (referenceNames.find? fun entry => ofString entry.1 = name).map fun entry => ofString entry.2

/-- The longest opening of `name`, of at most `length` code points and at least two, that is a name
legal without a semicolon. -/
def longestOpenName (name : Text) : Nat → Option (Text × Nat)
  | 0 => none
  | 1 => none
  | length + 2 =>
    let opening := name.take (length + 2)
    if openReferenceNames.any (ofString · = opening) then
      (lookupName opening).map fun value => (value, length + 2)
    else longestOpenName name (length + 1)

/-- What `&name;` stands for. An unknown name denotes itself, unless it opens with one that needs
no semicolon. -/
def namedReference (name : Text) : Text :=
  match lookupName name with
  | some value => value
  | none =>
    match longestOpenName name name.length with
    | some (value, length) => value ++ name.drop length ++ ";"
    | none => "&" ++ name ++ ";"

/-- Decimal numbers of more digits are refused. -/
def digitLimit : Nat := 4300

/-- What the reference after an ampersand denotes, and its length up to the semicolon. -/
def referenceAt (t : Text) : Option (Except LiteralError Text × Nat) :=
  let closes (width : Nat) : Bool := t[width]? == some (CodePoint.ofChar ';')
  if t.head? = some (CodePoint.ofChar '#') then
    let marker := t.tail.head?
    if marker = some (CodePoint.ofChar 'x') || marker = some (CodePoint.ofChar 'X') then
      let digits := (t.drop 2).takeWhile CodePoint.isHexDigit
      if !digits.isEmpty && closes (digits.length + 2) then
        some (.ok (numericReference (hexNumber digits)), digits.length + 3)
      else none
    else
      let digits := t.tail.takeWhile CodePoint.isDigit
      if !digits.isEmpty && closes (digits.length + 1) then
        if digitLimit < digits.length then
          some (.error (.digits digits.length), digits.length + 2)
        else some (.ok (numericReference (decimalNumber digits)), digits.length + 2)
      else none
  else
    let name := t.takeWhile fun c => c.isLetter || c.isDigit
    if (name.head?.any CodePoint.isLetter) && closes name.length then
      some (.ok (namedReference name), name.length + 1)
    else none

/-- Reads on after skipping the given number of code points. -/
def decodeReferencesFrom : Nat → Text → Except LiteralError Text
  | _, [] => .ok []
  | skip + 1, _ :: rest => decodeReferencesFrom skip rest
  | 0, c :: rest =>
    match (if c = '&' then referenceAt rest else none) with
    | none => (decodeReferencesFrom 0 rest).map (c :: ·)
    | some (found, width) => do
      let head ← found
      let tail ← decodeReferencesFrom width rest
      return head ++ tail

def decodeReferences (t : Text) : Except LiteralError Text := decodeReferencesFrom 0 t

end Hyperscript.Text
