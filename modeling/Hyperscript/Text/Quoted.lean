import Hyperscript.Text

/-!
# Quoted text

`quote` writes a text between double quotes, and `unescape` reads what stands between quotes. The
writer escapes only the quote, the backslash and the control codes below 20; the reader knows
more escapes than the writer uses.
-/
namespace Hyperscript

/-- Why the spelling of a literal has no value. -/
inductive LiteralError where
  /-- A code point past the last one. -/
  | codePointRange
  /-- A code point that does not even fit a machine word. -/
  | codePointSize
  /-- A decimal number with too many digits. -/
  | digits (count : Nat)
  deriving DecidableEq, Repr

def LiteralError.message : LiteralError → Text
  | .codePointRange => "chr() arg not in range(0x110000)"
  | .codePointSize => "Python int too large to convert to C int"
  | .digits count =>
    "Exceeds the limit (4300 digits) for integer string conversion: value has " ++
      Text.ofNat count ++ " digits; use sys.set_int_max_str_digits() to increase the limit"

def CodePoint.ofNat (n : Nat) : Except LiteralError CodePoint :=
  if h : n < 0x110000 then .ok ⟨n, h⟩
  else if n < 0x80000000 then .error .codePointRange
  else .error .codePointSize

namespace Text

def hexDigit (n : Nat) : CodePoint :=
  if n % 16 < 10 then CodePoint.ofChar '0' + Fin.ofNat _ (n % 16)
  else CodePoint.ofChar 'a' + Fin.ofNat _ (n % 16 - 10)

/-- One code point as it stands between double quotes. -/
def escape (c : CodePoint) : Text :=
  if c = '"' then "\\\""
  else if c = '\\' then "\\\\"
  else if c = '\n' then "\\n"
  else if c = '\r' then "\\r"
  else if c = '\t' then "\\t"
  else if c = 0x08 then "\\b"
  else if c = 0x0c then "\\f"
  else if c < 0x20 then "\\u00" ++ [hexDigit (c.val / 16), hexDigit c.val]
  else [c]

def quote (t : Text) : Text := "\"" ++ t.flatMap escape ++ "\""

/-- What an escape stands for, apart from the backslash. -/
inductive Escape where
  | number (n : Nat)
  | nothing
  | literal (c : CodePoint)
  deriving DecidableEq, Repr

def Escape.value : Escape → Except LiteralError Text
  | .number n => (CodePoint.ofNat n).map ([·])
  | .nothing => .ok []
  | .literal c => .ok [c]

/-- The letters with a meaning of their own after a backslash. -/
def simpleEscape (c : CodePoint) : CodePoint :=
  if c = 'n' then 0x0a
  else if c = 't' then 0x09
  else if c = 'r' then 0x0d
  else if c = 'b' then 0x08
  else if c = 'f' then 0x0c
  else if c = 'v' then 0x0b
  else if c = '0' then 0x00
  else c

/-- The hexadecimal number of exactly `count` digits at the start. -/
def hexOfLength (count : Nat) (t : Text) : Option Nat :=
  let digits := t.take count
  if digits.length = count && digits.all CodePoint.isHexDigit then some (hexNumber digits) else none

/-- The hexadecimal number at the start that a closing brace ends, with its digit count. -/
def hexInBraces (t : Text) : Option (Nat × Nat) :=
  let digits := t.takeWhile CodePoint.isHexDigit
  if !digits.isEmpty && t[digits.length]? == some (CodePoint.ofChar '\x7d') then
    some (hexNumber digits, digits.length)
  else none

/-- The escape that starts after a backslash, and how many code points it takes. -/
def escapeAt : Text → Option (Escape × Nat)
  | [] => none
  | c :: rest =>
    let plain : Option (Escape × Nat) :=
      if c = '\n' || c = '\r' then some (.nothing, 1) else some (.literal (simpleEscape c), 1)
    if c = 'u' then
      let opens := rest.head? = some (CodePoint.ofChar '\x7b')
      match if opens then hexInBraces rest.tail else none with
      | some (n, width) => some (.number n, width + 3)
      | none =>
        match hexOfLength 4 rest with
        | some n => some (.number n, 5)
        | none => plain
    else if c = 'x' then
      match hexOfLength 2 rest with
      | some n => some (.number n, 3)
      | none => plain
    else if c = '\r' && rest.head? = some (CodePoint.ofChar '\n') then some (.nothing, 2)
    else plain

/-- Reads on after skipping the given number of code points. -/
def unescapeFrom : Nat → Text → Except LiteralError Text
  | _, [] => .ok []
  | skip + 1, _ :: rest => unescapeFrom skip rest
  | 0, c :: rest =>
    match (if c = '\\' then escapeAt rest else none) with
    | none => (unescapeFrom 0 rest).map (c :: ·)
    | some (found, width) => do
      let head ← found.value
      let tail ← unescapeFrom width rest
      return head ++ tail

/-- The value of a quoted text; whatever stands first and last is taken for the quotes. -/
def unescape (raw : Text) : Except LiteralError Text := unescapeFrom 0 raw.inner

end Text

end Hyperscript
