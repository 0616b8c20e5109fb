import Hyperscript.Grammar.Symbol
import Hyperscript.Text.Digit
import Hyperscript.Tree.Node

/-!
# Tokens

Each class of tokens is given by the length of the longest member at the start of a text. Which
terminal a text starts with depends on what the parser can use there: only those terminals are
tried, markup text before everything else, then the classes, then the fixed spellings, longer ones
first. A name whose spelling is a usable word is that word.
-/
namespace Hyperscript.Grammar

/-- A line and a column, both counted from one. Only a line feed ends a line. -/
structure Position where
  line : Nat := 1
  column : Nat := 1
  deriving DecidableEq, Repr

namespace Position

def step (p : Position) (c : CodePoint) : Position :=
  if c = '\n' then ⟨p.line + 1, 1⟩ else ⟨p.line, p.column + 1⟩

/-- The position behind a text that starts at `p`. -/
def advance (p : Position) (t : Text) : Position := t.foldl step p

end Position

structure Token where
  kind : Terminal
  text : Text
  position : Position
  deriving DecidableEq, Repr

def Token.place (t : Token) : Place := ⟨t.position.line, t.position.column, none⟩

namespace Scan

/-- The length of a run of code points of one kind. -/
def run (p : CodePoint → Bool) (t : Text) : Nat := (t.takeWhile p).length

def isNameStart (c : CodePoint) : Bool := c.isLetter || c = '_' || c = '$'

def isNamePart (c : CodePoint) : Bool := isNameStart c || c.isDigit

def isJsxNamePart (c : CodePoint) : Bool := isNamePart c || c = '-'

/-- A first code point of one kind, followed by a run of another. -/
def headed (first rest : CodePoint → Bool) : Text → Nat
  | [] => 0
  | c :: t => if first c then run rest t + 1 else 0

def name (t : Text) : Nat := headed isNameStart isNamePart t

def jsxName (t : Text) : Nat := headed isNameStart isJsxNamePart t

def isSpace (c : CodePoint) : Bool :=
  c = ' ' || c = '\t' || c = 0x0c || c = '\r' || c = '\n'

def space (t : Text) : Nat := run isSpace t

/-- The length up to the end of a block comment whose opening has been read. -/
def commentRest : Text → Option Nat
  | [] => none
  | c :: t =>
    if c = '*' && t.head? = some (CodePoint.ofChar '/') then some 2
    else (commentRest t).map (· + 1)

def comment (t : Text) : Nat :=
  if Text.ofString "//" <+: t then run (· ≠ CodePoint.ofChar '\n') t
  else if Text.ofString "/*" <+: t then ((commentRest (t.drop 2)).map (· + 2)).getD 0
  else 0

/-- The digits after a point, if there are any. -/
def fraction (t : Text) : Nat :=
  if t.head? = some (CodePoint.ofChar '.') then
    let digits := run CodePoint.isDecimal t.tail
    if digits = 0 then 0 else digits + 1
  else 0

/-- An exponent mark, perhaps a sign, and at least one digit. -/
def exponent (t : Text) : Nat :=
  if t.head?.any (fun (c : CodePoint) => c = 'e' || c = 'E') then
    let sign := if t.tail.head?.any (fun (c : CodePoint) => c = '+' || c = '-') then 1 else 0
    let digits := run CodePoint.isDecimal (t.drop (sign + 1))
    if digits = 0 then 0 else digits + sign + 1
  else 0

def hexadecimal (t : Text) : Nat :=
  if Text.ofString "0x" <+: t || Text.ofString "0X" <+: t then
    let digits := run CodePoint.isHexDigit (t.drop 2)
    if digits = 0 then 0 else digits + 2
  else 0

def decimal (t : Text) : Nat :=
  let whole := run CodePoint.isDecimal t
  if whole = 0 then 0
  else
    let upToFraction := whole + fraction (t.drop whole)
    upToFraction + exponent (t.drop upToFraction)

def number (t : Text) : Nat := if hexadecimal t = 0 then decimal t else hexadecimal t

/-- The length up to the closing quote, where a backslash protects what follows. Unless
`acrossLines`, a line feed is never inside. -/
def quotedRest (quote : CodePoint) (acrossLines : Bool) : Text → Option Nat
  | [] => none
  | [c] => if c = quote then some 1 else none
  | c :: d :: t =>
    if c = quote then some 1
    else if c = '\\' then
      if d = '\n' && !acrossLines then none else (quotedRest quote acrossLines t).map (· + 2)
    else if c = '\n' && !acrossLines then none
    else (quotedRest quote acrossLines (d :: t)).map (· + 1)

def quoted (quote : CodePoint) (acrossLines : Bool) : Text → Nat
  | [] => 0
  | c :: t => if c = quote then ((quotedRest quote acrossLines t).map (· + 1)).getD 0 else 0

def string (t : Text) : Nat := quoted '"' false t + quoted '\'' false t

def template (t : Text) : Nat := quoted 0x60 true t

/-- In markup nothing is protected: the next quote of the same kind ends the string. -/
def plainQuoted (quote : CodePoint) : Text → Nat
  | [] => 0
  | c :: t =>
    let inside := run (· ≠ quote) t
    if c = quote && inside < t.length then inside + 2 else 0

def jsxString (t : Text) : Nat := plainQuoted '"' t + plainQuoted '\'' t

def isJsxTextPart (c : CodePoint) : Bool :=
  !(c = '\x7b' || c = '\x7d' || c = '<' || c = '>')

def jsxText (t : Text) : Nat := run isJsxTextPart t

/-- The classes of tokens and how long their members are. -/
def classes : List (Terminal × (Text → Nat)) :=
  [(.jsxText, jsxText), (.number, number), (.string, string), (.template, template), (.name, name),
   (.jsxName, jsxName), (.jsxString, jsxString)]

end Scan

namespace Terminal

def spellings : List (Terminal × Text) := fixed.map fun (t, s) => (t, Text.ofString s)

/-- The word that a name spells, if it is usable, and the class of the name otherwise. -/
def ofName (usable : Terminal → Bool) (kind : Terminal) (spelled : Text) : Terminal :=
  if kind = .name || kind = .jsxName then
    ((spellings.find? fun entry => entry.2 = spelled && usable entry.1).map (·.1)).getD kind
  else kind

end Terminal

/-- What a text starts with. -/
inductive Lexeme where
  | token (kind : Terminal) (length : Nat)
  | ignored (length : Nat)
  | unknown
  deriving DecidableEq, Repr

namespace Lexeme

def ofClass (usable : Terminal → Bool) (t : Text) : Option Lexeme :=
  (Scan.classes.find? fun entry => usable entry.1 && entry.2 t ≠ 0).map fun entry =>
    .token (Terminal.ofName usable entry.1 (t.take (entry.2 t))) (entry.2 t)

def ofSpelling (usable : Terminal → Bool) (t : Text) : Option Lexeme :=
  (Terminal.spellings.find? fun entry => entry.2.isPrefixOf t && usable entry.1).map fun entry =>
    .token entry.1 entry.2.length

/-- White space and comments are ignored, unless markup text takes them. -/
def first (usable : Terminal → Bool) (t : Text) : Lexeme :=
  let ignorable := max (Scan.space t) (Scan.comment t)
  if ignorable ≠ 0 && !(usable .jsxText) then .ignored ignorable
  else ((ofClass usable t).orElse fun _ => ofSpelling usable t).getD .unknown

end Lexeme

/-- The rest of a text and where it starts. -/
structure Input where
  rest : Text
  position : Position
  deriving DecidableEq, Repr

namespace Input

def start (source : Text) : Input := ⟨source, {}⟩

def drop (input : Input) (count : Nat) : Input :=
  ⟨input.rest.drop count, input.position.advance (input.rest.take count)⟩

/-- The next token that is not ignored and the input behind it, or where none could be found. The
end of the text counts as a token. -/
def next (usable : Terminal → Bool) : Nat → Input → Except Position (Token × Input)
  | 0, input => .error input.position
  | fuel + 1, input =>
    if input.rest.isEmpty then .ok (⟨.finish, [], input.position⟩, input)
    else
      match Lexeme.first usable input.rest with
      | .unknown => .error input.position
      | .ignored length => next usable fuel (input.drop length)
      | .token kind length =>
        .ok (⟨kind, input.rest.take length, input.position⟩, input.drop length)

end Input

end Hyperscript.Grammar
