import Hyperscript.Text
import Hyperscript.Text.IdentifierRanges

/-!
# Identifiers

Identifier names follow the Unicode identifier profile, with the dollar sign counted as a letter.
A valid identifier is an identifier name that is not reserved.
-/
namespace Hyperscript

namespace CodePoint

def opensIdentifier (c : CodePoint) : Bool := c = '$' || c.within Text.identifierStarts

def continuesIdentifier (c : CodePoint) : Bool :=
  c.opensIdentifier || c.within Text.identifierExtenders

end CodePoint

namespace Text

def isIdentifierName : Text → Bool
  | [] => false
  | c :: rest => c.opensIdentifier && rest.all CodePoint.continuesIdentifier

def keywords : List String :=
  ["break", "case", "catch", "class", "const", "continue", "debugger", "default", "delete", "do",
   "else", "enum", "export", "extends", "finally", "for", "function", "if", "import", "in",
   "instanceof", "new", "return", "super", "switch", "this", "throw", "try", "typeof", "var",
   "void", "while", "with"]

def strictReservedWords : List String :=
  ["implements", "interface", "package", "private", "protected", "public", "static", "yield",
   "let"]

/-- Words that may follow a dot but never name a variable. -/
def reservedWords : List Text :=
  (keywords ++ strictReservedWords ++ ["null", "true", "false", "await"]).map ofString

/-- The text can stand unquoted as a reference to a variable. -/
def isValidIdentifier (t : Text) : Bool := t.isIdentifierName && !reservedWords.contains t

end Text

end Hyperscript
