import Hyperscript.Text

/-!
# Log levels by name

The threshold that a level name stands for. Names are read in any case.
-/
namespace Hyperscript.LogLevel

/-- The capital of a letter of the basic alphabet, and the two other letters whose capital is in the
basic alphabet: dotless i and long s. -/
def capital (c : CodePoint) : CodePoint :=
  if c.isLower then c - 0x20 else if c = 0x131 then 'I' else if c = 0x17f then 'S' else c

def names : List (String × Nat) :=
  [("NOTSET", 0), ("DEBUG", 10), ("INFO", 20), ("WARN", 30), ("WARNING", 30), ("ERROR", 40),
   ("CRITICAL", 50), ("FATAL", 50)]

def threshold? (level : Text) : Option Nat :=
  (names.find? fun entry => Text.ofString entry.1 = level.map capital).map (·.2)

/-- What is said of a name that stands for no level. -/
def refusal (level : Text) : Text := "Invalid log level: " ++ level

end Hyperscript.LogLevel
