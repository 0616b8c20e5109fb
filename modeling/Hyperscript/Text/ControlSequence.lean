import Hyperscript.Text

/-!
# Terminal control sequences

A control sequence is an escape with an opening bracket, then parameters, then intermediates, and
one code point that ends it. The three classes have no code point in common, so at each escape there
is at most one sequence.
-/
namespace Hyperscript.Text

namespace ControlSequence

def isParameter (c : CodePoint) : Bool := '0' ≤ c && c ≤ '?'

def isIntermediate (c : CodePoint) : Bool := ' ' ≤ c && c ≤ '/'

def isFinal (c : CodePoint) : Bool := '@' ≤ c && c ≤ '~'

/-- How many code points belong to the control sequence that an escape before them starts. -/
def lengthAfterEscape? : Text → Option Nat
  | [] => none
  | bracket :: body =>
    let parameters := body.takeWhile isParameter
    let intermediates := (body.drop parameters.length).takeWhile isIntermediate
    let length := parameters.length + intermediates.length
    if bracket = '[' && body[length]?.any isFinal then some (length + 2) else none

/-- Removes the sequences that start after the given number of code points. Those are left out. -/
def removeFrom : Nat → Text → Text
  | _, [] => []
  | skip + 1, _ :: rest => removeFrom skip rest
  | 0, c :: rest =>
    match (if c = 0x1b then lengthAfterEscape? rest else none) with
    | none => c :: removeFrom 0 rest
    | some length => removeFrom length rest

end ControlSequence

/-- The text without its control sequences. What their removal brings together is not read again. -/
def withoutControlSequences (t : Text) : Text := ControlSequence.removeFrom 0 t

end Hyperscript.Text
