import Hyperscript.Grammar.Build
import Hyperscript.Grammar.Table
import Hyperscript.Tree.Walk

/-!
# The parser

A shift and reduce machine. The table proposes each move, and the state after the last shift
decides which terminals the next token may be. A reduction is made only if the symbols on the
stack are those of the production, so whatever the table says, every value on the stack is built
by the actions of a derivation of its symbol from the tokens it covers.
-/
namespace Hyperscript.Grammar

namespace Row

/-- The terminal has a move in this state. -/
def accepts (r : Row) (t : Terminal) : Bool :=
  r.shifts.any (·.1 = t) || r.reductions.any fun entry => entry.1.contains t

def shift? (r : Row) (t : Terminal) : Option Nat := (r.shifts.find? (·.1 = t)).map (·.2)

def goto? (r : Row) (a : Nonterminal) : Option Nat := (r.gotos.find? (·.1 = a)).map (·.2)

def reduction? (r : Row) (t : Terminal) : Option Production :=
  (r.reductions.find? fun entry => entry.1.contains t).bind fun entry =>
    entry.2.1.productions[entry.2.2]?

end Row

/-- A symbol that has been read, what it stands for, and the state behind it. -/
structure Frame where
  state : Nat
  symbol : Symbol
  value : List Part

/-- The stack with its top first, the token to be dealt with, and what comes after it. -/
structure Configuration where
  stack : List Frame
  token : Token
  input : Input
  /-- The last token before the end of the text. -/
  last : Position

def stateOf (stack : List Frame) : Nat := (stack.head?.map Frame.state).getD 0

/-- The parts that slots keep of the frames they read, if the symbols agree. -/
def gather : List Slot → List Frame → Option (List Part)
  | [], [] => some []
  | .absent :: slots, frames => (gather slots frames).map (.absent :: ·)
  | .skip t :: slots, f :: frames => if f.symbol = .terminal t then gather slots frames else none
  | .keep s :: slots, f :: frames =>
    if f.symbol = s then (gather slots frames).map (f.value ++ ·) else none
  | _, _ => none

/-- What a production makes of the parts it kept. -/
def Production.build (p : Production) (parts : List Part) : Except ParseError (List Part) :=
  match p.action with
  | none => .ok parts
  | some action => (Build.apply action parts).map ([·])

/-- The frames of a right side replaced by the value of its left side. -/
def reduce (p : Production) (stack : List Frame) :
    Except ParseError (List Part × List Frame) :=
  let count := p.right.length
  match gather p.slots (stack.take count).reverse with
  | none => .error .stuck
  | some parts => (p.build parts).map fun value => (value, stack.drop count)

/-- Reads the token after the current one, in the state behind the current one. -/
def Configuration.advance (stack : List Frame) (c : Configuration) :
    Except ParseError Configuration :=
  let usable := (Table.row (stateOf stack)).accepts
  match c.input.next usable (c.input.rest.length + 1) with
  | .ok (token, input) =>
    .ok ⟨stack, token, input, if token.kind = .finish then c.last else token.position⟩
  | .error position => .error (.unexpectedToken position)

/-- A move of the machine: another configuration, or the program. -/
def Configuration.step (c : Configuration) : Except ParseError (Configuration ⊕ Node) :=
  let row := Table.row (stateOf c.stack)
  match row.shift? c.token.kind with
  | some state =>
    (c.advance (⟨state, .terminal c.token.kind, [.token c.token]⟩ :: c.stack)).map .inl
  | none =>
    match row.reduction? c.token.kind with
    | none =>
      if c.token.kind = .finish then .error (.unexpectedEnd c.last)
      else .error (.unexpectedToken c.token.position)
    | some p => do
      let (value, stack) ← reduce p c.stack
      match p.left, value with
      | .program, [.node n] => return .inr n
      | left, _ =>
        match (Table.row (stateOf stack)).goto? left with
        | some state => return .inl { c with stack := ⟨state, .nonterminal left, value⟩ :: stack }
        | none => .error .stuck

def run : Nat → Configuration → Except ParseError Node
  | 0, _ => .error .stuck
  | fuel + 1, c =>
    match c.step with
    | .error e => .error e
    | .ok (.inr n) => .ok n
    | .ok (.inl next) => run fuel next

/-- A token takes one shift and, on average, fewer reductions than this. -/
def movesPerToken : Nat := 100

/-- The tree of a text, with places but no file. -/
def parseTree (source : Text) : Except ParseError Node := do
  let start : Configuration := ⟨[], ⟨.finish, [], {}⟩, .start source, {}⟩
  let first ← start.advance []
  run (movesPerToken * (source.length + 2)) first

/-- The tree of a text; an empty name leaves the nodes without a file. -/
def parse (source name : Text) : Except ParseError Node :=
  (parseTree source).map fun n => if name.isEmpty then n else n.inFile name

namespace ParseError

def located (p : Position) : Text :=
  " at line " ++ Text.ofNat p.line ++ ", column " ++ Text.ofNat p.column

/-- What is wrong, apart from where it was read. -/
def detail : ParseError → Text
  | .unexpectedToken p => "Unexpected token" ++ located p
  | .unexpectedEnd p => "Unexpected end of input" ++ located p
  | .closingTag opening p =>
    "Expected corresponding JSX closing tag for <" ++ opening ++ "> at " ++ p.lineColumn
  | .arrowParameter p => "Invalid arrow function parameter at " ++ p.lineColumn
  | .destructuringTarget p => "Invalid destructuring target at " ++ p.lineColumn
  | .literal e => e.message
  | .stuck => "the parser is stuck"

/-- The text is at fault and not the parser: the text breaks the grammar. -/
def isRefusal : ParseError → Bool
  | .literal _ | .stuck => false
  | _ => true

def message (name : Text) (e : ParseError) : Text :=
  (if e.isRefusal then "Parse error in " else "Unexpected error parsing ") ++ name ++ ": " ++
    e.detail

end ParseError

end Hyperscript.Grammar
