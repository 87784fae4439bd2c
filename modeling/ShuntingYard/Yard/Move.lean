import ShuntingYard.Yard

/-! The yard operated by hand: single moves in any order, on tokens of any kind. A failed move
    leaves the yard as it was when it failed, and play goes on from there. -/

namespace ShuntingYard.Yard

/-- A single move in the yard. -/
inductive Move where
  /-- Leaves a token on the stack. -/
  | push (t : Token)
  /-- Sends a token to the output. -/
  | emit (t : Token)
  /-- Adds a token as an operator. -/
  | addOperator (t : Token)
  /-- Empties the stack down to an open parenthesis. -/
  | popUntilOpen
  deriving DecidableEq, Repr

/-- Makes a move. Only `popUntilOpen` has an answer: whether there was an open parenthesis. -/
def apply (y : Yard) : Move → Except Failure (Option Bool) × Yard
  | .push t => (.ok none, y.push t)
  | .emit t => (.ok none, y.emit t)
  | .addOperator t =>
    let (outcome, after) := y.addOperator t
    (outcome.map fun _ => none, after)
  | .popUntilOpen =>
    let (found, after) := y.popUntilOpen
    (.ok (some found), after)

/-- Makes moves one after another, and shows the outcome of each with the yard after it. -/
def play (y : Yard) : List Move → List (Except Failure (Option Bool) × Yard)
  | [] => []
  | m :: ms =>
    let shown := y.apply m
    shown :: play shown.2 ms

end ShuntingYard.Yard
