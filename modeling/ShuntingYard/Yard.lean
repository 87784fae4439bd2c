import ShuntingYard.Operator
import ShuntingYard.Token

/-! The yard where tokens are shunted: a stack of operators, functions and open parentheses that
    still wait for their place, and the output, which only grows.

        operand ───────────────────────────────▶ output
        operator ──▶ release from the top what yields ──▶ output, then push
        ( , function ──▶ push
        ) ──▶ release everything above the last ( ──▶ output, drop the (,
              then a function on top goes to the output too

    Operators on the stack are compared with operators only: a function or a parenthesis on top ends
    the release, so that a function stays until the group that follows it closes. -/

namespace ShuntingYard

/-- The waiting tokens, topmost first, and what has come out, oldest first. -/
structure Yard where
  stack : List Token
  output : Array Token
  deriving DecidableEq, Repr

namespace Yard

/-- The yard in which nothing waits and nothing has come out. -/
def empty : Yard := ⟨[], #[]⟩

/-- Leaves a token waiting on top of the stack. -/
def push (y : Yard) (t : Token) : Yard := { y with stack := t :: y.stack }

/-- Sends a token straight to the output. -/
def emit (y : Yard) (t : Token) : Yard := { y with output := y.output.push t }

/-- What an incoming operator does to a stack before it is pushed. -/
structure Release where
  /-- The tokens that leave, in the order in which they do: topmost first. -/
  released : List Token
  /-- The stack that remains. -/
  rest : List Token
  /-- Set when the comparison that ended the release met an unknown operator text. -/
  failure : Option Failure
  deriving DecidableEq, Repr

/-- Releases operators from the top for as long as they yield to the incoming one. What has left
    before an unknown text is met stays released. -/
def release (incoming : String) : List Token → Release
  | .operator top :: below =>
    match Operator.textYields top incoming with
    | .ok true =>
      let r := release incoming below
      { r with released := .operator top :: r.released }
    | .ok false => ⟨[], .operator top :: below, none⟩
    | .error e => ⟨[], .operator top :: below, some e⟩
  | stack => ⟨[], stack, none⟩

/-- Makes room for a token, taken as an operator by its text, and pushes it. The yard is returned
    also when this fails, as the failure left it: without the token. -/
def addOperator (y : Yard) (t : Token) : Except Failure Unit × Yard :=
  let r := release t.text y.stack
  let settled : Yard := ⟨r.rest, y.output ++ r.released⟩
  match r.failure with
  | some e => (.error e, settled)
  | none => (.ok (), settled.push t)

/-- Moves the tokens above the topmost open parenthesis to the output and drops the parenthesis.
    Answers whether there was one; if not, the whole stack has moved. -/
def popUntilOpen (y : Yard) : Bool × Yard :=
  let output := y.output ++ y.stack.takeWhile (!·.isOpen)
  match y.stack.dropWhile (!·.isOpen) with
  | [] => (false, ⟨[], output⟩)
  | _ :: below => (true, ⟨below, output⟩)

/-- Sends a function on top of the stack to the output: its operand is complete. -/
def attachFunction (y : Yard) : Yard :=
  match y.stack with
  | .function text arity :: below => ⟨below, y.output.push (.function text arity)⟩
  | _ => y

/-- Ends a group, and with it the operand of a function that stands before the group. -/
def closeGroup (y : Yard) : Except Failure Yard :=
  match y.popUntilOpen with
  | (true, closed) => .ok closed.attachFunction
  | (false, _) => .error .unmatchedClose

/-- Takes in the next token of an expression. -/
def feed (y : Yard) : Token → Except Failure Yard
  | t@(.number _) | t@(.identifier _) => .ok (y.emit t)
  | t@(.function _ _) | t@(.leftParen _) => .ok (y.push t)
  | t@(.operator _) =>
    match y.addOperator t with
    | (.ok (), settled) => .ok settled
    | (.error e, _) => .error e
  | .rightParen _ => y.closeGroup
  | .plain _ => .ok y

/-- Takes in the tokens of an expression from left to right, up to the first failure. -/
def feedAll (y : Yard) (ts : List Token) : Except Failure Yard := ts.foldlM feed y

/-- Ends the expression: what still waits comes out from the top, unless a group is open. -/
def drain (y : Yard) : Except Failure (List Token) :=
  if y.stack.any Token.isOpen then .error .unmatchedOpen else .ok (y.output.toList ++ y.stack)

@[simp] theorem feedAll_nil (y : Yard) : y.feedAll [] = .ok y := rfl

@[simp] theorem feedAll_cons (y : Yard) (t : Token) (ts : List Token) :
    y.feedAll (t :: ts) = (y.feed t).bind (·.feedAll ts) := rfl

theorem feedAll_append (y : Yard) (ts us : List Token) :
    y.feedAll (ts ++ us) = (y.feedAll ts).bind (·.feedAll us) := by
  simp only [feedAll, List.foldlM_append]; rfl

end Yard

/-- The postfix order of a list of tokens in infix order. -/
def convert (ts : List Token) : Except Failure (List Token) := do
  (← Yard.empty.feedAll ts).drain

end ShuntingYard
