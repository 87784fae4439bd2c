import ShuntingYard.Failure

/-! The five binary operators, with the weight that says how tightly each binds and the side to
    which chains of it group. Everything about precedence is decided here, on two operators at a
    time, by `Operator.yields`; the texts of tokens are read as operators by `Operator.read`. -/

namespace ShuntingYard

/-- The binary operators. -/
inductive Operator where | times | plus | minus | over | power
  deriving DecidableEq, Repr

namespace Operator

/-- All operators, in the code point order of their texts. -/
def all : List Operator := [.times, .plus, .minus, .over, .power]

/-- The symbol an operator is written with. -/
def text : Operator → String
  | .times => "*"
  | .plus => "+"
  | .minus => "-"
  | .over => "/"
  | .power => "^"

/-- Binding strength: the heavier operator takes its operands first. -/
def weight : Operator → Nat
  | .plus | .minus => 1
  | .times | .over => 2
  | .power => 3

/-- Whether chains group to the right; only powers do. -/
def isRightAssociative : Operator → Bool
  | .power => true
  | _ => false

/-- Whether `top`, waiting on the stack, has all its operands once `incoming` arrives: it is
    heavier, or equally heavy and grouping to the left. -/
def yields (top incoming : Operator) : Bool :=
  if top.weight = incoming.weight then !top.isRightAssociative else incoming.weight < top.weight

/-- The operator written with a text, if any. -/
def ofText? (text : String) : Option Operator := all.find? (·.text == text)

/-- The operator written with a text; unknown texts are a failure that names them. -/
def read (text : String) : Except Failure Operator :=
  match ofText? text with
  | some o => .ok o
  | none => .error (.unknownOperator text)

/-- The weight of the operator written with a text. -/
def weightOf (text : String) : Except Failure Nat := do return (← read text).weight

/-- Whether a text is that of a right-associative operator; unknown texts are not. -/
def groupsRight (text : String) : Bool := (ofText? text).any isRightAssociative

/-- Decides `yields` on texts. Both are read, the one on the stack first. -/
def textYields (top incoming : String) : Except Failure Bool := do
  let top ← read top
  let incoming ← read incoming
  return top.yields incoming

@[simp] theorem ofText?_text (o : Operator) : ofText? o.text = some o := by cases o <;> decide

/-- A text is known exactly when it is the symbol of the operator it is read as. -/
theorem ofText?_eq_some_iff {text : String} {o : Operator} :
    ofText? text = some o ↔ text = o.text := by
  constructor
  · intro h
    have := List.find?_some h
    exact (by simpa using this : o.text = text).symm
  · rintro rfl
    exact ofText?_text o

@[simp] theorem read_text (o : Operator) : read o.text = .ok o := by simp [read]

/-- Texts are compared as the operators they stand for. -/
@[simp] theorem textYields_text (o p : Operator) : textYields o.text p.text = .ok (o.yields p) := by
  simp [textYields, bind, Except.bind, pure, Except.pure]

/-- What does not yield to an operator does not yield to one that it does not yield to either. -/
theorem yields_eq_false_trans {o p q : Operator} (hop : o.yields p = false)
    (hpq : p.yields q = false) : o.yields q = false := by
  revert hop hpq
  cases o <;> cases p <;> cases q <;> decide

end Operator

end ShuntingYard
