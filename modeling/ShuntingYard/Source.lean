import ShuntingYard.Failure

/-! What may be handed over as an expression. Only text is one; but whatever is blank, of any shape,
    counts as an empty expression, and only the rest is refused for its shape. -/

namespace ShuntingYard

/-- Something handed over as an expression. -/
inductive Source where
  /-- Nothing at all. -/
  | absent
  | text (content : String)
  | integer (value : Int)
  | flag (value : Bool)
  | list (length : Nat)
  | record (size : Nat)
  deriving DecidableEq, Repr

namespace Source

/-- The text of an expression, which is not empty. -/
def read : Source → Except Failure String
  | .absent | .integer 0 | .flag false | .list 0 | .record 0 => .error .emptyExpression
  | .text content => if content.isEmpty then .error .emptyExpression else .ok content
  | .integer _ => .error (.notText .integer)
  | .flag _ => .error (.notText .flag)
  | .list _ => .error (.notText .list)
  | .record _ => .error (.notText .record)

/-- Texts other than the empty one are read as they are. -/
theorem read_text {content : String} (h : content ≠ "") :
    (Source.text content).read = .ok content := by
  simp [read, h]

end Source

end ShuntingYard
