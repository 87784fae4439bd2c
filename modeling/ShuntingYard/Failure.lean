/-! Why an expression has no postfix form. A failure is recorded as its cause; `Failure.message` is
    the one place where it becomes text. -/

namespace ShuntingYard

/-- The shapes of value, other than text, that may stand where an expression belongs. -/
inductive Shape where | integer | flag | list | record
  deriving DecidableEq, Repr

/-- The word by which messages name a shape. -/
def Shape.word : Shape → String
  | .integer => "int"
  | .flag => "bool"
  | .list => "list"
  | .record => "dict"

/-- The causes of failure, in the order in which the stages can meet them. -/
inductive Failure where
  /-- There is no expression, or an empty one. -/
  | emptyExpression
  /-- Something other than text was handed over as the expression. -/
  | notText (shape : Shape)
  /-- A function was recognised while there was no table to take its arity from. -/
  | missingTable
  /-- An operator text that is none of the five known ones was compared with another operator. -/
  | unknownOperator (text : String)
  /-- A closing parenthesis came with no group open. -/
  | unmatchedClose
  /-- A group was still open at the end. -/
  | unmatchedOpen
  /-- There was no text to put between the rendered tokens. -/
  | missingSeparator
  deriving DecidableEq, Repr

/-- The text reported for a failure. -/
def Failure.message : Failure → String
  | .emptyExpression => "expression must be non-empty"
  | .notText shape => s!"expected string or bytes-like object, got '{shape.word}'"
  | .missingTable => "'NoneType' object is not subscriptable"
  | .unknownOperator text => s!"invalid operation `{text}`."
  | .unmatchedClose => "unbalanced parentheses: `)` without matching `(`"
  | .unmatchedOpen => "unbalanced parentheses: `(` without matching `)`"
  | .missingSeparator => "'NoneType' object has no attribute 'join'"

end ShuntingYard
