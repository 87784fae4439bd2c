/-! Tokens. The kind of a token decides what becomes of it; the text is carried along as it was
    written. Tokens may also be put together by hand, with any text under any kind. -/

namespace ShuntingYard

/-- A token of an expression. -/
inductive Token where
  /-- An unsigned numeral. -/
  | number (text : String)
  /-- A variable. -/
  | identifier (text : String)
  /-- A named function with the number of operands its table gives it. -/
  | function (text : String) (arity : Int)
  /-- A binary operator; its text is only read when it meets another operator. -/
  | operator (text : String)
  /-- The start of a group. -/
  | leftParen (text : String)
  /-- The end of a group. -/
  | rightParen (text : String)
  /-- A token without a role, which reordering passes over. -/
  | plain (text : String)
  deriving DecidableEq, Repr

namespace Token

/-- The text a token was written as. -/
def text : Token → String
  | .number text | .identifier text | .function text _ | .operator text
  | .leftParen text | .rightParen text | .plain text => text

/-- Whether a token stands for a value by itself: a number or an identifier. -/
def isOperand : Token → Bool
  | .number _ | .identifier _ => true
  | _ => false

/-- Whether a token starts a group. -/
def isOpen : Token → Bool
  | .leftParen _ => true
  | _ => false

/-- Whether a token ends a group. -/
def isClose : Token → Bool
  | .rightParen _ => true
  | _ => false

/-- Whether a token never waits, and nothing waits for it: an operand, or a token without a role. -/
def isIdle : Token → Bool
  | .number _ | .identifier _ | .plain _ => true
  | _ => false

/-- Whether a token may have to wait on the stack. -/
def mayWait : Token → Bool
  | .operator _ | .function _ _ | .leftParen _ => true
  | _ => false

/-- Whether a token is a named function. -/
def isFunction : Token → Bool
  | .function _ _ => true
  | _ => false

end Token

end ShuntingYard
