import ShuntingYard.Stages

/-! One expression, put into postfix order under the default settings. -/

namespace ShuntingYard.Demo

/-- A product written by juxtaposition, a power, a quotient and a function. -/
def expression : String := "5x^2 / sin(x)"

/-- The line that is shown. -/
def run : Traced String := do
  Traced.note (.converting expression)
  toPostfix {} (.text expression)

end ShuntingYard.Demo
