import ShuntingYard.FunctionTable

/-! What can be adjusted: which words are functions, and what stands between tokens when they are
    written out. Either may be missing, which is noticed only where it is needed. -/

namespace ShuntingYard

/-- The settings that an expression is treated under. -/
structure Settings where
  functions : Option FunctionTable := some .trigonometric
  separator : Option String := some " "
  deriving DecidableEq

end ShuntingYard
