import ShuntingYard.Text.Quoted

/-! What happens on the way from an expression to its postfix form, for the record. -/

namespace ShuntingYard

/-- A logged event. -/
inductive Event where
  /-- Characters in front of a lexeme belong to none, and were left out. -/
  | dropped (run : String)
  /-- So many tokens were reordered into so many. -/
  | converted (read written : Nat)
  /-- Work on an expression begins. -/
  | converting (expression : String)
  deriving DecidableEq, Repr

/-- How much an event matters. -/
def Event.level : Event → String
  | .dropped _ | .converted _ _ => "DEBUG"
  | .converting _ => "INFO"

/-- The line that records an event. Pieces of an expression are quoted in it. -/
def Event.message : Event → String
  | .dropped run => s!"dropped {Text.quoted run}"
  | .converted read written => s!"converted {read} tokens into {written}"
  | .converting expression => s!"converting {Text.quoted expression}"

end ShuntingYard
