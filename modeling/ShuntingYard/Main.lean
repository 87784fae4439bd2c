import ShuntingYard.Demo

/-! The demonstration as a program. -/

/-- Shows the demonstration, or why it failed. -/
def main : IO UInt32 := do
  match ShuntingYard.Demo.run.outcome with
  | .ok line =>
    IO.println line
    return 0
  | .error failure =>
    IO.eprintln failure.message
    return 1
