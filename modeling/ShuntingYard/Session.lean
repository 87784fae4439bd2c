import ShuntingYard.Stages

/-! A session: settings, a list of tokens and a text, on which commands work one after another. A
    command that fails has no effect. -/

namespace ShuntingYard

/-- What a session keeps between commands. -/
structure Session where
  settings : Settings := {}
  tokens : List Token := []
  text : String := ""
  deriving DecidableEq

/-- What can be asked of a session. -/
inductive Command where
  /-- Go back to the default settings. -/
  | reset
  /-- Put a function into the table. -/
  | define (name : String) (arity : Int)
  /-- Take a function out of the table. -/
  | forget (name : String)
  /-- Choose what stands between rendered tokens. -/
  | separateBy (separator : Option String)
  /-- Make the tokens of an expression the current ones. -/
  | tokenize (source : Source)
  /-- Make the tokens of the current text the current ones. -/
  | retokenize
  /-- Bring the current tokens into postfix order. -/
  | convert
  /-- Make the rendering of the current tokens the current text. -/
  | render
  /-- Show the postfix form of an expression, and keep nothing. -/
  | toPostfix (source : Source)
  deriving DecidableEq, Repr

/-- What a session answers: the part of it that a command has set, or the text asked for. -/
inductive Reply where
  | settings (settings : Settings)
  | tokens (tokens : List Token)
  | text (text : String)
  deriving DecidableEq

namespace Session

/-- Adopts settings. -/
def adopt (s : Session) (settings : Settings) : Reply × Session :=
  (.settings settings, { s with settings })

/-- Makes tokens the current ones. -/
def hold (s : Session) (tokens : List Token) : Reply × Session :=
  (.tokens tokens, { s with tokens })

/-- Carries out a command. -/
def apply (s : Session) : Command → Traced (Reply × Session)
  | .reset => return s.adopt {}
  | .define name arity =>
    return s.adopt { s.settings with functions := s.settings.functions.map (·.insert name arity) }
  | .forget name =>
    return s.adopt { s.settings with functions := s.settings.functions.map (·.erase name) }
  | .separateBy separator => return s.adopt { s.settings with separator }
  | .tokenize source => return s.hold (← tokenize s.settings source)
  | .retokenize => return s.hold (← tokenize s.settings (.text s.text))
  | .convert => return s.hold (← reorder s.tokens)
  | .render => do
    let text ← Traced.ofExcept (render s.settings.separator s.tokens)
    return (.text text, { s with text })
  | .toPostfix source => return (.text (← toPostfix s.settings source), s)

/-- The answer to a command. -/
def reply (s : Session) (c : Command) : Traced Reply := Prod.fst <$> s.apply c

/-- The session after a command, which is the one before it when the command fails. -/
def after (s : Session) (c : Command) : Session :=
  match (s.apply c).outcome with
  | .ok (_, next) => next
  | .error _ => s

/-- The session after a list of commands. -/
def afterAll (s : Session) (cs : List Command) : Session := cs.foldl after s

/-- The answers to a list of commands. -/
def replies (s : Session) : List Command → List (Traced Reply)
  | [] => []
  | c :: cs => s.reply c :: replies (s.after c) cs

end Session

end ShuntingYard
