import ShuntingYard.Classification
import ShuntingYard.Lexeme
import ShuntingYard.Settings
import ShuntingYard.Source
import ShuntingYard.Traced
import ShuntingYard.Yard

/-! The way from an expression to the text of its postfix form.

        source ──tokenize──▶ tokens ──reorder──▶ tokens ──render──▶ text

    Each stage needs the one before it, so the first failure is the one that counts. -/

namespace ShuntingYard

/-- The token of a lexeme. A gap in front of it is logged, also if the lexeme then fails. -/
def Lexeme.toToken (functions : Option FunctionTable) (l : Lexeme) : Traced Token := do
  unless l.gap.isEmpty do
    Traced.note (.dropped (.ofList l.gap))
  Traced.ofExcept (classify functions l.text)

/-- The tokens of an expression, in order. The tail goes unnoticed. -/
def tokenize (settings : Settings) (source : Source) : Traced (List Token) := do
  let text ← Traced.ofExcept source.read
  (Scan.ofChars text.toList).lexemes.mapM (Lexeme.toToken settings.functions)

/-- Tokens in postfix order; success is logged. -/
def reorder (tokens : List Token) : Traced (List Token) := do
  let reordered ← Traced.ofExcept (convert tokens)
  Traced.note (.converted tokens.length reordered.length)
  return reordered

/-- Token texts, joined by a separator, which must be there even when there is nothing to join. -/
def render (separator : Option String) (tokens : List Token) : Except Failure String :=
  match separator with
  | some between => .ok (between.intercalate (tokens.map Token.text))
  | none => .error .missingSeparator

/-- What becomes of an expression, stage by stage. Each stage's log starts with that of the stage
    before, and its failure, if any, is passed on. -/
structure Stages where
  tokens : Traced (List Token)
  reordered : Traced (List Token)
  text : Traced String

/-- All stages of the work on an expression. -/
def stages (settings : Settings) (source : Source) : Stages :=
  let tokens := tokenize settings source
  let reordered := tokens >>= reorder
  let text := reordered >>= fun ts => Traced.ofExcept (render settings.separator ts)
  { tokens, reordered, text }

/-- The text of the postfix form of an expression. -/
def toPostfix (settings : Settings) (source : Source) : Traced String :=
  (stages settings source).text

end ShuntingYard
