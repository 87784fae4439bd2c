import ShuntingYard.Failure
import ShuntingYard.FunctionTable
import ShuntingYard.Text.Digit
import ShuntingYard.Text.Letter
import ShuntingYard.Text.Lowercase
import ShuntingYard.Token

/-! What kind of token a text is. Digits and letters of all scripts count here, and a word is looked
    up in the table of functions by its lower-case form, while the token keeps the spelling. -/

namespace ShuntingYard

/-- Whether a word, in any spelling, is the name of a function; without a table, of one of the
    trigonometric functions. -/
def isFunctionName (name : String) (functions : Option FunctionTable) : Bool :=
  (functions.getD .trigonometric).contains (Text.lowercase name)

/-- The token of a word. Without a table no function can be given its arity, so a word that would be
    one of the trigonometric functions is a failure. -/
def classifyWord (functions : Option FunctionTable) (word : String) : Except Failure Token :=
  match functions with
  | some table =>
    match table.arity? (Text.lowercase word) with
    | some arity => .ok (.function word arity)
    | none => .ok (.identifier word)
  | none => if isFunctionName word none then .error .missingTable else .ok (.identifier word)

/-- The token of any text at all: what is no number, word or parenthesis is taken as an operator. -/
def classify (functions : Option FunctionTable) (text : String) : Except Failure Token :=
  if Text.isNumeral text then .ok (.number text)
  else if Text.isWord text then classifyWord functions text
  else if text = "(" then .ok (.leftParen text)
  else if text = ")" then .ok (.rightParen text)
  else .ok (.operator text)

/-- A word is a function exactly when it is recognised as the name of one. -/
theorem classifyWord_isFunction (table : FunctionTable) (word : String) :
    (classifyWord (some table) word).toOption.any Token.isFunction =
      isFunctionName word (some table) := by
  simp only [classifyWord, isFunctionName, FunctionTable.contains, Option.getD_some]
  cases table.arity? (Text.lowercase word) <;> rfl

end ShuntingYard
