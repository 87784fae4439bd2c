/-! The cutting of a text into lexemes. A lexeme is a run of digits, a run of capitals, a run of
    small letters, or a single mark; here digits and letters are those of ASCII. Other characters
    belong to no lexeme: they lie in the gap before a lexeme, or in the tail after the last one.

        text       2x^10, SIN(y);
        lexemes    2  x  ^  10  SIN  (  y  )
        gaps       ", " before SIN, and the others empty
        tail       ";"

    A text is scanned from its end, where each character in turn joins what has been found to its
    right. -/

namespace ShuntingYard

/-- The kinds of character that lexemes are made of. -/
inductive CharClass where | digit | lower | upper | mark
  deriving DecidableEq, Repr

namespace CharClass

/-- The characters that are lexemes by themselves. -/
def marks : List Char := ['+', '-', '*', '/', '^', '(', ')']

/-- The kind of a character; most characters of Unicode have none. -/
def of? (c : Char) : Option CharClass :=
  if c.isDigit then some .digit
  else if c.isLower then some .lower
  else if c.isUpper then some .upper
  else if marks.contains c then some .mark
  else none

/-- Whether neighbours of this kind belong together. -/
def runs : CharClass → Bool
  | .mark => false
  | _ => true

end CharClass

/-- Whether two neighbouring characters belong to one lexeme. -/
def joins (c d : Char) : Bool :=
  CharClass.of? c == CharClass.of? d && (CharClass.of? c).any CharClass.runs

/-- A lexeme, never empty, with the gap in front of it. -/
structure Lexeme where
  gap : List Char
  first : Char
  more : List Char
  deriving DecidableEq, Repr

namespace Lexeme

/-- The characters of a lexeme. -/
def run (l : Lexeme) : List Char := l.first :: l.more

/-- The text of a lexeme. -/
def text (l : Lexeme) : String := .ofList l.run

/-- What a lexeme takes up of the text. -/
def extent (l : Lexeme) : List Char := l.gap ++ l.run

end Lexeme

/-- A text that has been cut up. -/
structure Scan where
  lexemes : List Lexeme
  tail : List Char
  deriving DecidableEq, Repr

namespace Scan

/-- Puts a character that belongs to no lexeme in front. -/
def skip (c : Char) (s : Scan) : Scan :=
  match s.lexemes with
  | [] => { s with tail := c :: s.tail }
  | l :: ls => { s with lexemes := { l with gap := c :: l.gap } :: ls }

/-- Puts a character that belongs to a lexeme in front: it extends the lexeme that starts right
    after it, if they belong together, and else is a lexeme for now. -/
def take (c : Char) (s : Scan) : Scan :=
  match s.lexemes with
  | ⟨[], d, more⟩ :: ls =>
    if joins c d then { s with lexemes := ⟨[], c, d :: more⟩ :: ls }
    else { s with lexemes := ⟨[], c, []⟩ :: s.lexemes }
  | ls => { s with lexemes := ⟨[], c, []⟩ :: ls }

/-- Puts a character in front. -/
def cons (c : Char) (s : Scan) : Scan :=
  if (CharClass.of? c).isSome then s.take c else s.skip c

/-- Cuts up a text. -/
def ofChars (cs : List Char) : Scan := cs.foldr cons ⟨[], []⟩

/-- The text that was cut up. -/
def chars (s : Scan) : List Char := s.lexemes.flatMap Lexeme.extent ++ s.tail

theorem chars_skip (c : Char) (s : Scan) : (s.skip c).chars = c :: s.chars := by
  obtain ⟨_ | ⟨l, ls⟩, tail⟩ := s <;> rfl

theorem chars_take (c : Char) (s : Scan) : (s.take c).chars = c :: s.chars := by
  unfold take
  split
  · next h => split <;> simp [chars, h, Lexeme.extent, Lexeme.run]
  · simp [chars, Lexeme.extent, Lexeme.run]

theorem chars_cons (c : Char) (s : Scan) : (s.cons c).chars = c :: s.chars := by
  unfold cons
  split
  · exact chars_take c s
  · exact chars_skip c s

/-- Nothing of a text gets lost. -/
@[simp] theorem chars_ofChars : ∀ cs : List Char, (ofChars cs).chars = cs
  | [] => rfl
  | c :: cs => by
    show (cons c (ofChars cs)).chars = c :: cs
    rw [chars_cons, chars_ofChars cs]

end Scan

end ShuntingYard
