import ShuntingYard.Text.Printable

/-! Quoted text: any text on one line of printable characters. It stands between two ', or between
    two " when it has a ' and no ", and inside

        \ and the delimiter        follow a \
        tab, line feed, return     are \t  \n  \r
        others not printable       are \xHH  \uHHHH  \UHHHHHHHH, as short as the code point allows

    `decode` reads a text back from its quoted form. -/

namespace ShuntingYard.Text.Quoted

/-- The last `width` hexadecimal digits of a number. -/
def hex : Nat → Nat → List Char
  | 0, _ => []
  | width + 1, n => hex width (n / 16) ++ [Nat.digitChar (n % 16)]

/-- The quotation mark that a text is put between. -/
def delimiter (text : List Char) : Char :=
  if text.contains '\'' && !text.contains '"' then '"' else '\''

/-- What a character is written as between two delimiters. -/
def escape (delimiter c : Char) : List Char :=
  if c = '\\' ∨ c = delimiter then ['\\', c]
  else if c = '\t' then ['\\', 't']
  else if c = '\n' then ['\\', 'n']
  else if c = '\r' then ['\\', 'r']
  else if isPrintable c then [c]
  else if c.toNat < 0x100 then '\\' :: 'x' :: hex 2 c.toNat
  else if c.toNat < 0x10000 then '\\' :: 'u' :: hex 4 c.toNat
  else '\\' :: 'U' :: hex 8 c.toNat

/-- Writes a text between delimiters. -/
def encode (text : List Char) : List Char :=
  let mark := delimiter text
  mark :: text.flatMap (escape mark) ++ [mark]

/-- Where a reader stands in a quoted text: between characters, behind a backslash, or in front of
    the last digits of a code point whose first ones are known. -/
inductive Place where
  | plain
  | escaped
  | digits (left value : Nat)
  deriving DecidableEq, Repr

/-- The value of a hexadecimal digit in lower case. -/
def hexValue (c : Char) : Nat := if c.isDigit then c.toNat - 0x30 else c.toNat - 0x57

/-- Reads what stands between the delimiters. -/
def readFrom : Place → List Char → List Char
  | _, [] => []
  | .plain, c :: rest => if c = '\\' then readFrom .escaped rest else c :: readFrom .plain rest
  | .escaped, 't' :: rest => '\t' :: readFrom .plain rest
  | .escaped, 'n' :: rest => '\n' :: readFrom .plain rest
  | .escaped, 'r' :: rest => '\r' :: readFrom .plain rest
  | .escaped, 'x' :: rest => readFrom (.digits 1 0) rest
  | .escaped, 'u' :: rest => readFrom (.digits 3 0) rest
  | .escaped, 'U' :: rest => readFrom (.digits 7 0) rest
  | .escaped, c :: rest => c :: readFrom .plain rest
  | .digits 0 value, c :: rest => Char.ofNat (16 * value + hexValue c) :: readFrom .plain rest
  | .digits (left + 1) value, c :: rest => readFrom (.digits left (16 * value + hexValue c)) rest

/-- Reads a quoted text back. -/
def decode (written : List Char) : List Char := readFrom .plain written.tail.dropLast

end ShuntingYard.Text.Quoted

namespace ShuntingYard.Text

/-- A text in quoted form. -/
def quoted (text : String) : String := .ofList (Quoted.encode text.toList)

/-- The text that a quoted form is of. -/
def unquoted (written : String) : String := .ofList (Quoted.decode written.toList)

end ShuntingYard.Text
