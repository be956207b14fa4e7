/-!
# Tokens of Python source

A token is a lexeme with the lines it starts and ends on. Layout is part of the token sequence:
`newline` ends a logical line, `indent` and `dedent` bracket a block, `finish` ends the source.
-/

namespace ErpLens.Source

inductive Number where
  | integer (value : Nat)
  | real (value : Float)
  | imaginary (value : Float)
deriving Repr

/-- A string literal as written: the marks before the quote and the characters between the quotes,
escapes not yet read. -/
structure StringLiteral where
  isBytes : Bool
  isRaw : Bool
  isFormatted : Bool
  isMarked : Bool
  body : List Char
deriving Repr

inductive Lexeme where
  /-- A name in its normal form; `verbatim` says that it is written so. -/
  | name (text : String) (verbatim : Bool)
  | keyword (text : String)
  | number (value : Number)
  | string (literal : StringLiteral)
  | op (text : String)
  | newline
  | indent
  | dedent
  | finish
deriving Repr

structure Token where
  lexeme : Lexeme
  line : Nat
  endLine : Nat
deriving Repr

def keywords : List String :=
  ["False", "None", "True", "and", "as", "assert", "async", "await", "break", "class", "continue",
    "def", "del", "elif", "else", "except", "finally", "for", "from", "global", "if", "import",
    "in", "is", "lambda", "nonlocal", "not", "or", "pass", "raise", "return", "try", "while",
    "with", "yield"]

/-- Layout tokens mark the structure of lines; all others are written characters. -/
def Lexeme.isLayout : Lexeme → Bool
  | .newline | .indent | .dedent | .finish => true
  | _ => false

end ErpLens.Source
