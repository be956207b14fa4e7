import ErpLens.Decimal.Binary
import ErpLens.Source.Token

/-!
# Numeric literals

Decimal, hexadecimal, octal and binary integers, decimal fractions with exponents, and imaginary
numbers. Single underscores may stand between digits. A literal must not run into a name, except
into one of the keywords that can follow an operand.
-/

namespace ErpLens.Source.Number

def isBinaryDigit (c : Char) : Bool := c == '0' || c == '1'

def isOctalDigit (c : Char) : Bool := '0' ≤ c && c ≤ '7'

def isHexDigit (c : Char) : Bool :=
  c.isDigit || ('a' ≤ c && c ≤ 'f') || ('A' ≤ c && c ≤ 'F')

def digitValue (c : Char) : Nat :=
  if c.isDigit then c.toNat - 48
  else if 'a' ≤ c then c.toNat - 87
  else c.toNat - 55

def ofDigits (base : Nat) (digits : List Char) : Nat :=
  digits.foldl (fun value c => value * base + digitValue c) 0

/-- The digits at the start of a text, without the underscores between them, and what follows. An
underscore without a digit after it is an error. -/
def digitRun (isDigit : Char → Bool) : List Char → Option (List Char × List Char)
  | '_' :: d :: rest =>
    if isDigit d then (digitRun isDigit rest).map fun (ds, after) => (d :: ds, after) else none
  | ['_'] => none
  | d :: rest =>
    if isDigit d then (digitRun isDigit rest).map fun (ds, after) => (d :: ds, after)
    else some ([], d :: rest)
  | [] => some ([], [])

def followers : List (List Char) :=
  ["and", "else", "for", "if", "in", "is", "or", "not"].map String.toList

def isNameChar (c : Char) : Bool :=
  c.isAlphanum || c == '_' || 128 ≤ c.toNat

def mayEndBefore (rest : List Char) : Bool :=
  followers.any (·.isPrefixOf rest) || !(rest.headD ' ' |> isNameChar)

def basedInteger (base : Nat) (isDigit : Char → Bool) (rest : List Char) :
    Option (Number × List Char) :=
  match digitRun isDigit rest with
  | some (digits, after) =>
    if digits.isEmpty || !mayEndBefore after then none
    else some (.integer (ofDigits base digits), after)
  | none => none

def maxDigits : Nat := 4300

def decimalInteger (digits : List Char) : Option Number :=
  let isZero := digits.all (· == '0')
  if digits.head? == some '0' && !isZero then none
  else if maxDigits < digits.length && !isZero then none
  else some (.integer (ofDigits 10 digits))

structure Tail where
  fraction : List Char
  exponent : Int
  /-- Neither point nor exponent is written. -/
  isInteger : Bool
  rest : List Char

/-- Reads an exponent, if one is written. An `e` that starts no exponent is left alone. -/
def exponentPart (fraction : List Char) (isInteger : Bool) (rest : List Char) : Option Tail :=
  let none' : Tail := ⟨fraction, 0, isInteger, rest⟩
  match rest with
  | e :: after =>
    if e == 'e' || e == 'E' then
      match after with
      | sign :: d :: tail =>
        if sign == '+' || sign == '-' then
          if d.isDigit then
            (digitRun Char.isDigit (d :: tail)).map fun (digits, rest) =>
              let size : Int := ofDigits 10 digits
              ⟨fraction, if sign == '-' then -size else size, false, rest⟩
          else none
        else if sign.isDigit then
          (digitRun Char.isDigit after).map fun (digits, rest) =>
            ⟨fraction, ofDigits 10 digits, false, rest⟩
        else some none'
      | [sign] =>
        if sign == '+' || sign == '-' then none
        else if sign.isDigit then some ⟨fraction, digitValue sign, false, []⟩
        else some none'
      | [] => some none'
    else some none'
  | [] => some none'

def tailPart : List Char → Option Tail
  | '.' :: rest =>
    match rest with
    | d :: _ =>
      if d.isDigit then
        match digitRun Char.isDigit rest with
        | some (digits, after) => exponentPart digits false after
        | none => none
      else exponentPart [] false rest
    | [] => exponentPart [] false []
  | rest => exponentPart [] true rest

def assemble (digits : List Char) (tail : Tail) : Option (Number × List Char) :=
  let value := Decimal.ofDecimal false (ofDigits 10 (digits ++ tail.fraction))
    (tail.exponent - tail.fraction.length)
  match tail.rest with
  | 'j' :: rest => if mayEndBefore rest then some (.imaginary value, rest) else none
  | 'J' :: rest => if mayEndBefore rest then some (.imaginary value, rest) else none
  | rest =>
    if !mayEndBefore rest then none
    else if tail.isInteger then (decimalInteger digits).map (·, rest)
    else some (.real value, rest)

def scan (chars : List Char) : Option (Number × List Char) :=
  match chars with
  | '0' :: 'x' :: rest => basedInteger 16 isHexDigit rest
  | '0' :: 'X' :: rest => basedInteger 16 isHexDigit rest
  | '0' :: 'o' :: rest => basedInteger 8 isOctalDigit rest
  | '0' :: 'O' :: rest => basedInteger 8 isOctalDigit rest
  | '0' :: 'b' :: rest => basedInteger 2 isBinaryDigit rest
  | '0' :: 'B' :: rest => basedInteger 2 isBinaryDigit rest
  | _ =>
    match digitRun Char.isDigit chars with
    | none => none
    | some (digits, rest) => (tailPart rest).bind (assemble digits)

end ErpLens.Source.Number
