import ErpLens.Source.Number
import ErpLens.Value.Access

/-!
# Reading JSON

The value of a JSON text, or what is wrong with it and where. A repeated key keeps its first place
and its last value; numbers without fraction and exponent are whole.
-/

namespace ErpLens.Json

inductive Problem where
  | byteOrderMark
  | noValue
  | extraData
  | noPropertyName
  | noColon
  | noComma
  | unterminated
  | controlCharacter
  | badEscape
  | badUnitEscape
deriving Repr, DecidableEq

def Problem.text : Problem → String
  | .byteOrderMark => "Unexpected UTF-8 BOM (decode using utf-8-sig)"
  | .noValue => "Expecting value"
  | .extraData => "Extra data"
  | .noPropertyName => "Expecting property name enclosed in double quotes"
  | .noColon => "Expecting ':' delimiter"
  | .noComma => "Expecting ',' delimiter"
  | .unterminated => "Unterminated string starting at"
  | .controlCharacter => "Invalid control character at"
  | .badEscape => "Invalid \\escape"
  | .badUnitEscape => "Invalid \\uXXXX escape"

structure ReadFault where
  problem : Problem
  left : Nat
deriving Repr, DecidableEq

def stop {α : Type} (problem : Problem) (rest : List Char) : Except ReadFault α :=
  .error ⟨problem, rest.length⟩

def isBlank (c : Char) : Bool :=
  c == ' ' || c == '\t' || c == '\n' || c == '\r'

def skipBlanks (chars : List Char) : List Char :=
  chars.dropWhile isBlank

def readUnit? : List Char → Option (Nat × List Char)
  | a :: b :: c :: d :: e :: rest => do
    let a ← Text.hexValue? a
    let b ← Text.hexValue? b
    let c ← Text.hexValue? c
    let d ← Text.hexValue? d
    return (((a * 16 + b) * 16 + c) * 16 + d, e :: rest)
  | _ => none

/-- The character of a unit escape after its `u`. Two units of a pair make one character. -/
def readUnitEscape (chars : List Char) : Except ReadFault (Char × List Char) :=
  match readUnit? chars with
  | none => .error ⟨.badUnitEscape, chars.length + 1⟩
  | some (unit, after) =>
    if 0xd800 ≤ unit ∧ unit ≤ 0xdbff then
      match after with
      | '\\' :: 'u' :: more =>
        if more.length < 5 then .ok (Char.ofNat unit, after)
        else
          match readUnit? more with
          | none => .error ⟨.badUnitEscape, more.length + 1⟩
          | some (low, last) =>
            if 0xdc00 ≤ low ∧ low ≤ 0xdfff then
              .ok (Char.ofNat (0x10000 + (unit - 0xd800) * 0x400 + (low - 0xdc00)), last)
            else .ok (Char.ofNat unit, after)
      | _ => .ok (Char.ofNat unit, after)
    else .ok (Char.ofNat unit, after)

def readEscape : List Char → Except ReadFault (Char × List Char)
  | '"' :: rest => .ok ('"', rest)
  | '\\' :: rest => .ok ('\\', rest)
  | '/' :: rest => .ok ('/', rest)
  | 'b' :: rest => .ok ('\x08', rest)
  | 'f' :: rest => .ok ('\x0c', rest)
  | 'n' :: rest => .ok ('\n', rest)
  | 'r' :: rest => .ok ('\r', rest)
  | 't' :: rest => .ok ('\t', rest)
  | 'u' :: rest => readUnitEscape rest
  | rest => .error ⟨.badEscape, rest.length + 1⟩

/-- The characters of a string after its opening quote, and what follows its closing quote.
`opening` is how much of the text was left at the opening quote. -/
def readString (opening : Nat) : Nat → List Char → Except ReadFault ((List Char) × List Char)
  | 0, rest => stop .unterminated rest
  | _ + 1, [] => .error ⟨.unterminated, opening⟩
  | _ + 1, '"' :: rest => .ok ([], rest)
  | _ + 1, ['\\'] => .error ⟨.unterminated, opening⟩
  | fuel + 1, '\\' :: rest => do
    let (c, after) ← readEscape rest
    let (more, last) ← readString opening fuel after
    return (c :: more, last)
  | fuel + 1, c :: rest =>
    if c.toNat < 32 then stop .controlCharacter (c :: rest)
    else do
      let (more, last) ← readString opening fuel rest
      return (c :: more, last)

def readText (rest : List Char) : Except ReadFault (String × List Char) := do
  let (chars, after) ← readString (rest.length + 1) (rest.length + 1) rest
  return (String.ofList chars, after)

def readWhole? : List Char → Option (List Char × List Char)
  | '0' :: rest => some (['0'], rest)
  | chars =>
    let digits := chars.takeWhile Char.isDigit
    if digits.isEmpty then none else some (digits, chars.dropWhile Char.isDigit)

def readFraction? : List Char → Option (List Char × List Char)
  | '.' :: rest =>
    let digits := rest.takeWhile Char.isDigit
    if digits.isEmpty then none else some (digits, rest.dropWhile Char.isDigit)
  | _ => none

def readExponent? : List Char → Option (Int × List Char)
  | e :: rest =>
    if e == 'e' || e == 'E' then
      let (negative, rest) := match rest with
        | '-' :: more => (true, more)
        | '+' :: more => (false, more)
        | _ => (false, rest)
      let digits := rest.takeWhile Char.isDigit
      if digits.isEmpty then none
      else
        let size : Int := Source.Number.ofDigits 10 digits
        some (if negative then -size else size, rest.dropWhile Char.isDigit)
    else none
  | [] => none

def readSign : List Char → Bool × List Char
  | '-' :: rest => (true, rest)
  | chars => (false, chars)

def readNumber? (chars : List Char) : Option (Value × List Char) := do
  let (negative, chars) := readSign chars
  let (whole, rest) ← readWhole? chars
  let fraction := readFraction? rest
  let rest := (fraction.map Prod.snd).getD rest
  let exponent := readExponent? rest
  let rest := (exponent.map Prod.snd).getD rest
  if fraction.isNone && exponent.isNone then
    if Source.Number.maxDigits < whole.length then none
    else
      let size : Int := Source.Number.ofDigits 10 whole
      return (.int (if negative then -size else size), rest)
  else
    let digits := (fraction.map Prod.fst).getD []
    let power := (exponent.map Prod.fst).getD 0
    return (.float (Decimal.ofDecimal negative (Source.Number.ofDigits 10 (whole ++ digits))
      (power - digits.length)), rest)

def wordValues : List (List Char × Value) :=
  [("null".toList, .null), ("true".toList, .bool true), ("false".toList, .bool false),
    ("NaN".toList, .float (0.0 / 0.0)), ("Infinity".toList, .float (1.0 / 0.0)),
    ("-Infinity".toList, .float (-1.0 / 0.0))]

def readWord? (chars : List Char) : Option (Value × List Char) :=
  (wordValues.find? fun entry => entry.1.isPrefixOf chars).map fun entry =>
    (entry.2, chars.drop entry.1.length)

mutual

def readValue : Nat → List Char → Except ReadFault (Value × List Char)
  | 0, rest => stop .noValue rest
  | fuel + 1, chars =>
    match chars with
    | '"' :: rest => do
      let (text, after) ← readText rest
      return (.str text, after)
    | '\x7b' :: rest =>
      match skipBlanks rest with
      | '\x7d' :: after => .ok (.dict .plain [], after)
      | inner => do
        let (entries, after) ← readMembers fuel [] inner
        return (.dict .plain entries, after)
    | '[' :: rest =>
      match skipBlanks rest with
      | ']' :: after => .ok (.list [], after)
      | inner => do
        let (items, after) ← readItems fuel inner
        return (.list items, after)
    | _ =>
      match (readWord? chars).orElse fun _ => readNumber? chars with
      | some found => .ok found
      | none => stop .noValue chars

def readMembers : Nat → Entries → List Char → Except ReadFault (Entries × List Char)
  | 0, _, rest => stop .noPropertyName rest
  | fuel + 1, found, '"' :: rest => do
    let (key, after) ← readText rest
    match skipBlanks after with
    | ':' :: more =>
      let (value, last) ← readValue fuel (skipBlanks more)
      let found := Value.putEntry (.str key) value found
      match skipBlanks last with
      | ',' :: next => readMembers fuel found (skipBlanks next)
      | '\x7d' :: next => return (found, next)
      | other => stop .noComma other
    | other => stop .noColon other
  | _ + 1, _, rest => stop .noPropertyName rest

def readItems : Nat → List Char → Except ReadFault ((List Value) × List Char)
  | 0, rest => stop .noValue rest
  | fuel + 1, chars => do
    let (first, last) ← readValue fuel chars
    match skipBlanks last with
    | ',' :: next =>
      let (more, rest) ← readItems fuel (skipBlanks next)
      return (first :: more, rest)
    | ']' :: next => return ([first], next)
    | other => stop .noComma other

end

def parse (text : String) : Except ReadFault Value := do
  let chars := text.toList
  if chars.head? == some '\ufeff' then stop .byteOrderMark chars
  else
    let (value, rest) ← readValue (chars.length + 1) (skipBlanks chars)
    match skipBlanks rest with
    | [] => return value
    | extra => stop .extraData extra

/-- Where a fault is: line and column, counted from one, and the number of characters before it. -/
def ReadFault.message (fault : ReadFault) (text : String) : String :=
  let before := text.toList.take (text.length - fault.left)
  let line := before.count '\n' + 1
  let column := (before.reverse.takeWhile (· != '\n')).length + 1
  s!"{fault.problem.text}: line {line} column {column} (char {before.length})"

def load (text : String) : Outcome Value :=
  match parse text with
  | .ok value => .ok value
  | .error fault => .error (.malformedJson (fault.message text))

def textIn : Value → Outcome String
  | .str text => .ok text
  | other => .error (.wrongType
    s!"the JSON object must be str, bytes or bytearray, not {other.kindName}")

def loadValue (value : Value) : Outcome Value := do
  load (← textIn value)

def read (text : String) : Option Value :=
  (parse text).toOption

end ErpLens.Json
