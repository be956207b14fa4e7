import ErpLens.Text.CharKind

/-!
# Quoted texts

The quote is `'`, or `"` when the text holds `'` and no `"`. Backslashes, the quote itself and
characters that are not printable are escaped. Texts are lists of code points here, since a literal
may hold code points that are no characters.
-/

namespace ErpLens.Text

def codePoints (text : String) : List Nat :=
  text.toList.map Char.toNat

/-- A text with given code points. One half of a surrogate pair is no character and cannot stand in
a text; a NUL character takes its place. -/
def ofCodePoints (codes : List Nat) : String :=
  String.ofList (codes.map Char.ofNat)

def hexDigits (width value : Nat) : String :=
  let digits := Nat.toDigits 16 value
  String.ofList (List.replicate (width - digits.length) '0' ++ digits)

def numericEscape (code : Nat) : String :=
  if code < 0x100 then "\\x" ++ hexDigits 2 code
  else if code < 0x10000 then "\\u" ++ hexDigits 4 code
  else "\\U" ++ hexDigits 8 code

/-- The escape for a code point that may not stand as it is: the short one if there is one. -/
def escapeCode (code : Nat) : String :=
  if code = 9 then "\\t"
  else if code = 10 then "\\n"
  else if code = 13 then "\\r"
  else if code = 92 then "\\\\"
  else numericEscape code

def quotedCode (quote code : Nat) : String :=
  if code = quote then "\\" ++ String.singleton (Char.ofNat code)
  else if code = 92 || !isPrintableCode code then escapeCode code
  else String.singleton (Char.ofNat code)

def chooseQuote (codes : List Nat) : Nat :=
  if codes.contains 39 && !codes.contains 34 then 34 else 39

def quotedBody (codes : List Nat) : String :=
  String.join (codes.map (quotedCode (chooseQuote codes)))

def quoteCodes (codes : List Nat) : String :=
  let quote := String.singleton (Char.ofNat (chooseQuote codes))
  quote ++ quotedBody codes ++ quote

def quote (text : String) : String :=
  quoteCodes (codePoints text)

def quotedByte (quote byte : Nat) : String :=
  if byte = quote then "\\" ++ String.singleton (Char.ofNat byte)
  else if byte = 92 || byte < 32 || 127 ≤ byte then escapeCode byte
  else String.singleton (Char.ofNat byte)

def quoteBytes (bytes : List Nat) : String :=
  let code := chooseQuote bytes
  let quote := String.singleton (Char.ofNat code)
  "b" ++ quote ++ String.join (bytes.map (quotedByte code)) ++ quote

end ErpLens.Text
