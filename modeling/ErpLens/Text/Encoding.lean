import ErpLens.Text.Utf8

/-!
# Encodings of JSON files

A JSON file is in UTF-8, UTF-16 or UTF-32. Which one it is shows in its first bytes: a byte order
mark, or the zero bytes beside the first character, which is always an ASCII one.
-/

namespace ErpLens.Text

inductive Encoding where
  | utf8
  | markedUtf8
  /-- UTF-16 or UTF-32: the bytes of a unit, the larger one first or last, and whether a byte order
  mark comes first. -/
  | wide (bytes : Nat) (bigEndian marked : Bool)
deriving Repr, DecidableEq

def detectEncoding (bytes : List UInt8) : Encoding :=
  match bytes.map UInt8.toNat with
  | 0x00 :: 0x00 :: 0xfe :: 0xff :: _ => .wide 4 true true
  | 0xff :: 0xfe :: 0x00 :: 0x00 :: _ => .wide 4 false true
  | 0xfe :: 0xff :: _ => .wide 2 true true
  | 0xff :: 0xfe :: _ => .wide 2 false true
  | 0xef :: 0xbb :: 0xbf :: _ => .markedUtf8
  | a :: b :: c :: d :: _ =>
    if a = 0 then (if b = 0 then .wide 4 true false else .wide 2 true false)
    else if b = 0 then (if c = 0 ∧ d = 0 then .wide 4 false false else .wide 2 false false)
    else .utf8
  | [a, b] =>
    if a = 0 then .wide 2 true false else if b = 0 then .wide 2 false false else .utf8
  | _ => .utf8

def pairUnits (bigEndian : Bool) : List UInt8 → Option (List Nat)
  | [] => some []
  | a :: b :: rest => do
    let more ← pairUnits bigEndian rest
    return (if bigEndian then a.toNat * 256 + b.toNat else b.toNat * 256 + a.toNat) :: more
  | _ => none

def quadUnits (bigEndian : Bool) : List UInt8 → Option (List Nat)
  | [] => some []
  | a :: b :: c :: d :: rest => do
    let more ← quadUnits bigEndian rest
    let (a, b, c, d) := if bigEndian then (a, b, c, d) else (d, c, b, a)
    return (((a.toNat * 256 + b.toNat) * 256 + c.toNat) * 256 + d.toNat) :: more
  | _ => none

def charOf? (code : Nat) : Option Char :=
  if code < 0xd800 ∨ (0xe000 ≤ code ∧ code < 0x110000) then some (Char.ofNat code) else none

def ofPairs : List Nat → Option (List Char)
  | [] => some []
  | high :: low :: rest =>
    if 0xd800 ≤ high ∧ high < 0xdc00 ∧ 0xdc00 ≤ low ∧ low < 0xe000 then do
      let more ← ofPairs rest
      return Char.ofNat (0x10000 + (high - 0xd800) * 0x400 + (low - 0xdc00)) :: more
    else do
      let c ← charOf? high
      let more ← ofPairs (low :: rest)
      return c :: more
  | [unit] => (charOf? unit).map fun c => [c]

def decodeAs? (encoding : Encoding) (bytes : List UInt8) : Option String :=
  match encoding with
  | .utf8 => decodeUtf8? bytes
  | .markedUtf8 => decodeUtf8? (bytes.drop 3)
  | .wide 4 bigEndian marked => do
    let units ← quadUnits bigEndian (bytes.drop (if marked then 4 else 0))
    let chars ← units.mapM charOf?
    return String.ofList chars
  | .wide _ bigEndian marked => do
    let units ← pairUnits bigEndian (bytes.drop (if marked then 2 else 0))
    let chars ← ofPairs units
    return String.ofList chars

end ErpLens.Text
