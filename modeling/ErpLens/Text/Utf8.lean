/-!
# UTF-8

Decoding of bytes in UTF-8, strictly or leaving out what is malformed. A byte that starts no
character is left out by itself, so the bytes of a cut character go one after the other.
-/

namespace ErpLens.Text

def continuation? (byte : UInt8) : Option Nat :=
  let code := byte.toNat
  if 0x80 ≤ code ∧ code < 0xc0 then some (code - 0x80) else none

/-- The character at the start of some bytes, and the bytes after it. Only the shortest encoding of
a character counts, and surrogates have none. -/
def utf8Char? : List UInt8 → Option (Char × List UInt8)
  | [] => none
  | first :: rest =>
    let lead := first.toNat
    if lead < 0x80 then some (Char.ofNat lead, rest)
    else if 0xc2 ≤ lead ∧ lead < 0xe0 then
      match rest with
      | b :: rest => do
        let b ← continuation? b
        return (Char.ofNat ((lead - 0xc0) * 64 + b), rest)
      | _ => none
    else if 0xe0 ≤ lead ∧ lead < 0xf0 then
      match rest with
      | b :: c :: rest => do
        let b ← continuation? b
        let c ← continuation? c
        let code := ((lead - 0xe0) * 64 + b) * 64 + c
        if code < 0x800 ∨ (0xd800 ≤ code ∧ code < 0xe000) then none
        else return (Char.ofNat code, rest)
      | _ => none
    else if 0xf0 ≤ lead ∧ lead < 0xf5 then
      match rest with
      | b :: c :: d :: rest => do
        let b ← continuation? b
        let c ← continuation? c
        let d ← continuation? d
        let code := (((lead - 0xf0) * 64 + b) * 64 + c) * 64 + d
        if code < 0x10000 ∨ 0x110000 ≤ code then none else return (Char.ofNat code, rest)
      | _ => none
    else none

theorem length_of_utf8Char? {bytes rest : List UInt8} {c : Char}
    (found : utf8Char? bytes = some (c, rest)) : rest.length < bytes.length := by
  unfold utf8Char? at found
  simp only [bind, Option.bind, pure] at found
  repeat' split at found
  all_goals simp_all
  all_goals grind

/-- Decodes bytes strictly, after the characters in `found` (last first). -/
def decodeStrictFrom (bytes : List UInt8) (found : List Char) : Option (List Char) :=
  match bytes with
  | [] => some found.reverse
  | byte :: more =>
    match _read : utf8Char? (byte :: more) with
    | none => none
    | some (c, rest) => decodeStrictFrom rest (c :: found)
termination_by bytes.length
decreasing_by exact length_of_utf8Char? _read

def decodeUtf8? (bytes : List UInt8) : Option String :=
  (decodeStrictFrom bytes []).map String.ofList

def decodeLenientFrom (bytes : List UInt8) (found : List Char) : List Char :=
  match bytes with
  | [] => found.reverse
  | byte :: more =>
    match _read : utf8Char? (byte :: more) with
    | none => decodeLenientFrom more found
    | some (c, rest) => decodeLenientFrom rest (c :: found)
termination_by bytes.length
decreasing_by
  · exact Nat.lt_succ_self more.length
  · exact length_of_utf8Char? _read

def decodeUtf8Lenient (bytes : List UInt8) : String :=
  String.ofList (decodeLenientFrom bytes [])

def encodeUtf8 (text : String) : List UInt8 :=
  text.toUTF8.toList

end ErpLens.Text
