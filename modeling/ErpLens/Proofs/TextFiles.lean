import ErpLens.Text.Lines
import ErpLens.Text.Utf8

/-!
# Texts in files

A text goes into a file as the bytes of its characters, and comes out by decoding them and unifying
the line ends.
-/

open List

namespace ErpLens.Text

/-! ## Bytes of a text -/

theorem byteArray_loop_eq (bytes : ByteArray) (i : Nat) (found : List UInt8) :
    ByteArray.toList.loop bytes i found = found.reverse ++ bytes.data.toList.drop i := by
  fun_induction ByteArray.toList.loop bytes i found with
  | case1 i found inside ih =>
    have bound : i < bytes.data.toList.length := by simpa using inside
    rw [ih, drop_eq_getElem_cons bound]
    simp [ByteArray.get!, inside]
  | case2 i found outside =>
    have drained : bytes.data.toList.drop i = [] := by
      simpa [drop_eq_nil_iff] using Nat.le_of_not_lt outside
    rw [drained, append_nil]

theorem encodeUtf8_eq (text : String) :
    encodeUtf8 text = text.toList.flatMap String.utf8EncodeChar := by
  rw [encodeUtf8, String.toUTF8_eq_toByteArray, ← String.utf8Encode_toList, ByteArray.toList,
    byteArray_loop_eq, List.utf8Encode]
  simp

/-! ## Decoding what was encoded -/

theorem toNat_byte {code : Nat} (small : code < 256) : (UInt8.ofNat code).toNat = code := by
  simp [Nat.mod_eq_of_lt small]

theorem continuation?_eq {value : Nat} (small : value < 64) :
    continuation? (UInt8.ofNat (value + 128)) = some value := by
  unfold continuation?
  rw [toNat_byte (by omega), if_pos (by omega)]
  simp

theorem utf8Char?_encodeChar (c : Char) (rest : List UInt8) :
    utf8Char? (String.utf8EncodeChar c ++ rest) = some (c, rest) := by
  have valid : c.toNat < 0xd800 ∨ (0xdfff < c.toNat ∧ c.toNat < 0x110000) := c.valid
  have again := Char.ofNat_toNat c
  simp only [String.utf8EncodeChar, Char.toNat_val]
  generalize c.toNat = code at valid again
  split
  · simp only [cons_append, nil_append, utf8Char?]
    rw [toNat_byte (by omega), if_pos (by omega), again]
  · split
    · simp only [cons_append, nil_append, utf8Char?]
      rw [toNat_byte (by omega), if_neg (by omega), if_pos (by omega), continuation?_eq (by omega)]
      have whole : (code / 64 % 32 + 192 - 0xc0) * 64 + code % 64 = code := by omega
      simp only [bind, Option.bind, pure, whole, again]
    · split
      · simp only [cons_append, nil_append, utf8Char?]
        rw [toNat_byte (by omega), if_neg (by omega), if_neg (by omega), if_pos (by omega),
          continuation?_eq (by omega), continuation?_eq (by omega)]
        have whole : ((code / 4096 % 16 + 224 - 0xe0) * 64 + code / 64 % 64) * 64 + code % 64 =
            code := by
          omega
        simp only [bind, Option.bind, pure, whole, again]
        rw [if_neg (by omega)]
      · simp only [cons_append, nil_append, utf8Char?]
        rw [toNat_byte (by omega), if_neg (by omega), if_neg (by omega), if_neg (by omega),
          if_pos (by omega), continuation?_eq (by omega), continuation?_eq (by omega),
          continuation?_eq (by omega)]
        have whole : (((code / 262144 % 8 + 240 - 0xf0) * 64 + code / 4096 % 64) * 64 +
            code / 64 % 64) * 64 + code % 64 = code := by
          omega
        simp only [bind, Option.bind, pure, whole, again]
        rw [if_neg (by omega)]

theorem decodeStrictFrom_encode (chars found : List Char) :
    decodeStrictFrom (chars.flatMap String.utf8EncodeChar) found =
      some (found.reverse ++ chars) := by
  induction chars generalizing found with
  | nil => simp [decodeStrictFrom]
  | cons c others ih =>
    have read := utf8Char?_encodeChar c (others.flatMap String.utf8EncodeChar)
    rw [flatMap_cons]
    -- A character has at least one byte, so that the decoding goes on.
    cases encoded : String.utf8EncodeChar c ++ others.flatMap String.utf8EncodeChar with
    | nil => simp [String.utf8EncodeChar_ne_nil] at encoded
    | cons byte more =>
      rw [encoded] at read
      rw [decodeStrictFrom]
      split
      · rename_i failed
        simp [read] at failed
      · rename_i d after again
        rw [read] at again
        simp only [Option.some.injEq, Prod.mk.injEq] at again
        rcases again with ⟨rfl, rfl⟩
        rw [ih]
        simp

/-- Decoding undoes the encoding of every text. -/
theorem decodeUtf8?_encodeUtf8 (text : String) : decodeUtf8? (encodeUtf8 text) = some text := by
  rw [encodeUtf8_eq, decodeUtf8?, decodeStrictFrom_encode]
  simp

/-! ## Line ends -/

/-- A text without carriage returns stays as it is. -/
theorem unifyNewlines_eq {chars : List Char} (noReturn : '\r' ∉ chars) :
    unifyNewlines chars = chars := by
  fun_induction unifyNewlines chars with
  | case1 rest ih => simp at noReturn
  | case2 rest _ ih => simp at noReturn
  | case3 c rest _ _ ih =>
    rw [ih (fun mem => noReturn (mem_cons_of_mem _ mem))]
  | case4 => rfl

end ErpLens.Text
