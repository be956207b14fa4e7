import ErpLens.Messages.Units
import ErpLens.Proofs.TextFiles
import Mathlib

/-!
# Decoding line by line

Lines cut from bytes and decoded one by one are what decoding the whole file and cutting the text
would give: the byte of a line end stands for nothing but a line end.
-/

open List

namespace ErpLens.Text

/-! ## What decodes is an encoding -/

theorem continuation?_eq_some {byte : UInt8} {value : Nat}
    (found : continuation? byte = some value) :
    value < 64 ∧ byte = UInt8.ofNat (value + 128) := by
  simp only [continuation?] at found
  split at found
  · have same : byte.toNat = value + 128 := by grind
    refine ⟨by omega, ?_⟩
    rw [← same, UInt8.ofNat_toNat]
  · contradiction

theorem val_ofNat {code : Nat} (valid : code < 0xd800 ∨ (0xdfff < code ∧ code < 0x110000)) :
    (Char.ofNat code).val.toNat = code := by
  rw [Char.toNat_val, Char.toNat_ofNat, if_pos valid]

/-- Only the encoding of a character is read as it. -/
theorem eq_encodeChar {bytes rest : List UInt8} {c : Char}
    (found : utf8Char? bytes = some (c, rest)) : bytes = String.utf8EncodeChar c ++ rest := by
  cases bytes with
  | nil => simp [utf8Char?] at found
  | cons first more =>
    simp only [utf8Char?, Option.bind_eq_bind] at found
    split at found
    · obtain ⟨rfl, rfl⟩ : Char.ofNat first.toNat = c ∧ more = rest := by simpa using found
      rw [String.utf8EncodeChar, val_ofNat (by omega), if_pos (by omega), UInt8.ofNat_toNat]
      rfl
    split at found
    · split at found
      · obtain ⟨b, isB, same⟩ := Option.bind_eq_some_iff.mp found
        obtain ⟨smallB, rfl⟩ := continuation?_eq_some isB
        obtain ⟨rfl, rfl⟩ := by simpa using same
        rw [String.utf8EncodeChar, val_ofNat (by omega), if_neg (by omega), if_pos (by omega)]
        have lead : ((first.toNat - 0xc0) * 64 + b) / 64 % 32 + 192 = first.toNat := by omega
        have last : ((first.toNat - 0xc0) * 64 + b) % 64 = b := by omega
        rw [lead, last, UInt8.ofNat_toNat]
        rfl
      · contradiction
    split at found
    · split at found
      · obtain ⟨b, isB, found⟩ := Option.bind_eq_some_iff.mp found
        obtain ⟨d, isD, same⟩ := Option.bind_eq_some_iff.mp found
        obtain ⟨smallB, rfl⟩ := continuation?_eq_some isB
        obtain ⟨smallD, rfl⟩ := continuation?_eq_some isD
        split at same
        · contradiction
        obtain ⟨rfl, rfl⟩ := by simpa using same
        rw [String.utf8EncodeChar, val_ofNat (by omega), if_neg (by omega), if_neg (by omega),
          if_pos (by omega)]
        generalize coded : ((first.toNat - 0xe0) * 64 + b) * 64 + d = code
        have lead : code / 4096 % 16 + 224 = first.toNat := by omega
        have second : code / 64 % 64 = b := by omega
        have last : code % 64 = d := by omega
        rw [lead, second, last, UInt8.ofNat_toNat]
        rfl
      · contradiction
    split at found
    · split at found
      · obtain ⟨b, isB, found⟩ := Option.bind_eq_some_iff.mp found
        obtain ⟨d, isD, found⟩ := Option.bind_eq_some_iff.mp found
        obtain ⟨e, isE, same⟩ := Option.bind_eq_some_iff.mp found
        obtain ⟨smallB, rfl⟩ := continuation?_eq_some isB
        obtain ⟨smallD, rfl⟩ := continuation?_eq_some isD
        obtain ⟨smallE, rfl⟩ := continuation?_eq_some isE
        split at same
        · contradiction
        obtain ⟨rfl, rfl⟩ := by simpa using same
        rw [String.utf8EncodeChar, val_ofNat (by omega), if_neg (by omega), if_neg (by omega),
          if_neg (by omega)]
        generalize coded : (((first.toNat - 0xf0) * 64 + b) * 64 + d) * 64 + e = code
        have lead : code / 262144 % 8 + 240 = first.toNat := by omega
        have second : code / 4096 % 64 = b := by omega
        have third : code / 64 % 64 = d := by omega
        have last : code % 64 = e := by omega
        rw [lead, second, third, last, UInt8.ofNat_toNat]
        rfl
      · contradiction
    contradiction

theorem decodeStrictFrom_eq_some {bytes : List UInt8} {found chars : List Char}
    (decoded : decodeStrictFrom bytes found = some chars) :
    ∃ more, chars = found.reverse ++ more ∧ bytes = more.flatMap String.utf8EncodeChar := by
  fun_induction decodeStrictFrom bytes found with
  | case1 found =>
    cases decoded
    exact ⟨[], by simp, rfl⟩
  | case2 => contradiction
  | case3 found byte more c rest read ih =>
    obtain ⟨others, rfl, rfl⟩ := ih decoded
    exact ⟨c :: others, by simp, eq_encodeChar read⟩

/-- Bytes decode to a text exactly if they are its encoding. -/
theorem decodeUtf8?_eq_some_iff {bytes : List UInt8} {text : String} :
    decodeUtf8? bytes = some text ↔ encodeUtf8 text = bytes := by
  constructor
  · intro decoded
    obtain ⟨chars, read, rfl⟩ := Option.map_eq_some_iff.mp decoded
    obtain ⟨more, rfl, rfl⟩ := decodeStrictFrom_eq_some read
    simp [encodeUtf8_eq]
  · rintro rfl
    exact decodeUtf8?_encodeUtf8 text

/-! ## Lines of bytes and lines of characters -/

/-- Cutting loses no byte. -/
theorem flatten_cutAfter {α : Type} (isEnd : α → Bool) (items : List α) :
    (cutAfter isEnd items).flatten = items := by
  fun_induction cutAfter isEnd items with
  | case1 => rfl
  | case2 item rest _ ih => simp [ih]
  | case3 item rest _ none ih => simpa [none] using ih
  | case4 item rest _ line more cut ih => simpa [cut] using ih

/-- Items that are no ends stay together with the line after them. -/
theorem cutAfter_append {α : Type} {isEnd : α → Bool} {items : List α} (nonempty : items ≠ [])
    (inside : ∀ item ∈ items, isEnd item = false) (rest : List α) :
    cutAfter isEnd (items ++ rest) =
      match cutAfter isEnd rest with
      | [] => [items]
      | line :: more => (items ++ line) :: more := by
  induction items with
  | nil => contradiction
  | cons item others ih =>
    have notEnd := inside item mem_cons_self
    rw [cons_append, cutAfter, if_neg (by simp [notEnd])]
    rcases eq_or_ne others [] with rfl | more
    · rfl
    · rw [ih more (fun other mem => inside other (mem_cons_of_mem _ mem))]
      cases cutAfter isEnd rest <;> rfl

theorem ne_of_mem_encodeChar {c : Char} {byte : UInt8} (other : c ≠ '\n')
    (mem : byte ∈ String.utf8EncodeChar c) : (byte == 10) = false := by
  have notEnd : c.toNat ≠ 10 := fun same => other (Char.toNat_inj.mp same)
  have code : byte.toNat ≠ 10 := by
    simp only [String.utf8EncodeChar, Char.toNat_val] at mem
    generalize c.toNat = code at mem notEnd
    repeat' split at mem
    all_goals
      simp only [mem_cons, not_mem_nil, or_false] at mem
      rcases mem with rfl | rfl | rfl | rfl <;> simp <;> omega
  simpa [← UInt8.toNat_inj] using code

theorem cutAfter_encode (chars : List Char) :
    cutAfter (· == 10) (chars.flatMap String.utf8EncodeChar) =
      (cutAfter (· == '\n') chars).map (·.flatMap String.utf8EncodeChar) := by
  induction chars with
  | nil => rfl
  | cons c rest ih =>
    rw [flatMap_cons, cutAfter]
    split
    · rename_i isEnd
      rw [beq_iff_eq.mp isEnd]
      simpa [String.utf8EncodeChar, cutAfter] using ih
    · rename_i notEnd
      rw [cutAfter_append String.utf8EncodeChar_ne_nil
        (fun byte => ne_of_mem_encodeChar (by simpa using notEnd)), ih]
      cases cutAfter (· == '\n') rest <;> simp

/-- Pieces without an empty one at the end. -/
def withoutLastEmpty : List (List Char) → List (List Char)
  | [] => []
  | [piece] => if piece.isEmpty then [] else [piece]
  | piece :: rest => piece :: withoutLastEmpty rest

theorem withoutLastEmpty_cons {piece : List Char} {pieces : List (List Char)}
    (more : pieces ≠ []) :
    withoutLastEmpty (piece :: pieces) = piece :: withoutLastEmpty pieces := by
  cases pieces with
  | nil => contradiction
  | cons => rfl

/-- The lines with their ends are the pieces between the ends. -/
theorem cutAfter_splitAt (chars : List Char) :
    List.Forall₂ (fun line piece => line = piece ∨ line = piece ++ ['\n'])
      (cutAfter (· == '\n') chars) (withoutLastEmpty (splitAt '\n' chars)) := by
  induction chars with
  | nil => exact .nil
  | cons c rest ih =>
    rw [cutAfter, splitAt]
    split
    · rename_i isEnd
      rw [beq_iff_eq.mp isEnd, if_pos rfl, withoutLastEmpty_cons (splitAt_ne_nil _ _)]
      exact .cons (.inr rfl) ih
    · rename_i notEnd
      rw [if_neg (by simpa using notEnd)]
      cases pieces : splitAt '\n' rest with
      | nil => exact absurd pieces (splitAt_ne_nil _ _)
      | cons piece others =>
        rw [pieces] at ih
        -- The character goes in front of the first piece; a first piece that was empty and last
        -- begins to count with it.
        cases others with
        | nil =>
          cases piece with
          | nil =>
            rw [forall₂_nil_right_iff.mp ih]
            exact .cons (.inl rfl) .nil
          | cons d piece =>
            obtain ⟨line, lines, here, below, cut⟩ := forall₂_cons_right_iff.mp ih
            rw [cut]
            exact .cons (here.imp (congrArg _) (congrArg _)) below
        | cons =>
          obtain ⟨line, lines, here, below, cut⟩ := forall₂_cons_right_iff.mp ih
          rw [cut]
          exact .cons (here.imp (congrArg _) (congrArg _)) below

theorem trim_append_end (line : List Char) : trim (line ++ ['\n']) = trim line := by
  simp only [trim, trimStart, trimEnd, dropWhile_append]
  split
  · rename_i blank
    rw [isEmpty_iff.mp blank]
    rfl
  · simp [show isBlank '\n' = true from rfl]

end ErpLens.Text

namespace ErpLens.Messages

/-! ## The units of a list -/

/-- The units of a decoded text: its lines, numbered from one. -/
def lineUnits (text : String) : List Unit_ :=
  ((Text.withoutLastEmpty (Text.splitAt '\n' text.toList)).zipIdx 1).map fun line =>
    { line := some line.2, message := .str (String.ofList (Text.trim line.1)), comments := [] }

theorem textOf_eq_ok_iff {bytes : List UInt8} {text : String} :
    textOf bytes = .ok text ↔ Text.encodeUtf8 text = bytes := by
  rw [← Text.decodeUtf8?_eq_some_iff, textOf]
  cases Text.decodeUtf8? bytes <;> simp

theorem textOf_encode (chars : List Char) :
    textOf (chars.flatMap String.utf8EncodeChar) = .ok (String.ofList chars) := by
  apply textOf_eq_ok_iff.mpr
  simp [Text.encodeUtf8_eq]

theorem textOf_error {bytes : List UInt8} {fault : Fault} (failed : textOf bytes = .error fault) :
    fault = undecodable := by
  rw [textOf] at failed
  split at failed <;> simp_all

theorem numberLines_encode {lines pieces : List (List Char)}
    (same : List.Forall₂ (fun line piece => line = piece ∨ line = piece ++ ['\n']) lines pieces)
    (first : Nat) :
    numberLines first (lines.map (·.flatMap String.utf8EncodeChar)) =
      .ok ((pieces.zipIdx first).map fun line =>
        { line := some line.2, message := .str (String.ofList (Text.trim line.1)),
          comments := [] }) := by
  induction same generalizing first with
  | nil => rfl
  | @cons line piece lines pieces here _ ih =>
    have trimmed : Text.trim line = Text.trim piece := by
      rcases here with rfl | rfl
      · rfl
      · exact Text.trim_append_end piece
    rw [map_cons, numberLines, textOf_encode, ih]
    simp [Text.trimmed, trimmed, bind, Except.bind, pure, Except.pure]

theorem listedLines_encode (text : String) :
    listedLines (Text.encodeUtf8 text) = .ok (lineUnits text) := by
  rw [listedLines, Text.encodeUtf8_eq, Text.cutAfter_encode]
  exact numberLines_encode (Text.cutAfter_splitAt _) 1

theorem numberLines_cases (first : Nat) (lines : List (List UInt8)) :
    numberLines first lines = .error undecodable ∨
      ∃ chars : List Char, lines.flatten = chars.flatMap String.utf8EncodeChar := by
  induction lines generalizing first with
  | nil => exact .inr ⟨[], rfl⟩
  | cons line rest ih =>
    rw [numberLines]
    cases decoded : textOf line with
    | error fault =>
      rw [textOf_error decoded]
      exact .inl rfl
    | ok text =>
      rcases ih (first + 1) with failed | ⟨chars, joined⟩
      · rw [failed]
        exact .inl rfl
      · right
        refine ⟨text.toList ++ chars, ?_⟩
        rw [flatten_cons, flatMap_append, joined, ← textOf_eq_ok_iff.mp decoded, Text.encodeUtf8_eq]

theorem listedLines_cases (bytes : List UInt8) :
    listedLines bytes = .error undecodable ∨ ∃ text, Text.encodeUtf8 text = bytes := by
  apply (numberLines_cases 1 _).imp_right
  rintro ⟨chars, joined⟩
  rw [Text.flatten_cutAfter] at joined
  exact ⟨String.ofList chars, by simp [Text.encodeUtf8_eq, joined]⟩

/-- A list is refused exactly if its bytes are not the encoding of a text, and otherwise gives one
unit for each line of that text: decoding the lines one by one is decoding the whole. -/
theorem listedLines_decode_whole :
    (∀ bytes, listedLines bytes = .error undecodable ↔ ∀ text, Text.encodeUtf8 text ≠ bytes) ∧
      (∀ text, listedLines (Text.encodeUtf8 text) = .ok (lineUnits text)) ∧
      ∀ bytes, listedLines bytes = (textOf bytes).map lineUnits := by
  have exact : ∀ bytes,
      listedLines bytes = .error undecodable ↔ ∀ text, Text.encodeUtf8 text ≠ bytes := by
    intro bytes
    constructor
    · rintro failed text rfl
      rw [listedLines_encode] at failed
      contradiction
    · intro invalid
      apply (listedLines_cases bytes).resolve_right
      rintro ⟨text, encoded⟩
      exact invalid text encoded
  refine ⟨exact, listedLines_encode, ?_⟩
  intro bytes
  cases decoded : textOf bytes with
  | ok text =>
    rw [← textOf_eq_ok_iff.mp decoded, listedLines_encode]
    rfl
  | error fault =>
    rw [textOf_error decoded, (exact bytes).mpr]
    · rfl
    · intro text encoded
      rw [textOf_eq_ok_iff.mpr encoded] at decoded
      contradiction

end ErpLens.Messages
