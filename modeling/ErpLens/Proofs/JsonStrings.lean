import ErpLens.Json.Read
import ErpLens.Json.Write

/-!
# Reading written JSON strings

Every character of a string is written in a form of its own, and no form is the start of another. So
one character is read at a time, whatever follows it.
-/

open List

namespace ErpLens.Json

/-! ## Units of four digits -/

theorem hexValue?_digitChar : ∀ digit < 16, Text.hexValue? (Nat.digitChar digit) = some digit := by
  decide

/-- The four hexadecimal digits of a unit. -/
def unitDigits (unit : Nat) : List Char :=
  [(unit / 4096).digitChar, (unit / 256 % 16).digitChar, (unit / 16 % 16).digitChar,
    (unit % 16).digitChar]

variable {unit : Nat}

theorem toList_hexDigits (small : unit < 0x10000) :
    (Text.hexDigits 4 unit).toList = unitDigits unit := by
  have zero (value : Nat) (isZero : value = 0) : '0' = value.digitChar := by
    rw [isZero]
    rfl
  have base : 1 < 16 := by omega
  rw [Text.hexDigits, String.toList_ofList, unitDigits]
  by_cases first : unit < 16
  · rw [Nat.toDigits_of_lt_base first, ← zero (unit / 4096) (by omega),
      ← zero (unit / 256 % 16) (by omega), ← zero (unit / 16 % 16) (by omega),
      Nat.mod_eq_of_lt first]
    rfl
  · rw [Nat.toDigits_of_base_le base (by omega)]
    by_cases second : unit / 16 < 16
    · rw [Nat.toDigits_of_lt_base second, ← zero (unit / 4096) (by omega),
        ← zero (unit / 256 % 16) (by omega), Nat.mod_eq_of_lt second]
      rfl
    · rw [Nat.toDigits_of_base_le base (by omega), Nat.div_div_eq_div_mul]
      by_cases third : unit / 256 < 16
      · rw [Nat.toDigits_of_lt_base third, ← zero (unit / 4096) (by omega), Nat.mod_eq_of_lt third]
        rfl
      · rw [Nat.toDigits_of_base_le base (by omega), Nat.div_div_eq_div_mul,
          Nat.toDigits_of_lt_base (by omega)]
        rfl

theorem readUnit?_unitDigits (small : unit < 0x10000) (next : Char) (rest : List Char) :
    readUnit? (unitDigits unit ++ next :: rest) = some (unit, next :: rest) := by
  have whole : ((unit / 4096 * 16 + unit / 256 % 16) * 16 + unit / 16 % 16) * 16 + unit % 16 =
      unit := by
    omega
  simp only [unitDigits, cons_append, nil_append, readUnit?]
  rw [hexValue?_digitChar _ (by omega), hexValue?_digitChar _ (by omega),
    hexValue?_digitChar _ (by omega), hexValue?_digitChar _ (by omega)]
  simp [bind, pure, whole]

theorem toList_unitEscape (small : unit < 0x10000) :
    (unitEscape unit).toList = '\\' :: 'u' :: unitDigits unit := by
  rw [unitEscape, String.toList_append, toList_hexDigits small]
  rfl

/-! ## Forms of a character -/

variable (c : Char)

/-- A character with a form of its own in ASCII. -/
def Printable : Prop :=
  32 ≤ c.toNat ∧ c.toNat < 127

instance decidablePrintable (c : Char) : Decidable (Printable c) :=
  inferInstanceAs (Decidable (_ ∧ _))

/-- The forms in which a character is written. -/
inductive CharForm (c : Char) : List Char → Prop
  | short {escaped : Char} (printable : Printable escaped)
      (back : ∀ more, readEscape (escaped :: more) = .ok (c, more)) : CharForm c ['\\', escaped]
  | plain (notQuote : c ≠ '"') (notBackslash : c ≠ '\\') (printable : Printable c) :
      CharForm c [c]
  | unit (small : c.toNat < 0x10000) : CharForm c (unitEscape c.toNat).toList
  | pair (large : 0x10000 ≤ c.toNat) :
      CharForm c ((unitEscape (0xd800 + (c.toNat - 0x10000) / 0x400)).toList ++
        (unitEscape (0xdc00 + (c.toNat - 0x10000) % 0x400)).toList)

theorem charForm : CharForm c (charText c).toList := by
  have short {d escaped : Char} (same : c = d) (written : (charText d).toList = ['\\', escaped])
      (printable : Printable escaped)
      (back : ∀ more, readEscape (escaped :: more) = .ok (d, more)) :
      CharForm c (charText c).toList := by
    rw [same, written]
    exact .short printable back
  by_cases quote : c = '"'
  · exact short quote rfl (by decide) fun _ => rfl
  by_cases backslash : c = '\\'
  · exact short backslash rfl (by decide) fun _ => rfl
  by_cases lineFeed : c = '\n'
  · exact short lineFeed rfl (by decide) fun _ => rfl
  by_cases return_ : c = '\r'
  · exact short return_ rfl (by decide) fun _ => rfl
  by_cases tab : c = '\t'
  · exact short tab rfl (by decide) fun _ => rfl
  by_cases formFeed : c = '\x0c'
  · exact short formFeed rfl (by decide) fun _ => rfl
  by_cases backspace : c = '\x08'
  · exact short backspace rfl (by decide) fun _ => rfl
  have notFormFeed : c.toNat ≠ 12 := fun same => formFeed (Char.toNat_inj.mp same)
  have notBackspace : c.toNat ≠ 8 := fun same => backspace (Char.toNat_inj.mp same)
  simp only [charText, beq_false_of_ne quote, beq_false_of_ne backslash, beq_false_of_ne lineFeed,
    beq_false_of_ne return_, beq_false_of_ne tab, beq_false_of_ne notFormFeed,
    beq_false_of_ne notBackspace, Bool.false_eq_true, if_false, Bool.and_eq_true, decide_eq_true_eq]
  split
  · rename_i printable
    rw [String.toList_singleton]
    exact .plain quote backslash printable
  split
  · rename_i small
    exact .unit small
  · rename_i large
    rw [String.toList_append]
    exact .pair (Nat.le_of_not_lt large)

/-! ## One character -/

def afterChar (read : Except ReadFault ((List Char) × List Char)) :
    Except ReadFault ((List Char) × List Char) :=
  read.map fun (chars, rest) => (c :: chars, rest)

theorem readString_of_escape {escaped : Char} {chars more : List Char} {c : Char}
    (read : readEscape (escaped :: chars) = .ok (c, more)) (opening fuel : Nat) :
    readString opening (fuel + 1) ('\\' :: escaped :: chars) =
      afterChar c (readString opening fuel more) := by
  rw [readString]
  · rw [read]
    rfl
  · simp

theorem readEscape_unit (chars : List Char) :
    readEscape ('u' :: chars) = readUnitEscape chars := rfl

theorem readUnitEscape_single (small : unit < 0xd800 ∨ 0xdfff < unit ∧ unit < 0x10000) (next : Char)
    (rest : List Char) :
    readUnitEscape (unitDigits unit ++ next :: rest) = .ok (Char.ofNat unit, next :: rest) := by
  rw [readUnitEscape, readUnit?_unitDigits (by omega)]
  simp only
  rw [if_neg (by omega)]

theorem readUnitEscape_pair {code : Nat} (large : 0x10000 ≤ code) (bound : code < 0x110000)
    (next : Char) (rest : List Char) :
    readUnitEscape (unitDigits (0xd800 + (code - 0x10000) / 0x400) ++ '\\' :: 'u' ::
      (unitDigits (0xdc00 + (code - 0x10000) % 0x400) ++ next :: rest)) =
      .ok (Char.ofNat code, next :: rest) := by
  have enough : ¬ (unitDigits (0xdc00 + (code - 0x10000) % 0x400) ++ next :: rest).length < 5 := by
    simp [unitDigits]
  have whole : 0x10000 + (0xd800 + (code - 0x10000) / 0x400 - 0xd800) * 0x400 +
      (0xdc00 + (code - 0x10000) % 0x400 - 0xdc00) = code := by
    omega
  rw [readUnitEscape, readUnit?_unitDigits (by omega)]
  simp only
  rw [if_pos (by omega), if_neg enough, readUnit?_unitDigits (by omega)]
  simp only
  rw [if_pos (by omega), whole]

theorem readString_charText (opening fuel : Nat) (c next : Char) (rest : List Char) :
    readString opening (fuel + 1) ((charText c).toList ++ next :: rest) =
      afterChar c (readString opening fuel (next :: rest)) := by
  have valid : c.toNat < 0xd800 ∨ (0xdfff < c.toNat ∧ c.toNat < 0x110000) := c.valid
  have again := Char.ofNat_toNat c
  have form := charForm c
  generalize (charText c).toList = written at form ⊢
  cases form with
  | short printable back => exact readString_of_escape (back _) opening fuel
  | plain notQuote notBackslash printable =>
    have least := printable.1
    rw [cons_append, nil_append, readString]
    · rw [if_neg (by omega)]
      rfl
    · exact notQuote
    · simp
    · exact notBackslash
  | unit small =>
    rw [toList_unitEscape small, cons_append, cons_append]
    refine readString_of_escape ?_ opening fuel
    rw [readEscape_unit, readUnitEscape_single (by omega), again]
  | pair large =>
    rw [toList_unitEscape (by omega), toList_unitEscape (by omega), append_assoc]
    refine readString_of_escape ?_ opening fuel
    rw [readEscape_unit]
    have pair := readUnitEscape_pair large (by omega) next rest
    rwa [again] at pair

/-! ## Strings -/

theorem readString_chars (opening : Nat) {fuel : Nat} {chars : List Char}
    (enough : chars.length < fuel) (rest : List Char) :
    readString opening fuel (chars.flatMap (fun c => (charText c).toList) ++ '"' :: rest) =
      .ok (chars, rest) := by
  induction chars generalizing fuel with
  | nil =>
    cases fuel with
    | zero => simp at enough
    | succ fuel => simp [readString]
  | cons c others ih =>
    cases fuel with
    | zero => simp at enough
    | succ fuel =>
      have later := ih (by simpa using enough)
      rw [flatMap_cons, append_assoc]
      -- What follows the character is its successor or the closing quote.
      cases follows : others.flatMap (fun c => (charText c).toList) ++ '"' :: rest with
      | nil => simp at follows
      | cons next more =>
        rw [readString_charText, ← follows, later]
        rfl

theorem toList_charText_ne_nil : (charText c).toList ≠ [] := by
  have escape (unit : Nat) : (unitEscape unit).toList ≠ [] := by
    simp [unitEscape]
  have form := charForm c
  generalize (charText c).toList = written at form ⊢
  cases form with
  | short printable back => simp
  | plain notQuote notBackslash printable => simp
  | unit small => exact escape _
  | pair large => simp [escape]

theorem length_le_length_written (chars : List Char) :
    chars.length ≤ (chars.flatMap fun c => (charText c).toList).length := by
  induction chars with
  | nil => simp
  | cons c others ih =>
    have place := length_pos_iff.mpr (toList_charText_ne_nil c)
    rw [flatMap_cons, length_append, length_cons]
    omega

variable (text : String)

/-- A string as it is written, without its quotes. -/
def writtenChars : List Char :=
  text.toList.flatMap fun c => (charText c).toList

theorem toList_stringText :
    (stringText text).toList = '"' :: (writtenChars text ++ ['"']) := by
  simp [stringText, writtenChars, flatMap_map]

/-- A written string is read back. -/
theorem readText_writtenChars (rest : List Char) :
    readText (writtenChars text ++ '"' :: rest) = .ok (text, rest) := by
  have enough : text.toList.length < (writtenChars text ++ '"' :: rest).length + 1 := by
    have := length_le_length_written text.toList
    rw [length_append, writtenChars]
    omega
  rw [writtenChars] at enough
  rw [readText, writtenChars, readString_chars _ enough]
  simp [bind, Except.bind, pure, Except.pure]

/-! ## Characters of a written string -/

theorem printable_digitChar : ∀ digit < 16, Printable (Nat.digitChar digit) := by
  decide

theorem printable_unitEscape (small : unit < 0x10000) :
    ∀ c ∈ (unitEscape unit).toList, Printable c := by
  rw [toList_unitEscape small, unitDigits]
  simp only [forall_mem_cons, not_mem_nil, false_implies, implies_true, and_true]
  exact ⟨by decide, by decide, printable_digitChar _ (by omega), printable_digitChar _ (by omega),
    printable_digitChar _ (by omega), printable_digitChar _ (by omega)⟩

theorem printable_charText : ∀ d ∈ (charText c).toList, Printable d := by
  have valid : c.toNat < 0xd800 ∨ (0xdfff < c.toNat ∧ c.toNat < 0x110000) := c.valid
  have form := charForm c
  generalize (charText c).toList = written at form ⊢
  cases form with
  | short printable back =>
    intro d mem
    simp only [mem_cons, not_mem_nil, or_false] at mem
    rcases mem with rfl | rfl
    · decide
    · exact printable
  | plain notQuote notBackslash printable =>
    intro d mem
    rwa [mem_singleton.mp mem]
  | unit small => exact printable_unitEscape small
  | pair large =>
    intro d mem
    rcases mem_append.mp mem with high | low
    · exact printable_unitEscape (by omega) d high
    · exact printable_unitEscape (by omega) d low

theorem printable_stringText : ∀ c ∈ (stringText text).toList, Printable c := by
  rw [toList_stringText]
  intro c mem
  simp only [writtenChars, mem_cons, mem_append, mem_flatMap, not_mem_nil, or_false] at mem
  rcases mem with rfl | ⟨d, -, mem⟩ | rfl
  · decide
  · exact printable_charText d c mem
  · decide

end ErpLens.Json
