import ErpLens.Json.Read
import Mathlib.Data.List.Basic

/-!
# Reading written whole numbers

A whole number is read back where something follows that cannot belong to a number: a comma, the end
of a line, or nothing.
-/

open List

namespace ErpLens.Json

variable {rest : List Char}

open Source.Number

/-- What follows a number: a comma, a line end or nothing. -/
def Ends (rest : List Char) : Prop :=
  ∀ c ∈ rest.head?, c = ',' ∨ c = '\n'

theorem Ends.nil : Ends [] := by
  simp [Ends]

theorem Ends.comma (rest : List Char) : Ends (',' :: rest) := by
  simp [Ends]

theorem Ends.lineFeed (rest : List Char) : Ends ('\n' :: rest) := by
  simp [Ends]

theorem Ends.takeWhile (ends : Ends rest) : rest.takeWhile Char.isDigit = [] := by
  cases rest with
  | nil => rfl
  | cons c more => rcases ends c rfl with rfl | rfl <;> rfl

theorem Ends.dropWhile (ends : Ends rest) : rest.dropWhile Char.isDigit = rest := by
  cases rest with
  | nil => rfl
  | cons c more => rcases ends c rfl with rfl | rfl <;> rfl

theorem Ends.readFraction? (ends : Ends rest) : readFraction? rest = none := by
  cases rest with
  | nil => rfl
  | cons c more => rcases ends c rfl with rfl | rfl <;> rfl

theorem Ends.readExponent? (ends : Ends rest) : readExponent? rest = none := by
  cases rest with
  | nil => rfl
  | cons c more => rcases ends c rfl with rfl | rfl <;> rfl

/-! ## Digits -/

theorem toNat_of_isDigit {c : Char} (isDigit : c.isDigit = true) :
    48 ≤ c.toNat ∧ c.toNat ≤ 57 := by
  simp only [Char.isDigit, Bool.and_eq_true, decide_eq_true_eq, ge_iff_le,
    UInt32.le_iff_toNat_le] at isDigit
  exact isDigit

theorem isDigit_of_mem_digits {value : Nat} {c : Char} (mem : c ∈ Nat.toDigits 10 value) :
    c.isDigit = true :=
  Nat.isDigit_of_mem_toDigits (by omega) (by omega) mem

theorem ofDigits_toDigits (value : Nat) : ofDigits 10 (Nat.toDigits 10 value) = value := by
  have same : ofDigits 10 (Nat.toDigits 10 value) =
      Nat.ofDigitChars 10 (Nat.toDigits 10 value) 0 := by
    rw [ofDigits, Nat.ofDigitChars_eq_foldl]
    refine foldl_ext _ _ _ fun sum c mem => ?_
    simp [digitValue, isDigit_of_mem_digits mem, Nat.mul_comm]
  rw [same, Nat.ofDigitChars_ten_toDigits]

theorem head?_toDigits_ne {value : Nat} (positive : value ≠ 0) :
    (Nat.toDigits 10 value).head? ≠ some '0' := by
  induction value using Nat.strongRecOn with
  | ind value ih =>
    by_cases small : value < 10
    · rw [Nat.toDigits_of_lt_base small, head?_cons, ne_eq, Option.some.injEq,
        Nat.digitChar_eq_zero]
      exact positive
    · have fewer := ih (value / 10) (by omega) (by omega)
      rw [Nat.toDigits_of_base_le (by omega) (by omega),
        head?_append_of_ne_nil _ Nat.toDigits_ne_nil]
      exact fewer

theorem readWhole?_toDigits (value : Nat) (ends : Ends rest) :
    readWhole? (Nat.toDigits 10 value ++ rest) = some (Nat.toDigits 10 value, rest) := by
  by_cases isZero : value = 0
  · rw [isZero, Nat.toDigits_zero]
    rfl
  · have digits : ∀ c ∈ Nat.toDigits 10 value, c.isDigit = true := fun _ => isDigit_of_mem_digits
    have taken : (Nat.toDigits 10 value ++ rest).takeWhile Char.isDigit =
        Nat.toDigits 10 value := by
      rw [takeWhile_append_of_pos digits, ends.takeWhile, append_nil]
    have dropped : (Nat.toDigits 10 value ++ rest).dropWhile Char.isDigit = rest := by
      rw [dropWhile_append_of_pos digits, ends.dropWhile]
    unfold readWhole?
    split
    · rename_i chars starts
      have first : (Nat.toDigits 10 value ++ rest).head? ≠ some '0' := by
        rw [head?_append_of_ne_nil _ Nat.toDigits_ne_nil]
        exact head?_toDigits_ne isZero
      simp [starts] at first
    · simp only [taken, dropped]
      simp [Nat.toDigits_ne_nil]

/-! ## Numbers -/

/-- The number of decimal digits of a whole number is within the bound on what is read. -/
def Readable (value : Int) : Prop :=
  (Nat.toDigits 10 value.natAbs).length ≤ maxDigits

instance decidableReadable (value : Int) : Decidable (Readable value) :=
  inferInstanceAs (Decidable (_ ≤ _))

theorem toList_toString (value : Int) :
    (toString value).toList =
      if value < 0 then '-' :: Nat.toDigits 10 value.natAbs else Nat.toDigits 10 value.natAbs := by
  rw [Int.toString_eq_repr, Int.repr_eq_if]
  by_cases negative : value < 0
  · have size : (-value).toNat = value.natAbs := by omega
    rw [if_neg (by omega), if_pos negative, size, Nat.repr_eq_ofList_toDigits]
    simp
  · have size : value.toNat = value.natAbs := by omega
    rw [if_pos (by omega), if_neg negative, size, Nat.repr_eq_ofList_toDigits]
    simp

theorem exists_toDigits_eq_cons (value : Nat) :
    ∃ digit digits, Nat.toDigits 10 value = digit :: digits ∧ digit.isDigit = true := by
  cases written : Nat.toDigits 10 value with
  | nil => exact absurd written Nat.toDigits_ne_nil
  | cons digit digits =>
    exact ⟨digit, digits, rfl, isDigit_of_mem_digits (by rw [written]; exact mem_cons_self)⟩

theorem readSign_toString (value : Int) (rest : List Char) :
    readSign ((toString value).toList ++ rest) =
      (decide (value < 0), Nat.toDigits 10 value.natAbs ++ rest) := by
  rw [toList_toString]
  by_cases negative : value < 0
  · rw [if_pos negative, decide_eq_true negative]
    rfl
  · rcases exists_toDigits_eq_cons value.natAbs with ⟨digit, digits, written, isDigit⟩
    rw [if_neg negative, decide_eq_false negative, written, cons_append]
    unfold readSign
    split
    · rename_i starts
      rw [(List.cons.inj starts).1] at isDigit
      simp at isDigit
    · rfl

theorem readNumber?_of_whole {chars after whole : List Char} {negative : Bool}
    (sign : readSign chars = (negative, after)) (digits : readWhole? after = some (whole, rest))
    (short : whole.length ≤ maxDigits) (ends : Ends rest) :
    readNumber? chars =
      some (.int (if negative then -(ofDigits 10 whole : Int) else ofDigits 10 whole), rest) := by
  unfold readNumber?
  rw [sign]
  simp only [Option.bind_eq_bind]
  rw [digits, Option.bind_some]
  simp only [ends.readFraction?, ends.readExponent?, Option.map_none, Option.getD_none,
    Option.isNone_none, Bool.and_self, if_true]
  rw [if_neg (Nat.not_lt.mpr short)]
  rfl

/-- A whole number that is not too long is read back. -/
theorem readNumber?_toString {value : Int} (readable : Readable value) (ends : Ends rest) :
    readNumber? ((toString value).toList ++ rest) = some (.int value, rest) := by
  have signed : (if decide (value < 0) then -(value.natAbs : Int) else value.natAbs) = value := by
    by_cases below : value < 0
    · rw [if_pos (decide_eq_true below)]
      omega
    · rw [if_neg (by simpa using below)]
      omega
  rw [readNumber?_of_whole (readSign_toString value rest) (readWhole?_toDigits value.natAbs ends)
    readable ends, ofDigits_toDigits, signed]

theorem readWord?_toString (value : Int) (rest : List Char) :
    readWord? ((toString value).toList ++ rest) = none := by
  rcases exists_toDigits_eq_cons value.natAbs with ⟨digit, digits, written, isDigit⟩
  have ne (c : Char) (letter : c.isDigit = false) : c ≠ digit := by
    rintro rfl
    simp [isDigit] at letter
  rw [toList_toString, written, readWord?, Option.map_eq_none_iff, find?_eq_none]
  intro entry entryMem
  simp only [wordValues, mem_cons, not_mem_nil, or_false] at entryMem
  by_cases negative : value < 0
  · rw [if_pos negative]
    rcases entryMem with rfl | rfl | rfl | rfl | rfl | rfl <;>
      simp [List.isPrefixOf, ne 'I' rfl]
  · rw [if_neg negative]
    rcases entryMem with rfl | rfl | rfl | rfl | rfl | rfl <;>
      simp [List.isPrefixOf, ne 'n' rfl, ne 't' rfl, ne 'f' rfl, ne 'N' rfl, ne 'I' rfl, ne '-' rfl]

end ErpLens.Json
