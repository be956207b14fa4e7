import ErpLens.Accounts.Bank
import ErpLens.Proofs.FolderNames

/-!
# Statement numbers are cut line by line

The blanks behind a statement number may be line ends, so what is taken for one number can run over
many lines. A blank line holds no number, so nothing is missed.
-/

open List hiding splitAt

namespace ErpLens.Text

/-! ## Blanks and digits -/

theorem CharSet.exists_of_search {ranges : Array CodeRange} {code low high : Nat}
    (found : search ranges code low high = true) : ∃ range ∈ ranges, range.Contains code := by
  fun_induction search ranges code low high with
  | case1 => cases found
  | case2 low high inside middle range read below ih => exact ih found
  | case3 low high inside middle range read notBelow above ih => exact ih found
  | case4 low high inside middle range read notBelow notAbove =>
    exact ⟨range, Array.mem_of_getElem? read, by omega, by omega⟩
  | case5 => cases found

theorem exists_zero_of_isDigit {c : Char} (digit : isDigit c = true) :
    ∃ first ∈ zeros, first ≤ c.toNat ∧ c.toNat ≤ first + 9 := by
  rcases CharSet.exists_of_search digit with ⟨range, rangeMem, inside⟩
  simp only [digitSet, mem_toArray, mem_map] at rangeMem
  rcases rangeMem with ⟨first, firstMem, rfl⟩
  exact ⟨first, firstMem, inside⟩

/-- The code points of blanks. -/
def blankCodes : List Nat :=
  [9, 10, 11, 12, 13, 28, 29, 30, 31, 32, 0x85, 0xa0, 0x1680, 0x2000, 0x2001, 0x2002, 0x2003,
    0x2004, 0x2005, 0x2006, 0x2007, 0x2008, 0x2009, 0x200a, 0x2028, 0x2029, 0x202f, 0x205f, 0x3000]

theorem toNat_mem_blankCodes {c : Char} (blank : isBlank c = true) : c.toNat ∈ blankCodes := by
  simp only [isBlank, Bool.or_eq_true, Bool.and_eq_true, decide_eq_true_eq, beq_iff_eq] at blank
  simp only [blankCodes, mem_cons, not_mem_nil, or_false]
  omega

theorem isDigit_eq_false_of_isBlank {c : Char} (blank : isBlank c = true) : isDigit c = false := by
  have apart : ∀ first ∈ zeros, ∀ code ∈ blankCodes, ¬(first ≤ code ∧ code ≤ first + 9) := by
    decide +kernel
  rw [Bool.eq_false_iff]
  intro digit
  rcases exists_zero_of_isDigit digit with ⟨first, firstMem, inside⟩
  exact apart first firstMem _ (toNat_mem_blankCodes blank) inside

theorem isDigit_slash : isDigit '/' = false := by
  have apart : ∀ first ∈ zeros, ¬(first ≤ 47 ∧ 47 ≤ first + 9) := by decide +kernel
  rw [Bool.eq_false_iff]
  intro digit
  rcases exists_zero_of_isDigit digit with ⟨first, firstMem, inside⟩
  exact apart first firstMem inside

end ErpLens.Text

namespace ErpLens.Accounts.Bank

variable {blanks chars rest sequence digits : List Char}

open Text

/-! ## Parts of a line with a number -/

def AreDigits (chars : List Char) : Prop :=
  ∀ c ∈ chars, isDigit c = true

def AreBlanks (chars : List Char) : Prop :=
  ∀ c ∈ chars, isBlank c = true

/-- The part of a statement number behind a slash, which may be missing. -/
inductive IsSequence : List Char → Prop
  | none : IsSequence []
  | number {digits : List Char} (nonempty : digits ≠ []) (areDigits : AreDigits digits) :
      IsSequence ('/' :: digits)

/-- The next character, if any, is a blank. -/
def StartsBlank (chars : List Char) : Prop :=
  ∀ c ∈ chars.head?, isBlank c = true

/-- The next character, if any, is a line end. -/
def AtLineEnd (chars : List Char) : Prop :=
  ∀ c ∈ chars.head?, c = '\n'

theorem AreBlanks.startsBlank (areBlanks : AreBlanks blanks) : StartsBlank blanks :=
  fun c isFirst => areBlanks c (mem_of_head? isFirst)

theorem AtLineEnd.startsBlank (lineEnd : AtLineEnd chars) : StartsBlank chars := by
  intro c isFirst
  rw [lineEnd c isFirst]
  rfl

theorem StartsBlank.append (areBlanks : AreBlanks blanks) (startsBlank : StartsBlank rest) :
    StartsBlank (blanks ++ rest) := by
  cases blanks with
  | nil => exact startsBlank
  | cons c others =>
    intro first isFirst
    exact areBlanks first (mem_of_head? isFirst)

theorem span_append {test : Char → Bool} (pass : ∀ c ∈ chars, test c = true)
    (stop : ∀ c ∈ rest.head?, test c = false) :
    (chars ++ rest).takeWhile test = chars ∧ (chars ++ rest).dropWhile test = rest := by
  rw [takeWhile_append_of_pos pass, dropWhile_append_of_pos pass]
  cases rest with
  | nil => simp
  | cons c others =>
    have stopped : test c = false := stop c rfl
    simp [stopped]

theorem IsSequence.stop (isSequence : IsSequence sequence) (startsBlank : StartsBlank rest) :
    ∀ c ∈ (sequence ++ rest).head?, isDigit c = false := by
  cases isSequence with
  | none => exact fun c isFirst => isDigit_eq_false_of_isBlank (startsBlank c isFirst)
  | number _ _ =>
    rintro c ⟨⟩
    exact isDigit_slash

theorem sequenceOf_append (isSequence : IsSequence sequence) (startsBlank : StartsBlank rest) :
    sequenceOf (sequence ++ rest) = (sequence, rest) := by
  cases isSequence with
  | none =>
    cases rest with
    | nil => rfl
    | cons c others =>
      have noSlash : c ≠ '/' := by
        rintro rfl
        exact absurd (startsBlank '/' rfl) (by decide)
      rw [nil_append, sequenceOf]
      rintro tail ⟨⟩
      exact noSlash rfl
  | @number digits nonempty areDigits =>
    have stop : ∀ c ∈ rest.head?, isDigit c = false :=
      fun c isFirst => isDigit_eq_false_of_isBlank (startsBlank c isFirst)
    rcases span_append areDigits stop with ⟨taken, dropped⟩
    rw [cons_append, sequenceOf, taken, dropped]
    simp [nonempty]

theorem sequenceOf_parts (chars : List Char) :
    (sequenceOf chars).1 ++ (sequenceOf chars).2 = chars ∧ IsSequence (sequenceOf chars).1 := by
  unfold sequenceOf
  split
  · rename_i rest
    dsimp only
    split
    · exact ⟨rfl, .none⟩
    · rename_i nonempty
      refine ⟨?_, .number (by simpa using nonempty) fun c => mem_takeWhile_imp⟩
      rw [cons_append, takeWhile_append_dropWhile]
  · exact ⟨rfl, .none⟩

theorem longNumber?_parts (areDigits : AreDigits digits) (isSequence : IsSequence sequence)
    (startsBlank : StartsBlank rest) :
    longNumber? (numberTag ++ digits ++ sequence ++ rest) =
      if digits.length ≤ numberLength then none else some ⟨digits, sequence, rest⟩ := by
  rcases span_append areDigits (isSequence.stop startsBlank) with ⟨taken, dropped⟩
  have isPrefix : numberTag.isPrefixOf (numberTag ++ digits ++ sequence ++ rest) = true := by
    simp [append_assoc]
  have behind : (numberTag ++ digits ++ sequence ++ rest).drop numberTag.length =
      digits ++ (sequence ++ rest) := by
    simp [append_assoc]
  rw [longNumber?, if_pos isPrefix]
  simp only [behind, taken, dropped, sequenceOf_append isSequence startsBlank]

theorem parts_of_longNumber? {field : NumberField} (read : longNumber? chars = some field) :
    chars = numberTag ++ field.digits ++ field.sequence ++ field.rest ∧
      numberLength < field.digits.length ∧ AreDigits field.digits ∧
      IsSequence field.sequence := by
  unfold longNumber? at read
  split at read
  · rename_i isPrefix
    rcases isPrefixOf_iff_prefix.mp isPrefix with ⟨behind, rfl⟩
    rw [drop_left] at read
    rcases sequenceOf_parts (behind.dropWhile isDigit) with ⟨parts, isSequence⟩
    dsimp only at read
    split at read
    · cases read
    · rename_i long
      cases read
      refine ⟨?_, Nat.lt_of_not_le long, fun c => mem_takeWhile_imp, isSequence⟩
      rw [append_assoc, append_assoc, parts, takeWhile_append_dropWhile]
  · cases read

/-! ## Blanks up to a line end -/

/-- The blanks up to the last line end among them are taken, or all of them if nothing follows. -/
theorem blanksToLineEnd_cases (chars : List Char) :
    (blanksToLineEnd chars = some (chars, []) ∧ AreBlanks chars) ∨
    (∃ blanks rest, blanksToLineEnd chars = some (blanks, '\n' :: rest) ∧
      chars = blanks ++ '\n' :: rest ∧ AreBlanks blanks) ∨
    (blanksToLineEnd chars = none ∧ chars.dropWhile isBlank ≠ [] ∧
      '\n' ∉ chars.takeWhile isBlank) := by
  have split : chars.takeWhile isBlank ++ chars.dropWhile isBlank = chars :=
    takeWhile_append_dropWhile
  have areBlanks : AreBlanks (chars.takeWhile isBlank) := fun c => mem_takeWhile_imp
  unfold blanksToLineEnd
  generalize chars.takeWhile isBlank = taken at split areBlanks
  cases left : chars.dropWhile isBlank with
  | nil =>
    rw [left, append_nil] at split
    exact .inl ⟨by rw [split], split ▸ areBlanks⟩
  | cons c others =>
    rw [left] at split
    dsimp only
    by_cases ended : '\n' ∈ taken
    · rcases exists_last_separator ended with ⟨blanks, after, rfl, free⟩
      refine .inr (.inl ⟨blanks, after ++ c :: others, ?_, ?_, ?_⟩)
      · have passed : ∀ d ∈ after.reverse, (d != '\n') = true := by
          intro d dMem
          simpa using fun same : d = '\n' => free (same ▸ mem_reverse.mp dMem)
        have lastLine : (after.reverse ++ '\n' :: blanks.reverse).takeWhile (· != '\n') =
            after.reverse := (span_append passed (by simp)).1
        have longer : after.length ≠ blanks.length + (after.length + 1) := by omega
        have kept : blanks.length + (after.length + 1) - after.length - 1 = blanks.length := by
          omega
        simp [lastLine, longer, kept]
      · simpa using split.symm
      · intro d dMem
        exact areBlanks d (by simp [dMem])
    · refine .inr (.inr ⟨?_, by simp, ended⟩)
      have all : taken.reverse.takeWhile (· != '\n') = taken.reverse := by
        rw [takeWhile_eq_self_iff]
        intro d dMem
        simpa using fun same : d = '\n' => ended (same ▸ mem_reverse.mp dMem)
      simp [all]

theorem parts_of_blanksToLineEnd (ended : blanksToLineEnd chars = some (blanks, rest)) :
    chars = blanks ++ rest ∧ AreBlanks blanks ∧ AtLineEnd rest := by
  rcases blanksToLineEnd_cases chars with
    ⟨toEnd, areBlanks⟩ | ⟨_, _, toLineEnd, parts, areBlanks⟩ | ⟨stopped, -⟩
  · cases toEnd.symm.trans ended
    exact ⟨by simp, areBlanks, by simp [AtLineEnd]⟩
  · cases toLineEnd.symm.trans ended
    exact ⟨parts, areBlanks, by simp [AtLineEnd]⟩
  · cases stopped.symm.trans ended

theorem exists_blanksToLineEnd (areBlanks : AreBlanks blanks) (lineEnd : AtLineEnd rest) :
    ∃ parts, blanksToLineEnd (blanks ++ rest) = some parts := by
  rcases blanksToLineEnd_cases (blanks ++ rest) with
    ⟨toEnd, -⟩ | ⟨_, _, toLineEnd, -⟩ | ⟨-, more, noLineEnd⟩
  · exact ⟨_, toEnd⟩
  · exact ⟨_, toLineEnd⟩
  · rw [takeWhile_append_of_pos areBlanks] at noLineEnd
    rw [dropWhile_append_of_pos areBlanks] at more
    cases rest with
    | nil => simp at more
    | cons c others =>
      cases lineEnd c rfl
      exact absurd noLineEnd (by simp [isBlank])

/-! ## Numbers in lines and in texts -/

/-- A number with more than five digits, perhaps a sequence number, and blanks. -/
structure IsLongNumber (digits sequence blanks : List Char) : Prop where
  long : 6 ≤ digits.length
  areDigits : AreDigits digits
  isSequence : IsSequence sequence
  areBlanks : AreBlanks blanks

/-- A line with a statement number. -/
def numberLine (digits sequence blanks : List Char) : List Char :=
  numberTag ++ digits ++ sequence ++ blanks

theorem longNumber?_numberLine (isLong : IsLongNumber digits sequence blanks)
    (startsBlank : StartsBlank rest) :
    longNumber? (numberLine digits sequence blanks ++ rest) =
      some ⟨digits, sequence, blanks ++ rest⟩ := by
  rw [numberLine, append_assoc, longNumber?_parts isLong.areDigits isLong.isSequence
    (.append isLong.areBlanks startsBlank)]
  exact if_neg (Nat.not_le.mpr isLong.long)

variable (line : List Char)

/-- A line with its number cut, if all of it is a number that is too long. -/
def shortenLine : List Char :=
  match longNumber? line with
  | some field => if field.rest.all isBlank then field.shortened ++ field.rest else line
  | none => line

theorem shortenLine_numberLine (isLong : IsLongNumber digits sequence blanks) :
    shortenLine (numberLine digits sequence blanks) =
      numberLine (digits.rtake 5) sequence blanks := by
  have nothing : StartsBlank [] := by simp [StartsBlank]
  have read := longNumber?_numberLine isLong nothing
  simp only [append_nil] at read
  have allBlank : blanks.all isBlank = true := all_eq_true.mpr isLong.areBlanks
  simp only [shortenLine, read, allBlank, if_true]
  rfl

theorem shortenLine_of_no_number {line : List Char}
    (noNumber : ∀ digits sequence blanks, IsLongNumber digits sequence blanks →
      line ≠ numberLine digits sequence blanks) : shortenLine line = line := by
  unfold shortenLine
  split
  · rename_i field read
    rcases parts_of_longNumber? read with ⟨parts, long, areDigits, isSequence⟩
    split
    · rename_i allBlank
      have areBlanks : AreBlanks field.rest := all_eq_true.mp allBlank
      exact absurd parts (noNumber _ _ _ ⟨long, areDigits, isSequence, areBlanks⟩)
    · rfl
  · rfl

theorem parts_of_numberAt? {field : NumberField}
    (found : numberAt? chars = some (field, blanks, rest)) :
    chars = numberLine field.digits field.sequence blanks ++ rest ∧
      IsLongNumber field.digits field.sequence blanks ∧ AtLineEnd rest := by
  simp only [numberAt?, Option.bind_eq_bind, Option.bind_eq_some_iff] at found
  rcases found with ⟨read, isRead, ⟨taken, left⟩, ended, same⟩
  cases same
  rcases parts_of_longNumber? isRead with ⟨parts, long, areDigits, isSequence⟩
  rcases parts_of_blanksToLineEnd ended with ⟨restParts, areBlanks, lineEnd⟩
  refine ⟨?_, ⟨long, areDigits, isSequence, areBlanks⟩, lineEnd⟩
  simp [parts, restParts, numberLine]

theorem exists_numberAt? (isLong : IsLongNumber digits sequence blanks) (lineEnd : AtLineEnd rest) :
    ∃ found, numberAt? (numberLine digits sequence blanks ++ rest) = some found := by
  rcases exists_blanksToLineEnd isLong.areBlanks lineEnd with ⟨parts, ended⟩
  have read := longNumber?_numberLine isLong lineEnd.startsBlank
  simp [numberAt?, read, ended]

/-! ## Lines -/

theorem atLineEnd_dropWhile (chars : List Char) : AtLineEnd (chars.dropWhile (· != '\n')) := by
  intro c isFirst
  have stopped := head?_dropWhile_not (· != '\n') chars
  rw [isFirst] at stopped
  simpa using stopped

theorem lineFeed_not_mem_takeWhile (chars : List Char) :
    '\n' ∉ chars.takeWhile (· != '\n') := by
  intro mem
  simpa using mem_takeWhile_imp mem

/-- The text with the number of each line cut. -/
def shortenLines (chars : List Char) : List Char :=
  ['\n'].intercalate ((splitAt '\n' chars).map shortenLine)

/-- The rest of a line as it is, and the text after it with the number of each line cut. -/
def shortenLaterLines (chars : List Char) : List Char :=
  chars.takeWhile (· != '\n') ++ shortenLines (chars.dropWhile (· != '\n'))

theorem shortenLines_nil : shortenLines [] = [] := rfl

theorem shortenLines_lineFeed (chars : List Char) :
    shortenLines ('\n' :: chars) = '\n' :: shortenLines chars := by
  have more : (splitAt '\n' chars).map shortenLine ≠ [] := by
    simpa using splitAt_ne_nil '\n' chars
  have first : shortenLine [] = [] := rfl
  simp [shortenLines, splitAt, first, intercalate_cons_of_ne_nil more]

theorem shortenLines_append {line : List Char} (free : '\n' ∉ line) (lineEnd : AtLineEnd rest) :
    shortenLines (line ++ rest) = shortenLine line ++ shortenLines rest := by
  cases rest with
  | nil =>
    rw [shortenLines_nil]
    simp [shortenLines, splitAt_of_not_mem free]
  | cons c others =>
    cases lineEnd c rfl
    have more : (splitAt '\n' others).map shortenLine ≠ [] := by
      simpa using splitAt_ne_nil '\n' others
    rw [shortenLines_lineFeed]
    simp [shortenLines, splitAt_append_cons, splitAt_of_not_mem free,
      intercalate_cons_of_ne_nil more]

theorem shortenLines_eq (chars : List Char) :
    shortenLines chars = shortenLine (chars.takeWhile (· != '\n')) ++
      shortenLines (chars.dropWhile (· != '\n')) := by
  conv_lhs => rw [← takeWhile_append_dropWhile (p := (· != '\n')) (l := chars)]
  exact shortenLines_append (lineFeed_not_mem_takeWhile chars) (atLineEnd_dropWhile chars)

theorem shortenLaterLines_lineFeed (chars : List Char) :
    shortenLaterLines ('\n' :: chars) = '\n' :: shortenLines chars := by
  simp [shortenLaterLines, shortenLines_lineFeed]

theorem shortenLaterLines_append {part : List Char} (free : '\n' ∉ part) (rest : List Char) :
    shortenLaterLines (part ++ rest) = part ++ shortenLaterLines rest := by
  have passed : ∀ c ∈ part, (c != '\n') = true := by
    intro c mem
    simpa using fun same : c = '\n' => free (same ▸ mem)
  simp [shortenLaterLines, takeWhile_append_of_pos passed, dropWhile_append_of_pos passed]

theorem shortenLine_of_startsBlank {line : List Char} (startsBlank : StartsBlank line) :
    shortenLine line = line := by
  apply shortenLine_of_no_number
  rintro digits sequence blanks - rfl
  exact absurd (startsBlank ':' rfl) (by decide)

theorem shortenLines_of_startsBlank (startsBlank : StartsBlank chars) :
    shortenLines chars = shortenLaterLines chars := by
  rw [shortenLines_eq, shortenLaterLines, shortenLine_of_startsBlank]
  cases chars with
  | nil => exact startsBlank
  | cons c rest =>
    intro first isFirst
    by_cases lineFeed : c = '\n'
    · simp [lineFeed] at isFirst
    · simp only [takeWhile_cons, bne_iff_ne, ne_eq, lineFeed, not_false_eq_true, if_true,
        head?_cons] at isFirst
      exact startsBlank first isFirst

theorem shortenLaterLines_blanks (areBlanks : AreBlanks blanks) (lineEnd : AtLineEnd rest) :
    shortenLaterLines (blanks ++ rest) = blanks ++ shortenLines rest := by
  induction blanks with
  | nil => exact (shortenLines_of_startsBlank lineEnd.startsBlank).symm
  | cons c others ih =>
    have othersBlank : AreBlanks others := fun d mem => areBlanks d (mem_cons_of_mem c mem)
    by_cases lineFeed : c = '\n'
    · rw [lineFeed, cons_append, shortenLaterLines_lineFeed,
        shortenLines_of_startsBlank (.append othersBlank lineEnd.startsBlank), ih othersBlank]
      rfl
    · have free : '\n' ∉ [c] := by simpa using Ne.symm lineFeed
      have moved := shortenLaterLines_append free (others ++ rest)
      rw [ih othersBlank] at moved
      exact moved

theorem IsLongNumber.lineFeed_not_mem (isLong : IsLongNumber digits sequence blanks) :
    '\n' ∉ numberTag ++ digits ++ sequence := by
  have notDigit : isDigit '\n' = false := isDigit_eq_false_of_isBlank (by decide)
  have free {chars : List Char} (areDigits : AreDigits chars) : '\n' ∉ chars := by
    intro mem
    simp [areDigits _ mem] at notDigit
  have freeSequence : '\n' ∉ sequence := by
    cases isLong.isSequence with
    | none => simp
    | number _ areDigits => simpa using free areDigits
  simpa [numberTag, freeSequence] using free isLong.areDigits

/-- Blanks that run over lines are left alone, and the number before them is that of its line. -/
theorem shortenLines_numberLine (isLong : IsLongNumber digits sequence blanks)
    (lineEnd : AtLineEnd rest) :
    shortenLines (numberLine digits sequence blanks ++ rest) =
      numberLine (digits.rtake 5) sequence blanks ++ shortenLines rest := by
  have passed : ∀ c ∈ numberTag ++ digits ++ sequence, (c != '\n') = true := by
    intro c mem
    simpa using fun same : c = '\n' => isLong.lineFeed_not_mem (same ▸ mem)
  have onLine : AreBlanks ((blanks ++ rest).takeWhile (· != '\n')) := by
    have noMore : rest.takeWhile (· != '\n') = [] := by
      cases rest with
      | nil => rfl
      | cons c others => simp [lineEnd c rfl]
    intro c mem
    apply isLong.areBlanks
    rw [takeWhile_append, noMore, append_nil] at mem
    split at mem
    · exact mem
    · exact (List.takeWhile_prefix _).subset mem
  have cut := shortenLine_numberLine
    ⟨isLong.long, isLong.areDigits, isLong.isSequence, onLine⟩
  simp only [numberLine] at cut
  calc shortenLines (numberLine digits sequence blanks ++ rest)
      = shortenLines (numberTag ++ digits ++ sequence ++ (blanks ++ rest)) := by
        rw [numberLine, append_assoc _ blanks]
    _ = numberTag ++ digits.rtake 5 ++ sequence ++ shortenLaterLines (blanks ++ rest) := by
        rw [shortenLines_eq, takeWhile_append_of_pos passed,
          dropWhile_append_of_pos passed, cut, append_assoc, shortenLaterLines]
    _ = numberLine (digits.rtake 5) sequence blanks ++ shortenLines rest := by
        rw [shortenLaterLines_blanks isLong.areBlanks lineEnd, numberLine, append_assoc _ blanks]

/-! ## The whole text -/

theorem shortenLines_of_none (notFound : numberAt? chars = none) :
    shortenLines chars = shortenLaterLines chars := by
  rw [shortenLines_eq, shortenLaterLines, shortenLine_of_no_number]
  intro digits sequence blanks isLong isNumber
  rcases exists_numberAt? isLong (atLineEnd_dropWhile chars) with ⟨found, isFound⟩
  rw [← isNumber, takeWhile_append_dropWhile, notFound] at isFound
  cases isFound

/-- Going over the whole text comes to the same as going line by line. -/
theorem shortenFrom_eq (atLineStart : Bool) (chars : List Char) :
    shortenFrom atLineStart chars =
      if atLineStart then shortenLines chars else shortenLaterLines chars := by
  induction size : chars.length using Nat.strong_induction_on generalizing atLineStart chars with
  | _ length ih =>
    subst size
    rw [shortenFrom.eq_def]
    split
    · rename_i field blanks rest found
      cases atLineStart with
      | false => cases found
      | true =>
        rcases parts_of_numberAt? found with ⟨parts, isLong, lineEnd⟩
        have shorter : rest.length < chars.length := by
          simp [parts, numberLine, numberTag]
          omega
        -- What follows starts with a line end, so it is the same whether a line starts there.
        have later (starts : Bool) : shortenFrom starts rest = shortenLines rest := by
          rw [ih _ shorter starts rest rfl, shortenLines_of_startsBlank lineEnd.startsBlank]
          simp
        have cut : field.shortened ++ blanks =
            numberLine (field.digits.rtake 5) field.sequence blanks := rfl
        rw [dif_pos shorter, later, cut, if_pos rfl, parts]
        exact (shortenLines_numberLine isLong lineEnd).symm
    · rename_i notFound
      have unfound : (if atLineStart then shortenLines chars else shortenLaterLines chars) =
          shortenLaterLines chars := by
        cases atLineStart with
        | false => rfl
        | true => exact shortenLines_of_none notFound
      rw [unfound]
      cases chars with
      | nil => rfl
      | cons c rest =>
        dsimp only
        rw [ih rest.length (by simp) (c == '\n') rest rfl]
        by_cases lineFeed : c = '\n'
        · simp [lineFeed, shortenLaterLines_lineFeed]
        · have free : '\n' ∉ [c] := by simpa using Ne.symm lineFeed
          have moved := shortenLaterLines_append free rest
          simpa [lineFeed] using moved.symm

theorem shortenFrom_of_no_tag (noTag : occursIn numberTag chars = false) (atLineStart : Bool) :
    shortenFrom atLineStart chars = chars := by
  induction chars generalizing atLineStart with
  | nil =>
    rw [shortenFrom.eq_def]
    cases atLineStart <;> rfl
  | cons c rest ih =>
    simp only [occursIn, Bool.or_eq_false_iff] at noTag
    have notFound : numberAt? (c :: rest) = none := by
      simp [numberAt?, longNumber?, noTag.1]
    rw [shortenFrom.eq_def, notFound, ite_self]
    simp [ih noTag.2]

/-- Looking for the tag beforehand makes no difference. -/
theorem shortenNumbers_eq (text : String) :
    shortenNumbers text = String.ofList (shortenFrom true text.toList) := by
  unfold shortenNumbers
  split
  · rfl
  · rename_i noTag
    rw [shortenFrom_of_no_tag (by simpa using noTag)]
    simp

/-! ## What becomes of the lines -/

/-- What becomes of a line: the last five digits are left of a number with more digits, and every
other line stays as it is. -/
inductive Shortened : List Char → List Char → Prop
  | number {digits sequence blanks : List Char} (isLong : IsLongNumber digits sequence blanks) :
      Shortened (numberLine digits sequence blanks) (numberLine (digits.rtake 5) sequence blanks)
  | other {line : List Char} (noNumber : ∀ digits sequence blanks,
      IsLongNumber digits sequence blanks → line ≠ numberLine digits sequence blanks) :
      Shortened line line

theorem shortened_shortenLine : Shortened line (shortenLine line) := by
  by_cases number : ∃ digits sequence blanks, IsLongNumber digits sequence blanks ∧
      line = numberLine digits sequence blanks
  · rcases number with ⟨digits, sequence, blanks, isLong, rfl⟩
    rw [shortenLine_numberLine isLong]
    exact .number isLong
  · have noNumber : ∀ digits sequence blanks, IsLongNumber digits sequence blanks →
        line ≠ numberLine digits sequence blanks := by
      intro digits sequence blanks isLong isNumber
      exact number ⟨digits, sequence, blanks, isLong, isNumber⟩
    rw [shortenLine_of_no_number noNumber]
    exact .other noNumber

theorem Shortened.subset {line new : List Char} (shortened : Shortened line new) :
    new ⊆ line := by
  cases shortened with
  | other => exact List.Subset.refl _
  | @number digits sequence blanks isLong =>
    intro c mem
    simp only [numberLine, mem_append] at mem ⊢
    rcases mem with ((inTag | inDigits) | inSequence) | inBlanks
    · exact .inl (.inl (.inl inTag))
    · exact .inl (.inl (.inr (mem_of_mem_drop inDigits)))
    · exact .inl (.inr inSequence)
    · exact .inr inBlanks

theorem shortenLine_shortenLine :
    shortenLine (shortenLine line) = shortenLine line := by
  have shortened := shortened_shortenLine line
  generalize shortenLine line = new at shortened
  cases shortened with
  | other noNumber => exact shortenLine_of_no_number noNumber
  | @number digits sequence blanks isLong =>
    have areDigits : AreDigits (digits.rtake 5) :=
      fun c mem => isLong.areDigits c (mem_of_mem_drop mem)
    have short : (digits.rtake 5).length ≤ numberLength := by
      simp only [List.rtake, numberLength, length_drop]
      omega
    have read := longNumber?_parts areDigits isLong.isSequence isLong.areBlanks.startsBlank
    rw [if_pos short] at read
    simp only [shortenLine, numberLine, read]

theorem splitAt_shortenLines (chars : List Char) :
    splitAt '\n' (shortenLines chars) = (splitAt '\n' chars).map shortenLine := by
  rw [shortenLines, splitAt_eq_splitOn, splitOn_intercalate]
  · intro line lineMem inLine
    rcases mem_map.mp lineMem with ⟨old, oldMem, rfl⟩
    exact not_mem_of_mem_splitAt oldMem ((shortened_shortenLine old).subset inLine)
  · simpa using splitAt_ne_nil '\n' chars

theorem toList_shortenNumbers (text : String) :
    (shortenNumbers text).toList = shortenLines text.toList := by
  rw [shortenNumbers_eq, shortenFrom_eq]
  simp

/--
Of every text, each line is cut or stays by itself, and the line ends stay: what becomes of a line
does not depend on the lines around it. The look for the tag beforehand makes no difference, and
cutting a second time changes nothing.
-/
theorem shortenNumbers_shortens_lines (text : String) :
    List.Forall₂ Shortened (splitAt '\n' text.toList)
        (splitAt '\n' (shortenNumbers text).toList) ∧
      shortenNumbers text = String.ofList (shortenFrom true text.toList) ∧
      shortenNumbers (shortenNumbers text) = shortenNumbers text := by
  refine ⟨?_, shortenNumbers_eq text, ?_⟩
  · rw [toList_shortenNumbers, splitAt_shortenLines, List.forall₂_map_right_iff]
    exact List.forall₂_same.mpr fun line _ => shortened_shortenLine line
  · apply String.toList_injective
    rw [toList_shortenNumbers, toList_shortenNumbers, shortenLines, splitAt_shortenLines,
      List.map_map]
    have again : shortenLine ∘ shortenLine = shortenLine := funext shortenLine_shortenLine
    rw [again, shortenLines]

end ErpLens.Accounts.Bank
