import ErpLens.Proofs.Fields
import ErpLens.Proofs.JsonNumbers
import ErpLens.Proofs.JsonStrings
import ErpLens.Proofs.Outcomes
import Mathlib.Data.Bool.AllAny

/-!
# Reading what was written

The laid-out form of a value is read back as the value itself, for the values that JSON has apart
from numbers with a fraction.
-/

open List

namespace ErpLens.Json

variable {value : Value} {fuel : Nat} {chars : List Char}

open Source.Number

/-! ## Values that can be stored -/

/-- Values that their written form determines. -/
inductive Storable : Value → Prop where
  | null : Storable .null
  | bool (value : Bool) : Storable (.bool value)
  | int {value : Int} (readable : Readable value) : Storable (.int value)
  | str (text : String) : Storable (.str text)
  | list {items : List Value} (all : ∀ item ∈ items, Storable item) : Storable (.list items)
  | dict {fields : Fields} (distinct : (fields.map Prod.fst).Nodup)
      (all : ∀ field ∈ fields, Storable field.2) : Storable (.ofFields fields)

/-- Fields as the entries of a dictionary. -/
def entriesOf (fields : Fields) : Entries :=
  fields.map fun (key, value) => (.str key, value)

theorem entriesOf_cons (field : String × Value) (fields : Fields) :
    entriesOf (field :: fields) = (.str field.1, field.2) :: entriesOf fields := rfl

theorem ofFields_eq (fields : Fields) :
    Value.ofFields fields = .dict .plain (entriesOf fields) := rfl

/-! ## Blanks and items -/

variable (level : Nat)

theorem skipBlanks_lineBreak (chars : List Char) :
    skipBlanks ((lineBreak level).toList ++ chars) = skipBlanks chars := by
  have blanks : ∀ c ∈ (lineBreak level).toList, isBlank c = true := by
    simp [lineBreak, isBlank]
  rw [skipBlanks, dropWhile_append_of_pos blanks, skipBlanks]

theorem skipBlanks_cons {c : Char} (solid : isBlank c = false) (chars : List Char) :
    skipBlanks (c :: chars) = c :: chars := by
  simp [skipBlanks, solid]

/-- The text of all items but the first. -/
def laterItems (texts : List String) : List Char :=
  texts.flatMap fun text => ',' :: ((lineBreak level).toList ++ text.toList)

theorem laterItems_nil : laterItems level [] = [] := rfl

theorem laterItems_cons (text : String) (texts : List String) (rest : List Char) :
    laterItems level (text :: texts) ++ rest =
      ',' :: ((lineBreak level).toList ++ (text.toList ++ (laterItems level texts ++ rest))) := by
  simp [laterItems]

theorem length_laterItems_cons (text : String) (texts : List String) :
    (laterItems level (text :: texts)).length =
      text.toList.length + (laterItems level texts).length +
        (lineBreak level).toList.length + 1 := by
  rw [← append_nil (laterItems level (text :: texts)), laterItems_cons]
  simp only [length_cons, length_append, length_nil]
  omega

variable (before after : String)

theorem toList_layItems (opening closing : Char) (opens : before.toList = [opening])
    (closes : after.toList = [closing]) (level : Nat) (first : String) (others : List String)
    (rest : List Char) :
    (layItems before after level (first :: others)).toList ++ rest =
      opening :: ((lineBreak (level + 1)).toList ++ (first.toList ++
        (laterItems (level + 1) others ++ ((lineBreak level).toList ++ closing :: rest)))) := by
  have joined : (("," ++ lineBreak (level + 1)).intercalate (first :: others)).toList =
      first.toList ++ laterItems (level + 1) others := by
    induction others generalizing first with
    | nil => simp [laterItems]
    | cons other others ih =>
      have later := ih other
      simp only [String.toList_intercalate, map_cons] at later ⊢
      rw [intercalate_cons_cons, later]
      simp [laterItems]
  simp [layItems, joined, opens, closes]

theorem length_layItems (opening closing : Char) (opens : before.toList = [opening])
    (closes : after.toList = [closing]) (level : Nat) (first : String) (others : List String) :
    first.toList.length + (laterItems (level + 1) others).length + 1 <
      (layItems before after level (first :: others)).toList.length := by
  rw [← append_nil (layItems before after level (first :: others)).toList,
    toList_layItems before after opening closing opens closes]
  simp only [length_cons, length_append]
  omega

theorem layOutAll_eq (items : List Value) :
    layOutAll level items = items.map (layOut level) := by
  induction items with
  | nil => rfl
  | cons item items ih => rw [layOutAll, ih, map_cons]

/-- The text of a member of a dictionary. -/
def memberText (field : String × Value) : String :=
  stringText field.1 ++ ": " ++ layOut level field.2

theorem layOut_ofFields (fields : Fields) :
    layOut level (.ofFields fields) =
      layItems "\x7b" "\x7d" level (fields.map (memberText (level + 1))) := by
  have entries : layOutEntries (level + 1) (entriesOf fields) =
      fields.map (memberText (level + 1)) := by
    induction fields with
    | nil => rfl
    | cons field fields ih =>
      rw [entriesOf_cons, layOutEntries, ih]
      rfl
  rw [ofFields_eq, layOut, entries]

/-! ## The first character -/

/-- Characters that a written value may start with: none of them is blank, none ends a list and none
is the mark of a byte order. -/
def Starts (c : Char) : Prop :=
  isBlank c = false ∧ c ≠ ']' ∧ c ≠ '\ufeff'

theorem starts_of_isDigit {c : Char} (isDigit : c.isDigit = true) : Starts c := by
  refine ⟨?_, ?_, ?_⟩
  · simp only [isBlank, Bool.or_eq_false_iff, beq_eq_false_iff_ne]
    refine ⟨⟨⟨?_, ?_⟩, ?_⟩, ?_⟩ <;> rintro rfl <;> simp at isDigit
  · rintro rfl
    simp at isDigit
  · rintro rfl
    simp at isDigit

theorem exists_layItems_eq_cons (opening : Char) (closing : String) (level : Nat)
    (texts : List String) :
    ∃ others, (layItems (String.singleton opening) closing level texts).toList =
      opening :: others := by
  unfold layItems
  split <;> simp

theorem exists_toString_eq_cons (value : Int) :
    ∃ c others, (toString value).toList = c :: others ∧ (c = '-' ∨ c.isDigit = true) := by
  rcases exists_toDigits_eq_cons value.natAbs with ⟨digit, digits, written, isDigit⟩
  rw [toList_toString, written]
  split
  · exact ⟨'-', _, rfl, Or.inl rfl⟩
  · exact ⟨digit, _, rfl, Or.inr isDigit⟩

theorem Storable.exists_eq_cons (storable : Storable value) (level : Nat) :
    ∃ c others, (layOut level value).toList = c :: others ∧ Starts c := by
  cases storable with
  | null => exact ⟨'n', "ull".toList, by simp [layOut], by simp [Starts, isBlank]⟩
  | bool value =>
    cases value with
    | false => exact ⟨'f', "alse".toList, by simp [layOut], by simp [Starts, isBlank]⟩
    | true => exact ⟨'t', "rue".toList, by simp [layOut], by simp [Starts, isBlank]⟩
  | @int value readable =>
    rcases exists_toString_eq_cons value with ⟨c, others, written, rfl | isDigit⟩
    · exact ⟨'-', others, by rw [layOut, written], by simp [Starts, isBlank]⟩
    · exact ⟨c, others, by rw [layOut, written], starts_of_isDigit isDigit⟩
  | str text =>
    exact ⟨'"', _, by rw [layOut, toList_stringText], by simp [Starts, isBlank]⟩
  | list all =>
    rcases exists_layItems_eq_cons '[' "]" level (layOutAll (level + 1) _) with ⟨others, starts⟩
    exact ⟨'[', others, by rw [layOut]; exact starts, by simp [Starts, isBlank]⟩
  | dict distinct all =>
    rcases exists_layItems_eq_cons '\x7b' "\x7d" level _ with ⟨others, starts⟩
    exact ⟨'\x7b', others, by rw [layOut_ofFields]; exact starts, by simp [Starts, isBlank]⟩

theorem Storable.skipBlanks_layOut (storable : Storable value) (level : Nat) (rest : List Char) :
    skipBlanks ((layOut level value).toList ++ rest) = (layOut level value).toList ++ rest := by
  rcases storable.exists_eq_cons level with ⟨c, others, starts, solid, -, -⟩
  rw [starts, cons_append, skipBlanks_cons solid]

/-! ## Items and members -/

/-- A value is read back from its written form, wherever that stands and whatever follows it. -/
def ReadsBack (value : Value) : Prop :=
  ∀ (level fuel : Nat) (rest : List Char), Ends rest → (layOut level value).toList.length ≤ fuel →
    readValue fuel ((layOut level value).toList ++ rest) = .ok (value, rest)

theorem ends_laterItems (level outer : Nat) (texts : List String) (rest : List Char) :
    Ends (laterItems level texts ++ ((lineBreak outer).toList ++ rest)) := by
  cases texts with
  | nil =>
    rw [laterItems, flatMap_nil, nil_append, lineBreak, String.toList_append]
    exact Ends.lineFeed _
  | cons text texts =>
    rw [laterItems_cons]
    exact Ends.comma _

theorem skipBlanks_laterItems_nil (level outer : Nat) {closing : Char}
    (solid : isBlank closing = false) (rest : List Char) :
    skipBlanks (laterItems level [] ++ ((lineBreak outer).toList ++ closing :: rest)) =
      closing :: rest := by
  rw [laterItems_nil, nil_append, skipBlanks_lineBreak, skipBlanks_cons solid]

theorem skipBlanks_laterItems_cons (text : String) (texts : List String) (rest : List Char) :
    skipBlanks (laterItems level (text :: texts) ++ rest) =
      ',' :: ((lineBreak level).toList ++ (text.toList ++ (laterItems level texts ++ rest))) := by
  rw [laterItems_cons, skipBlanks_cons rfl]

theorem readItems_last {fuel : Nat} {chars last next : List Char} {first : Value}
    (read : readValue fuel chars = .ok (first, last)) (closes : skipBlanks last = ']' :: next) :
    readItems (fuel + 1) chars = .ok ([first], next) := by
  rw [readItems, read, ok_bind]
  simp only [closes]
  rfl

theorem readItems_more {last next rest : List Char} {first : Value} {others : List Value}
    (read : readValue fuel chars = .ok (first, last)) (goesOn : skipBlanks last = ',' :: next)
    (later : readItems fuel (skipBlanks next) = .ok (others, rest)) :
    readItems (fuel + 1) chars = .ok (first :: others, rest) := by
  rw [readItems, read, ok_bind]
  simp only [goesOn, later]
  rfl

theorem readItems_layOut {first : Value} {others : List Value}
    (storable : ∀ item ∈ first :: others, Storable item)
    (back : ∀ item ∈ first :: others, ReadsBack item) (level outer : Nat) (rest : List Char)
    (enough : (layOut level first).toList.length +
      (laterItems level (others.map (layOut level))).length < fuel) :
    readItems fuel ((layOut level first).toList ++ (laterItems level (others.map (layOut level)) ++
      ((lineBreak outer).toList ++ ']' :: rest))) = .ok (first :: others, rest) := by
  induction others generalizing first fuel with
  | nil =>
    cases fuel with
    | zero => omega
    | succ fuel =>
      have read := back first mem_cons_self level fuel _
        (ends_laterItems level outer [] (']' :: rest)) (by omega)
      exact readItems_last read (skipBlanks_laterItems_nil level outer rfl rest)
  | cons second others ih =>
    cases fuel with
    | zero => omega
    | succ fuel =>
      rw [map_cons, length_laterItems_cons] at enough
      have read := back first mem_cons_self level fuel _
        (ends_laterItems level outer ((second :: others).map (layOut level)) (']' :: rest))
        (by omega)
      refine readItems_more read (skipBlanks_laterItems_cons level _ _ _) ?_
      rw [skipBlanks_lineBreak, (storable second (by simp)).skipBlanks_layOut]
      exact ih (fun item mem => storable item (mem_cons_of_mem _ mem))
        (fun item mem => back item (mem_cons_of_mem _ mem)) (by omega)

theorem readMembers_last {found : Entries} {key : String} {after more last next : List Char}
    (keyRead : readText chars = .ok (key, after)) (colon : skipBlanks after = ':' :: more)
    (read : readValue fuel (skipBlanks more) = .ok (value, last))
    (closes : skipBlanks last = '\x7d' :: next) :
    readMembers (fuel + 1) found ('"' :: chars) =
      .ok (Value.putEntry (.str key) value found, next) := by
  rw [readMembers, keyRead, ok_bind]
  simp only [colon]
  rw [read, ok_bind]
  simp only [closes]
  rfl

theorem readMembers_more {found entries : Entries} {key : String}
    {after more last next rest : List Char} (keyRead : readText chars = .ok (key, after))
    (colon : skipBlanks after = ':' :: more)
    (read : readValue fuel (skipBlanks more) = .ok (value, last))
    (goesOn : skipBlanks last = ',' :: next)
    (later : readMembers fuel (Value.putEntry (.str key) value found) (skipBlanks next) =
      .ok (entries, rest)) : readMembers (fuel + 1) found ('"' :: chars) = .ok (entries, rest) := by
  rw [readMembers, keyRead, ok_bind]
  simp only [colon]
  rw [read, ok_bind]
  simp only [goesOn]
  exact later

theorem toList_memberText (field : String × Value) (rest : List Char) :
    (memberText level field).toList ++ rest =
      '"' :: (writtenChars field.1 ++
        '"' :: ':' :: ' ' :: ((layOut level field.2).toList ++ rest)) := by
  simp [memberText, toList_stringText]

theorem skipBlanks_memberText (field : String × Value) (rest : List Char) :
    skipBlanks ((memberText level field).toList ++ rest) =
      (memberText level field).toList ++ rest := by
  rw [toList_memberText, skipBlanks_cons rfl]

theorem readValue_member {field : String × Value} (storable : Storable field.2)
    (back : ReadsBack field.2) (level outer : Nat) (texts : List String) (rest : List Char)
    (enough : (memberText level field).toList.length ≤ fuel) :
    readValue fuel (skipBlanks (' ' :: ((layOut level field.2).toList ++
      (laterItems level texts ++ ((lineBreak outer).toList ++ rest))))) =
      .ok (field.2, laterItems level texts ++ ((lineBreak outer).toList ++ rest)) := by
  have shorter : (layOut level field.2).toList.length ≤ (memberText level field).toList.length := by
    rw [← append_nil (memberText level field).toList, toList_memberText]
    simp only [length_cons, length_append]
    omega
  have blank (chars : List Char) : skipBlanks (' ' :: chars) = skipBlanks chars := rfl
  rw [blank, storable.skipBlanks_layOut]
  exact back level fuel _ (ends_laterItems level outer texts rest) (by omega)

theorem putEntry_entriesOf {fields : Fields} {field : String × Value}
    (new : field.1 ∉ fields.map Prod.fst) :
    Value.putEntry (.str field.1) field.2 (entriesOf fields) = entriesOf (fields ++ [field]) := by
  induction fields with
  | nil => rfl
  | cons other fields ih =>
    simp only [map_cons, mem_cons, not_or] at new
    have differs : Value.same (.str other.1) (.str field.1) = false := by
      rw [Value.same_str]
      exact beq_false_of_ne (Ne.symm new.1)
    rw [entriesOf_cons, Value.putEntry, differs, ih new.2]
    rfl

theorem not_mem_of_nodup {found others : Fields} {first : String × Value}
    (distinct : ((found ++ first :: others).map Prod.fst).Nodup) :
    first.1 ∉ found.map Prod.fst := by
  intro mem
  rw [map_append, map_cons, nodup_append] at distinct
  exact distinct.2.2 _ mem _ mem_cons_self rfl

theorem readMembers_layOut {found : Fields} {first : String × Value} {others : Fields}
    (distinct : ((found ++ first :: others).map Prod.fst).Nodup)
    (storable : ∀ field ∈ first :: others, Storable field.2)
    (back : ∀ field ∈ first :: others, ReadsBack field.2) (level outer : Nat) (rest : List Char)
    (enough : (memberText level first).toList.length +
      (laterItems level (others.map (memberText level))).length < fuel) :
    readMembers fuel (entriesOf found)
      ((memberText level first).toList ++ (laterItems level (others.map (memberText level)) ++
        ((lineBreak outer).toList ++ '\x7d' :: rest))) =
      .ok (entriesOf (found ++ first :: others), rest) := by
  induction others generalizing found first fuel with
  | nil =>
    cases fuel with
    | zero => omega
    | succ fuel =>
      have shorter : (memberText level first).toList.length ≤ fuel := by omega
      have read := readValue_member (storable first mem_cons_self)
        (back first mem_cons_self) level outer [] ('\x7d' :: rest) shorter
      rw [← putEntry_entriesOf (not_mem_of_nodup distinct), toList_memberText]
      exact readMembers_last (readText_writtenChars _ _) (skipBlanks_cons rfl _) read
        (skipBlanks_laterItems_nil level outer rfl rest)
  | cons second others ih =>
    cases fuel with
    | zero => omega
    | succ fuel =>
      rw [map_cons, length_laterItems_cons] at enough
      have shorter : (memberText level first).toList.length ≤ fuel := by omega
      have read := readValue_member (storable first mem_cons_self)
        (back first mem_cons_self) level outer ((second :: others).map (memberText level))
        ('\x7d' :: rest) shorter
      have regroup : found ++ first :: second :: others =
          (found ++ [first]) ++ second :: others := by
        simp
      rw [toList_memberText]
      refine readMembers_more (readText_writtenChars _ _) (skipBlanks_cons rfl _) read
        (skipBlanks_laterItems_cons level _ _ _) ?_
      rw [skipBlanks_lineBreak, skipBlanks_memberText,
        putEntry_entriesOf (not_mem_of_nodup distinct), regroup]
      exact ih (by rwa [← regroup])
        (fun field mem => storable field (mem_cons_of_mem _ mem))
        (fun field mem => back field (mem_cons_of_mem _ mem)) (by omega)

/-! ## Values -/

theorem readValue_of_scalar {c : Char} {found : Value × List Char} (notText : c ≠ '"')
    (notDict : c ≠ '\x7b') (notList : c ≠ '[')
    (scalar : ((readWord? (c :: chars)).orElse fun _ => readNumber? (c :: chars)) = some found) :
    readValue (fuel + 1) (c :: chars) = .ok found := by
  unfold readValue
  split
  · rename_i starts
    exact absurd (List.cons.inj starts).1 notText
  · rename_i starts
    exact absurd (List.cons.inj starts).1 notDict
  · rename_i starts
    exact absurd (List.cons.inj starts).1 notList
  · rw [scalar]

theorem readValue_items {fuel : Nat} {chars inner rest : List Char} {items : List Value}
    (starts : skipBlanks chars = inner) (notClosing : inner.head? ≠ some ']')
    (read : readItems fuel inner = .ok (items, rest)) :
    readValue (fuel + 1) ('[' :: chars) = .ok (.list items, rest) := by
  rw [readValue, starts]
  split
  · simp at notClosing
  · rw [read, ok_bind]
    rfl

theorem readValue_members {inner rest : List Char} {entries : Entries}
    (starts : skipBlanks chars = inner) (notClosing : inner.head? ≠ some '\x7d')
    (read : readMembers fuel [] inner = .ok (entries, rest)) :
    readValue (fuel + 1) ('\x7b' :: chars) = .ok (.dict .plain entries, rest) := by
  rw [readValue, starts]
  split
  · simp at notClosing
  · rw [read, ok_bind]
    rfl

theorem Storable.readsBack_of_succ (storable : Storable value)
    (back : ∀ (level fuel : Nat) (rest : List Char), Ends rest →
      (layOut level value).toList.length ≤ fuel + 1 →
      readValue (fuel + 1) ((layOut level value).toList ++ rest) = .ok (value, rest)) :
    ReadsBack value := by
  intro level fuel rest ends enough
  cases fuel with
  | zero =>
    rcases storable.exists_eq_cons level with ⟨c, others, starts, -⟩
    simp [starts] at enough
  | succ fuel => exact back level fuel rest ends enough

theorem readsBack_null : ReadsBack .null := by
  refine Storable.null.readsBack_of_succ fun level fuel rest ends enough => ?_
  rw [layOut]
  exact readValue_of_scalar (by decide) (by decide) (by decide) rfl

theorem readsBack_bool (value : Bool) : ReadsBack (.bool value) := by
  refine (Storable.bool value).readsBack_of_succ fun level fuel rest ends enough => ?_
  rw [layOut]
  cases value with
  | false => exact readValue_of_scalar (by decide) (by decide) (by decide) rfl
  | true => exact readValue_of_scalar (by decide) (by decide) (by decide) rfl

theorem readsBack_int {value : Int} (readable : Readable value) : ReadsBack (.int value) := by
  refine (Storable.int readable).readsBack_of_succ fun level fuel rest ends enough => ?_
  have word := readWord?_toString value rest
  have number := readNumber?_toString readable ends
  rcases exists_toString_eq_cons value with ⟨c, others, written, minusOrDigit⟩
  have differs {d : Char} (notMinus : d ≠ '-') (notDigit : d.isDigit = false) : c ≠ d := by
    rintro rfl
    rcases minusOrDigit with isMinus | isDigit
    · exact notMinus isMinus
    · simp [isDigit] at notDigit
  rw [layOut]
  rw [written, cons_append] at word number ⊢
  refine readValue_of_scalar (differs (by decide) rfl) (differs (by decide) rfl)
    (differs (by decide) rfl) ?_
  rw [word, number]
  rfl

theorem readsBack_str (text : String) : ReadsBack (.str text) := by
  refine (Storable.str text).readsBack_of_succ fun level fuel rest ends enough => ?_
  have read := readText_writtenChars text rest
  rw [layOut, toList_stringText, cons_append, append_assoc, singleton_append,
    readValue, read, ok_bind]
  rfl

theorem readsBack_list {items : List Value} (storable : ∀ item ∈ items, Storable item)
    (back : ∀ item ∈ items, ReadsBack item) : ReadsBack (.list items) := by
  refine (Storable.list storable).readsBack_of_succ fun level fuel rest ends enough => ?_
  rw [layOut, layOutAll_eq] at enough ⊢
  cases items with
  | nil => simp [layItems, readValue, skipBlanks, isBlank]
  | cons first others =>
    have firstStorable := storable first mem_cons_self
    have starts (more : List Char) :
        ((layOut (level + 1) first).toList ++ more).head? ≠ some ']' := by
      rcases firstStorable.exists_eq_cons (level + 1) with ⟨c, inner, written, -, notClosing, -⟩
      simp [written, notClosing]
    have shorter := length_layItems "[" "]" '[' ']' rfl rfl level (layOut (level + 1) first)
      (others.map (layOut (level + 1)))
    rw [map_cons] at enough ⊢
    rw [toList_layItems "[" "]" '[' ']' rfl rfl]
    refine readValue_items ?_ (starts _)
      (readItems_layOut storable back (level + 1) level rest (by omega))
    rw [skipBlanks_lineBreak, firstStorable.skipBlanks_layOut]

theorem readsBack_dict {fields : Fields} (distinct : (fields.map Prod.fst).Nodup)
    (storable : ∀ field ∈ fields, Storable field.2) (back : ∀ field ∈ fields, ReadsBack field.2) :
    ReadsBack (.ofFields fields) := by
  refine (Storable.dict distinct storable).readsBack_of_succ fun level fuel rest ends enough => ?_
  rw [layOut_ofFields] at enough ⊢
  cases fields with
  | nil => simp [layItems, readValue, skipBlanks, isBlank, Value.ofFields]
  | cons first others =>
    have starts (more : List Char) :
        ((memberText (level + 1) first).toList ++ more).head? ≠ some '\x7d' := by
      simp [toList_memberText]
    have shorter := length_layItems "\x7b" "\x7d" '\x7b' '\x7d' rfl rfl level
      (memberText (level + 1) first) (others.map (memberText (level + 1)))
    rw [map_cons] at enough ⊢
    rw [toList_layItems "\x7b" "\x7d" '\x7b' '\x7d' rfl rfl]
    have allDistinct : (([] ++ first :: others).map Prod.fst).Nodup := distinct
    refine readValue_members ?_ (starts _)
      (readMembers_layOut allDistinct storable back (level + 1) level rest (by omega))
    rw [skipBlanks_lineBreak, skipBlanks_memberText]

/-- Every value that can be stored is read back where something follows that ends it. -/
theorem Storable.readsBack (storable : Storable value) : ReadsBack value := by
  induction storable with
  | null => exact readsBack_null
  | bool value => exact readsBack_bool value
  | int readable => exact readsBack_int readable
  | str text => exact readsBack_str text
  | list all ih => exact readsBack_list all ih
  | dict distinct all ih => exact readsBack_dict distinct all ih

/-- The laid-out form of a value is read as the value. -/
theorem Storable.read_pretty (storable : Storable value) : read (pretty value) = some value := by
  rcases storable.exists_eq_cons 0 with ⟨c, others, written, solid, -, notMark⟩
  have back := storable.readsBack 0 ((layOut 0 value).toList.length + 1) [] Ends.nil
    (Nat.le_succ _)
  have head : ((layOut 0 value).toList.head? == some '\ufeff') = false := by
    simp [written, notMark]
  have blanks := storable.skipBlanks_layOut 0 []
  rw [append_nil] at back blanks
  simp only [read, parse, pretty, head]
  simp only [Bool.false_eq_true, if_false]
  rw [blanks, back, ok_bind]
  rfl

/-! ## Line ends -/

/-- The characters of a written text: a text has several lines, but no other line end than a line
feed. -/
def Laid (c : Char) : Prop :=
  c = '\n' ∨ Printable c

instance decidableLaid (c : Char) : Decidable (Laid c) :=
  inferInstanceAs (Decidable (_ ∨ _))

theorem laid_lineBreak : ∀ c ∈ (lineBreak level).toList, Laid c := by
  intro c mem
  simp only [lineBreak, String.toList_append, String.toList_ofList, mem_append,
    mem_replicate] at mem
  rcases mem with lineFeed | ⟨-, rfl⟩
  · exact Or.inl (by simpa using lineFeed)
  · decide

theorem laid_laterItems {texts : List String}
    (laid : ∀ text ∈ texts, ∀ c ∈ text.toList, Laid c) : ∀ c ∈ laterItems level texts, Laid c := by
  intro c mem
  simp only [laterItems, mem_flatMap, mem_cons, mem_append] at mem
  rcases mem with ⟨text, textMem, rfl | blank | mem⟩
  · decide
  · exact laid_lineBreak level c blank
  · exact laid text textMem c mem

theorem laid_layItems (opening closing : Char) (opens : before.toList = [opening])
    (closes : after.toList = [closing]) (laidOpening : Laid opening) (laidClosing : Laid closing)
    (level : Nat) {texts : List String} (laid : ∀ text ∈ texts, ∀ c ∈ text.toList, Laid c) :
    ∀ c ∈ (layItems before after level texts).toList, Laid c := by
  intro c mem
  cases texts with
  | nil =>
    simp only [layItems, isEmpty_nil, if_true, String.toList_append, opens, closes,
      mem_append, mem_singleton] at mem
    rcases mem with rfl | rfl
    · exact laidOpening
    · exact laidClosing
  | cons first others =>
    rw [← append_nil (layItems before after level (first :: others)).toList,
      toList_layItems before after opening closing opens closes] at mem
    simp only [mem_cons, mem_append, not_mem_nil, or_false] at mem
    rcases mem with rfl | blank | inFirst | inOthers | blank | rfl
    · exact laidOpening
    · exact laid_lineBreak (level + 1) c blank
    · exact laid first mem_cons_self c inFirst
    · exact laid_laterItems (level + 1)
        (fun text textMem => laid text (mem_cons_of_mem _ textMem)) c inOthers
    · exact laid_lineBreak level c blank
    · exact laidClosing

theorem printable_of_isDigit {c : Char} (isDigit : c.isDigit = true) : Printable c := by
  have bounds := toNat_of_isDigit isDigit
  exact ⟨by omega, by omega⟩

theorem Storable.laid (storable : Storable value) (level : Nat) :
    ∀ c ∈ (layOut level value).toList, Laid c := by
  induction storable generalizing level with
  | null =>
    rw [layOut]
    exact all_iff_forall_prop.mp (by decide)
  | bool value =>
    rw [layOut]
    cases value with
    | false => exact all_iff_forall_prop.mp (by decide)
    | true => exact all_iff_forall_prop.mp (by decide)
  | @int value readable =>
    intro c mem
    have digit (mem : c ∈ Nat.toDigits 10 value.natAbs) : Laid c :=
      Or.inr (printable_of_isDigit (isDigit_of_mem_digits mem))
    rw [layOut, toList_toString] at mem
    split at mem
    · rcases mem_cons.mp mem with rfl | mem
      · decide
      · exact digit mem
    · exact digit mem
  | str text =>
    rw [layOut]
    exact fun c mem => Or.inr (printable_stringText text c mem)
  | @list items all ih =>
    rw [layOut, layOutAll_eq]
    refine laid_layItems "[" "]" '[' ']' rfl rfl (by decide) (by decide) level ?_
    intro text textMem
    rcases mem_map.mp textMem with ⟨item, itemMem, rfl⟩
    exact ih item itemMem (level + 1)
  | @dict fields distinct all ih =>
    rw [layOut_ofFields]
    refine laid_layItems "\x7b" "\x7d" '\x7b' '\x7d' rfl rfl (by decide) (by decide) level ?_
    intro text textMem c mem
    rcases mem_map.mp textMem with ⟨field, fieldMem, rfl⟩
    rw [memberText, String.toList_append, String.toList_append, mem_append, mem_append] at mem
    rcases mem with (inKey | inColon) | inValue
    · exact Or.inr (printable_stringText field.1 c inKey)
    · exact all_iff_forall_prop.mp (by decide) c inColon
    · exact ih field fieldMem (level + 1) c inValue

end ErpLens.Json
