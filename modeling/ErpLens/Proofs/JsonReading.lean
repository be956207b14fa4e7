import ErpLens.Proofs.JsonRoundTrip

/-!
# What reading gives

A value that was read can be written and read again: its numbers are not too long and the keys of
its dictionaries differ. Numbers with a fraction are set aside.
-/

open List

namespace ErpLens.Json

variable {chars rest : List Char} {value : Value} {entries : Entries}

open Source.Number

/-! ## Numbers with a fraction -/

mutual

/-- A value has no number with a fraction in it. -/
def isFloatFree : Value → Bool
  | .float _ => false
  | .list items | .tuple items | .set items | .deque items => areFloatFree items
  | .dict _ entries => areEntriesFloatFree entries
  | .object _ fields => areFieldsFloatFree fields
  | _ => true

def areFloatFree : List Value → Bool
  | [] => true
  | item :: rest => isFloatFree item && areFloatFree rest

def areEntriesFloatFree : Entries → Bool
  | [] => true
  | (key, value) :: rest => isFloatFree key && isFloatFree value && areEntriesFloatFree rest

def areFieldsFloatFree : Fields → Bool
  | [] => true
  | (_, value) :: rest => isFloatFree value && areFieldsFloatFree rest

end

/-- A value that can be stored if it holds no number with a fraction. -/
def Keeps (value : Value) : Prop :=
  isFloatFree value = true → Storable value

/-! ## Numbers -/

theorem digitValue_lt {c : Char} (isDigit : c.isDigit = true) : digitValue c < 10 := by
  have bounds := toNat_of_isDigit isDigit
  rw [digitValue, if_pos isDigit]
  omega

theorem ofDigits_lt {digits : List Char} (areDigits : ∀ c ∈ digits, c.isDigit = true) :
    ofDigits 10 digits < Nat.pow 10 digits.length := by
  have bound (value : Nat) :
      digits.foldl (fun value c => value * 10 + digitValue c) value <
        (value + 1) * Nat.pow 10 digits.length := by
    induction digits generalizing value with
    | nil => simp
    | cons c digits ih =>
      have digit := digitValue_lt (areDigits c mem_cons_self)
      have later := ih (fun d mem => areDigits d (mem_cons_of_mem _ mem))
        (value * 10 + digitValue c)
      rw [foldl_cons]
      calc _ < (value * 10 + digitValue c + 1) * Nat.pow 10 digits.length := later
        _ ≤ ((value + 1) * 10) * Nat.pow 10 digits.length :=
          Nat.mul_le_mul_right _ (by omega)
        _ = (value + 1) * Nat.pow 10 (digits.length + 1) := by
          rw [Nat.mul_assoc, Nat.mul_comm 10]
          rfl
  simpa [ofDigits] using bound 0

theorem isDigit_of_readWhole? {whole : List Char} (read : readWhole? chars = some (whole, rest)) :
    0 < whole.length ∧ ∀ c ∈ whole, c.isDigit = true := by
  unfold readWhole? at read
  split at read
  · simp only [Option.some.injEq, Prod.mk.injEq] at read
    rw [← read.1]
    exact ⟨by decide, all_eq_true.mp rfl⟩
  · simp only at read
    split at read
    · simp at read
    · rename_i notEmpty
      simp only [Option.some.injEq, Prod.mk.injEq] at read
      rw [← read.1]
      refine ⟨?_, all_eq_true.mp all_takeWhile⟩
      rw [length_pos_iff]
      simpa using notEmpty

theorem readNumber?_cases (read : readNumber? chars = some (value, rest)) :
    (∃ number, value = .float number) ∨ ∃ number, value = .int number ∧ Readable number := by
  unfold readNumber? at read
  rcases signed : readSign chars with ⟨negative, after⟩
  rw [signed] at read
  simp only [Option.bind_eq_bind] at read
  rcases Option.bind_eq_some_iff.mp read with ⟨⟨whole, more⟩, wholeRead, read⟩
  rcases isDigit_of_readWhole? wholeRead with ⟨notEmpty, areDigits⟩
  simp only at read
  split at read
  · split at read
    · simp at read
    · rename_i short
      simp only [pure, Option.some.injEq, Prod.mk.injEq] at read
      refine Or.inr ⟨_, read.1.symm, ?_⟩
      have size : (if negative then -(ofDigits 10 whole : Int) else ofDigits 10 whole).natAbs =
          ofDigits 10 whole := by
        split <;> omega
      rw [Readable, size]
      refine Nat.le_trans ?_ (Nat.le_of_not_lt short)
      rw [Nat.length_toDigits_le_iff (by omega) notEmpty]
      exact ofDigits_lt areDigits
  · simp only [pure, Option.some.injEq, Prod.mk.injEq] at read
    exact Or.inl ⟨_, read.1.symm⟩

theorem keeps_readNumber? (read : readNumber? chars = some (value, rest)) : Keeps value := by
  intro floatFree
  rcases readNumber?_cases read with ⟨number, rfl⟩ | ⟨number, rfl, readable⟩
  · simp [isFloatFree] at floatFree
  · exact Storable.int readable

theorem keeps_readWord? (read : readWord? chars = some (value, rest)) : Keeps value := by
  intro floatFree
  rw [readWord?, Option.map_eq_some_iff] at read
  rcases read with ⟨entry, found, same⟩
  have entryMem := mem_of_find?_eq_some found
  simp only [Prod.mk.injEq] at same
  rw [← same.1] at floatFree ⊢
  simp only [wordValues, mem_cons, not_mem_nil, or_false] at entryMem
  rcases entryMem with rfl | rfl | rfl | rfl | rfl | rfl
  · exact Storable.null
  · exact Storable.bool true
  · exact Storable.bool false
  all_goals simp [isFloatFree] at floatFree

/-! ## Entries -/

/-- Entries with different texts as keys, and values that can be stored if they hold no number with
a fraction. -/
def KeepsEntries (entries : Entries) : Prop :=
  ∃ fields : Fields, entries = entriesOf fields ∧ (fields.map Prod.fst).Nodup ∧
    ∀ field ∈ fields, Keeps field.2

theorem exists_putEntry_entriesOf (key : String) (value : Value) (fields : Fields) :
    ∃ put : Fields,
      Value.putEntry (.str key) value (entriesOf fields) = entriesOf put ∧
      (put.map Prod.fst = fields.map Prod.fst ∨
        key ∉ fields.map Prod.fst ∧ put.map Prod.fst = fields.map Prod.fst ++ [key]) ∧
      ∀ field ∈ put, field ∈ fields ∨ field.2 = value := by
  induction fields with
  | nil => exact ⟨[(key, value)], rfl, Or.inr ⟨by simp, rfl⟩, by simp⟩
  | cons first fields ih =>
    rw [entriesOf_cons, Value.putEntry, Value.same_str]
    by_cases sameKey : first.1 = key
    · refine ⟨(first.1, value) :: fields, ?_, Or.inl rfl, ?_⟩
      · simp [sameKey, entriesOf_cons]
      · intro field mem
        rcases mem_cons.mp mem with rfl | mem
        · exact Or.inr rfl
        · exact Or.inl (mem_cons_of_mem _ mem)
    · rcases ih with ⟨put, written, keys, values⟩
      refine ⟨first :: put, ?_, ?_, ?_⟩
      · rw [written, entriesOf_cons]
        simp [sameKey]
      · rcases keys with keys | ⟨new, keys⟩
        · exact Or.inl (by rw [map_cons, keys, map_cons])
        · refine Or.inr ⟨?_, by rw [map_cons, keys, map_cons, cons_append]⟩
          simp only [map_cons, mem_cons, not_or]
          exact ⟨Ne.symm sameKey, new⟩
      · intro field mem
        rcases mem_cons.mp mem with rfl | mem
        · exact Or.inl mem_cons_self
        · rcases values field mem with old | new
          · exact Or.inl (mem_cons_of_mem _ old)
          · exact Or.inr new

theorem KeepsEntries.nil : KeepsEntries [] :=
  ⟨[], rfl, nodup_nil, by simp⟩

theorem KeepsEntries.put (kept : KeepsEntries entries) (key : String) (keeps : Keeps value) :
    KeepsEntries (Value.putEntry (.str key) value entries) := by
  rcases kept with ⟨fields, rfl, distinct, all⟩
  rcases exists_putEntry_entriesOf key value fields with ⟨put, written, keys, values⟩
  refine ⟨put, written, ?_, ?_⟩
  · rcases keys with keys | ⟨new, keys⟩
    · rwa [keys]
    · rw [keys, nodup_append]
      refine ⟨distinct, by simp, ?_⟩
      intro old oldMem other otherMem
      rw [mem_singleton.mp otherMem]
      rintro rfl
      exact new oldMem
  · intro field mem
    rcases values field mem with old | new
    · exact all field old
    · rwa [new]

theorem areEntriesFloatFree_entriesOf (fields : Fields) :
    areEntriesFloatFree (entriesOf fields) = true ↔
      ∀ field ∈ fields, isFloatFree field.2 = true := by
  induction fields with
  | nil => simp [entriesOf, areEntriesFloatFree]
  | cons field fields ih =>
    simp [entriesOf_cons, areEntriesFloatFree, isFloatFree, ih]

theorem KeepsEntries.keeps (kept : KeepsEntries entries) : Keeps (.dict .plain entries) := by
  rcases kept with ⟨fields, rfl, distinct, all⟩
  intro floatFree
  rw [isFloatFree, areEntriesFloatFree_entriesOf] at floatFree
  exact Storable.dict distinct fun field mem => all field mem (floatFree field mem)

theorem areFloatFree_iff (items : List Value) :
    areFloatFree items = true ↔ ∀ item ∈ items, isFloatFree item = true := by
  induction items with
  | nil => simp [areFloatFree]
  | cons item items ih => simp [areFloatFree, ih]

theorem keeps_list {items : List Value} (all : ∀ item ∈ items, Keeps item) :
    Keeps (.list items) := by
  intro floatFree
  rw [isFloatFree, areFloatFree_iff] at floatFree
  exact Storable.list fun item mem => all item mem (floatFree item mem)

/-! ## Values -/

theorem readValue_cases {fuel : Nat} (read : readValue (fuel + 1) chars = .ok (value, rest)) :
    (∃ text, value = .str text) ∨
      (∃ entries inner, value = .dict .plain entries ∧
        (entries = [] ∨ readMembers fuel [] inner = .ok (entries, rest))) ∨
      (∃ items inner, value = .list items ∧
        (items = [] ∨ readItems fuel inner = .ok (items, rest))) ∨
      readWord? chars = some (value, rest) ∨ readNumber? chars = some (value, rest) := by
  unfold readValue at read
  split at read
  · rcases bind_eq_ok.mp read with ⟨⟨text, after⟩, -, same⟩
    simp only [pure, Except.pure, Except.ok.injEq, Prod.mk.injEq] at same
    exact Or.inl ⟨text, same.1.symm⟩
  · split at read
    · simp only [Except.ok.injEq, Prod.mk.injEq] at read
      exact Or.inr (Or.inl ⟨[], [], read.1.symm, Or.inl rfl⟩)
    · rcases bind_eq_ok.mp read with ⟨⟨entries, after⟩, members, same⟩
      simp only [pure, Except.pure, Except.ok.injEq, Prod.mk.injEq] at same
      rcases same with ⟨rfl, rfl⟩
      exact Or.inr (Or.inl ⟨entries, _, rfl, Or.inr members⟩)
  · split at read
    · simp only [Except.ok.injEq, Prod.mk.injEq] at read
      exact Or.inr (Or.inr (Or.inl ⟨[], [], read.1.symm, Or.inl rfl⟩))
    · rcases bind_eq_ok.mp read with ⟨⟨items, after⟩, found, same⟩
      simp only [pure, Except.pure, Except.ok.injEq, Prod.mk.injEq] at same
      rcases same with ⟨rfl, rfl⟩
      exact Or.inr (Or.inr (Or.inl ⟨items, _, rfl, Or.inr found⟩))
  · split at read
    · rename_i found scalar
      rw [Except.ok.injEq] at read
      rw [read] at scalar
      cases word : readWord? chars with
      | some _ =>
        rw [word] at scalar
        exact Or.inr (Or.inr (Or.inr (Or.inl scalar)))
      | none =>
        rw [word] at scalar
        exact Or.inr (Or.inr (Or.inr (Or.inr scalar)))
    · simp [stop] at read

theorem readItems_cases {fuel : Nat} {items : List Value}
    (read : readItems (fuel + 1) chars = .ok (items, rest)) :
    ∃ first others last, items = first :: others ∧ readValue fuel chars = .ok (first, last) ∧
      (others = [] ∨ ∃ next, readItems fuel next = .ok (others, rest)) := by
  rw [readItems] at read
  rcases bind_eq_ok.mp read with ⟨⟨first, last⟩, firstRead, read⟩
  simp only at read
  split at read
  · rcases bind_eq_ok.mp read with ⟨⟨others, after⟩, later, same⟩
    simp only [pure, Except.pure, Except.ok.injEq, Prod.mk.injEq] at same
    rcases same with ⟨rfl, rfl⟩
    exact ⟨first, others, last, rfl, firstRead, Or.inr ⟨_, later⟩⟩
  · simp only [pure, Except.pure, Except.ok.injEq, Prod.mk.injEq] at read
    exact ⟨first, [], last, read.1.symm, firstRead, Or.inl rfl⟩
  · simp [stop] at read

theorem readMembers_cases {fuel : Nat} {found : Entries}
    (read : readMembers (fuel + 1) found chars = .ok (entries, rest)) :
    ∃ key value inner last, readValue fuel inner = .ok (value, last) ∧
      (entries = Value.putEntry (.str key) value found ∨
        ∃ next, readMembers fuel (Value.putEntry (.str key) value found) next =
          .ok (entries, rest)) := by
  unfold readMembers at read
  split at read
  · simp [stop] at read
  · rename_i step quoted same
    obtain rfl : fuel = step := Nat.succ.inj same
    rcases bind_eq_ok.mp read with ⟨⟨key, after⟩, -, read⟩
    simp only at read
    split at read
    · rcases bind_eq_ok.mp read with ⟨⟨value, last⟩, valueRead, read⟩
      simp only at read
      split at read
      · exact ⟨key, value, _, last, valueRead, Or.inr ⟨_, read⟩⟩
      · simp only [pure, Except.pure, Except.ok.injEq, Prod.mk.injEq] at read
        exact ⟨key, value, _, last, valueRead, Or.inl read.1.symm⟩
      · simp [stop] at read
    · simp [stop] at read
  · simp [stop] at read

/-- Every reader gives values that can be stored if they hold no number with a fraction. The three
readers use one another with less fuel, so that the induction is on the fuel for all of them. -/
theorem keeps_of_read (fuel : Nat) :
    (∀ chars value rest, readValue fuel chars = .ok (value, rest) → Keeps value) ∧
      (∀ chars items rest, readItems fuel chars = .ok (items, rest) → ∀ item ∈ items, Keeps item) ∧
      (∀ found chars entries rest, KeepsEntries found →
        readMembers fuel found chars = .ok (entries, rest) → KeepsEntries entries) := by
  induction fuel with
  | zero =>
    refine ⟨?_, ?_, ?_⟩
    · intro chars value rest read
      simp [readValue, stop] at read
    · intro chars items rest read
      simp [readItems, stop] at read
    · intro found chars entries rest _ read
      simp [readMembers, stop] at read
  | succ fuel ih =>
    rcases ih with ⟨values, lists, members⟩
    refine ⟨?_, ?_, ?_⟩
    · intro chars value rest read
      rcases readValue_cases read with
        ⟨text, rfl⟩ | ⟨entries, inner, rfl, found⟩ | ⟨items, inner, rfl, found⟩ | word | number
      · exact fun _ => Storable.str text
      · rcases found with rfl | found
        · exact KeepsEntries.nil.keeps
        · exact (members [] inner entries rest KeepsEntries.nil found).keeps
      · rcases found with rfl | found
        · exact keeps_list (by simp)
        · exact keeps_list (lists inner items rest found)
      · exact keeps_readWord? word
      · exact keeps_readNumber? number
    · intro chars items rest read
      rcases readItems_cases read with ⟨first, others, last, rfl, firstRead, later⟩
      intro item mem
      rcases mem_cons.mp mem with rfl | mem
      · exact values chars item last firstRead
      · rcases later with rfl | ⟨next, later⟩
        · simp at mem
        · exact lists next others rest later item mem
    · intro found chars entries rest kept read
      rcases readMembers_cases read with ⟨key, value, inner, last, valueRead, later⟩
      have put := kept.put key (values inner value last valueRead)
      rcases later with rfl | ⟨next, later⟩
      · exact put
      · exact members _ next entries rest put later

/-- What was read can be written and read again. -/
theorem storable_of_read {text : String} (found : read text = some value)
    (floatFree : isFloatFree value = true) : Storable value := by
  have parsed : parse text = .ok value := by
    rw [read] at found
    cases outcome : parse text with
    | error fault => simp [outcome, Except.toOption] at found
    | ok parsed =>
      simp only [outcome, Except.toOption, Option.some.injEq] at found
      rw [found]
  unfold parse at parsed
  simp only at parsed
  split at parsed
  · simp [stop] at parsed
  · rcases bind_eq_ok.mp parsed with ⟨⟨whole, rest⟩, wholeRead, ends⟩
    simp only at ends
    split at ends
    · simp only [pure, Except.pure, Except.ok.injEq] at ends
      rw [ends] at wholeRead
      exact (keeps_of_read _).1 _ _ _ wholeRead floatFree
    · simp [stop] at ends

end ErpLens.Json
