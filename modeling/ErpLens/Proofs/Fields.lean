import ErpLens.Value.Access
import Mathlib.Data.List.Induction

/-!
# Fields of dictionaries with text keys

The lemmas here bring the look-up of a key down to `List.lookup` on the fields, where it can be
computed.
-/

open List

namespace ErpLens

theorem lookup_cons_ite {α : Type} (name key : String) (value : α) (rest : List (String × α)) :
    ((key, value) :: rest).lookup name = if name = key then some value else rest.lookup name := by
  by_cases nameEq : name = key
  · simp [nameEq]
  · simp [lookup_cons, beq_false_of_ne nameEq, nameEq]

namespace Value

variable {fields : Fields} {name : String} {value : Value}
  {entries : Entries}

theorem same_str (left right : String) : same (.str left) (.str right) = (left == right) := by
  simp only [same]

theorem same_int (left right : Int) : same (.int left) (.int right) = decide (left = right) := by
  have compared : same (.int left) (.int right) = (some (compare left right) == some .eq) := by
    simp only [same, num?]
    rfl
  rw [compared, Bool.eq_iff_iff]
  simp

theorem findEntry_fields (name : String) (fields : Fields) :
    findEntry (.str name) (fields.map fun field => (.str field.1, field.2)) =
      fields.lookup name := by
  induction fields with
  | nil => rfl
  | cons field rest ih =>
    rcases field with ⟨key, value⟩
    simp [findEntry, same_str, lookup_cons_ite, ih, eq_comm (a := key)]

theorem key_ofFields (found : fields.lookup name = some value) :
    (ofFields fields).key name = .ok value := by
  simp only [key, ofFields, item, findEntry_fields, found]

theorem getD_ofFields (found : fields.lookup name = some value) (default : Value) :
    (ofFields fields).getD (.str name) default = .ok value := by
  simp [getD, ofFields, findEntry_fields, found]

theorem getD_ofFields_of_none (missing : fields.lookup name = none) (default : Value) :
    (ofFields fields).getD (.str name) default = .ok default := by
  simp [getD, ofFields, findEntry_fields, missing]

theorem get_ofFields (found : fields.lookup name = some value) :
    (ofFields fields).get name = .ok value :=
  getD_ofFields found .null

theorem size_ofFields (fields : Fields) : (ofFields fields).size = .ok fields.length := by
  simp [ofFields, size]

/-! ## Setting keys -/

theorem same_str_iff (key : Value) (name : String) :
    same key (.str name) = true ↔ key = .str name := by
  cases key with
  | str text => simp [same]
  | _ => simp [same, num?]

theorem str_beq_iff (name : String) (value : Value) :
    (str name == value) = true ↔ value = .str name := by
  change same _ _ = true ↔ _
  cases value with
  | str text => rw [same_str, beq_iff_eq, str.injEq, eq_comm]
  | _ => simp [same, num?]

theorem findEntry_putEntry (name other : String) (value : Value) (entries : Entries) :
    findEntry (.str other) (putEntry (.str name) value entries) =
      if other = name then some value else findEntry (.str other) entries := by
  induction entries with
  | nil => simp only [putEntry, findEntry, same_str, beq_iff_eq, eq_comm (a := name)]
  | cons entry rest ih =>
    rcases entry with ⟨key, old⟩
    by_cases isName : same key (.str name) = true
    · rcases (same_str_iff key name).mp isName with rfl
      simp only [putEntry, isName, if_true, findEntry, same_str, beq_iff_eq, eq_comm (a := name)]
      split <;> rfl
    · by_cases isOther : same key (.str other) = true
      · rcases (same_str_iff key other).mp isOther with rfl
        have different : other ≠ name := by
          rintro rfl
          exact isName isOther
        simp [putEntry, isName, findEntry, isOther, different]
      · simp [putEntry, isName, findEntry, isOther, ih]

def IsDict (value : Value) : Prop :=
  ∃ kind entries, value = .dict kind entries

/-- What a dictionary holds under a text. -/
def held (name : String) : Value → Option Value
  | .dict _ entries => findEntry (.str name) entries
  | _ => none

theorem isDict_of_get {row : Value} (found : row.get name = .ok value) : row.IsDict := by
  cases row with
  | dict kind entries => exact ⟨kind, entries, rfl⟩
  | _ => simp [get, getD] at found

namespace IsDict

variable {row : Value} (isDict : row.IsDict)

include isDict

theorem get (name : String) :
    row.get name = .ok ((row.held name).getD .null) := by
  rcases isDict with ⟨kind, entries, rfl⟩
  rfl

theorem key_eq_ok_iff {name : String} {value : Value} :
    row.key name = .ok value ↔ row.held name = some value := by
  rcases isDict with ⟨kind, entries, rfl⟩
  cases found : findEntry (.str name) entries with
  | none => simp [key, item, held, found, isHashable]
  | some other => simp [key, item, held, found]

theorem truth_of_held {name : String} {value : Value}
    (found : row.held name = some value) : row.truth = true := by
  rcases isDict with ⟨kind, entries, rfl⟩
  cases entries with
  | nil => simp [held, findEntry] at found
  | cons entry rest => rfl

theorem exists_setKey (name : String) (new : Value) :
    ∃ changed, row.setKey name new = .ok changed ∧ changed.IsDict ∧
      ∀ other, changed.held other = if other = name then some new else row.held other := by
  rcases isDict with ⟨kind, entries, rfl⟩
  refine ⟨.dict kind (putEntry (.str name) new entries), ?_, ⟨_, _, rfl⟩, ?_⟩
  · simp [setKey, setItem, isHashable]
  · intro other
    exact findEntry_putEntry name other new entries

end IsDict

/-! ## Setting several keys -/

theorem putEntry_of_findEntry (found : findEntry (.str name) entries = some value) :
    putEntry (.str name) value entries = entries := by
  induction entries with
  | nil => simp [findEntry] at found
  | cons entry rest ih =>
    rcases entry with ⟨key, old⟩
    by_cases isName : same key (.str name) = true
    · simp only [findEntry, isName, if_true, Option.some.injEq] at found
      simp [putEntry, isName, found]
    · simp only [findEntry, isName, Bool.false_eq_true, if_false] at found
      simp [putEntry, isName, ih found]

theorem putEntry_putEntry (name : String) (old new : Value) (entries : Entries) :
    putEntry (.str name) new (putEntry (.str name) old entries) =
      putEntry (.str name) new entries := by
  induction entries with
  | nil => simp [putEntry, same_str]
  | cons entry rest ih =>
    by_cases isName : same entry.1 (.str name) = true
    · simp [putEntry, isName]
    · simp [putEntry, isName, ih]

theorem putEntry_comm {other : String} (different : other ≠ name)
    (there : (findEntry (.str other) entries).isSome) (first second : Value) :
    putEntry (.str other) second (putEntry (.str name) first entries) =
      putEntry (.str name) first (putEntry (.str other) second entries) := by
  induction entries with
  | nil => simp [findEntry] at there
  | cons entry rest ih =>
    rcases entry with ⟨key, old⟩
    by_cases isName : same key (.str name) = true
    · have notOther : same key (.str other) = false := by
        rw [(same_str_iff key name).mp isName, same_str, beq_eq_false_iff_ne]
        exact different.symm
      simp [putEntry, isName, notOther]
    · by_cases isOther : same key (.str other) = true
      · simp [putEntry, isName, isOther]
      · simp only [findEntry, isOther, Bool.false_eq_true, if_false] at there
        simp [putEntry, isName, isOther, ih there]

/-- Entries with several fields put one after the other. -/
def putAll (fields : Fields) (entries : Entries) : Entries :=
  fields.foldl (fun entries field => putEntry (.str field.1) field.2 entries) entries

theorem putAll_cons (field : String × Value) (rest : Fields) (entries : Entries) :
    putAll (field :: rest) entries = putAll rest (putEntry (.str field.1) field.2 entries) :=
  rfl

theorem putAll_concat (fields : Fields) (field : String × Value) (entries : Entries) :
    putAll (fields ++ [field]) entries =
      putEntry (.str field.1) field.2 (putAll fields entries) := by
  rw [putAll, foldl_append]
  rfl

theorem findEntry_putAll_of_not_mem (others : name ∉ fields.map Prod.fst) (entries : Entries) :
    findEntry (.str name) (putAll fields entries) = findEntry (.str name) entries := by
  induction fields generalizing entries with
  | nil => rfl
  | cons field rest ih =>
    rw [map_cons, mem_cons, not_or] at others
    rw [putAll_cons, ih others.2, findEntry_putEntry, if_neg others.1]

theorem exists_findEntry_putAll (isSet : name ∈ fields.map Prod.fst) (entries : Entries) :
    ∃ field ∈ fields, field.1 = name ∧
      findEntry (.str name) (putAll fields entries) = some field.2 := by
  induction fields generalizing entries with
  | nil => simp at isSet
  | cons field rest ih =>
    rw [putAll_cons]
    by_cases later : name ∈ rest.map Prod.fst
    · rcases ih later _ with ⟨last, lastMem, found⟩
      exact ⟨last, mem_cons_of_mem _ lastMem, found⟩
    · have isFirst : name = field.1 := by simpa [later] using isSet
      refine ⟨field, mem_cons_self, isFirst.symm, ?_⟩
      rw [findEntry_putAll_of_not_mem later, findEntry_putEntry, if_pos isFirst]

theorem putEntry_putAll_putEntry
    (there : ∀ field ∈ fields, (findEntry (.str field.1) entries).isSome) (name : String)
    (old new : Value) :
    putEntry (.str name) new (putAll fields (putEntry (.str name) old entries)) =
      putEntry (.str name) new (putAll fields entries) := by
  induction fields generalizing entries with
  | nil => exact putEntry_putEntry name old new entries
  | cons field rest ih =>
    rw [forall_mem_cons] at there
    rw [putAll_cons, putAll_cons]
    by_cases isName : field.1 = name
    · rw [isName, putEntry_putEntry]
    · rw [putEntry_comm isName there.1]
      apply ih
      intro other otherMem
      rw [findEntry_putEntry]
      split
      · rfl
      · exact there.2 other otherMem

/-- Of keys that are set twice, only the second values are left. -/
theorem putAll_putAll {first second : Fields} (sameKeys : first.map Prod.fst = second.map Prod.fst)
    (entries : Entries) : putAll second (putAll first entries) = putAll second entries := by
  induction first using List.reverseRecOn generalizing second with
  | nil =>
    obtain rfl : second = [] := by simpa using sameKeys.symm
    rfl
  | append_singleton init last ih =>
    rcases eq_nil_or_concat second with rfl | ⟨others, final, rfl⟩
    · simp at sameKeys
    · rw [concat_eq_append, map_append, map_append] at sameKeys
      rcases append_inj' sameKeys rfl with ⟨sameInit, sameLast⟩
      have name : last.1 = final.1 := by simpa using sameLast
      rw [concat_eq_append, putAll_concat, putAll_concat, putAll_concat, name,
        putEntry_putAll_putEntry, ih sameInit]
      intro field fieldMem
      have isSet : field.1 ∈ init.map Prod.fst := by
        rw [sameInit]
        exact mem_map_of_mem fieldMem
      rcases exists_findEntry_putAll isSet entries with ⟨_, _, _, found⟩
      rw [found]
      rfl

/-- A dictionary with several fields put one after the other. -/
def withKeys (fields : Fields) : Value → Value
  | .dict kind entries => .dict kind (putAll fields entries)
  | value => value

namespace IsDict

variable {row : Value} (isDict : row.IsDict)

include isDict

theorem withKeys (fields : Fields) : (row.withKeys fields).IsDict := by
  rcases isDict with ⟨kind, entries, rfl⟩
  exact ⟨_, _, rfl⟩

theorem held_withKeys_of_not_mem {name : String} (others : name ∉ fields.map Prod.fst) :
    (row.withKeys fields).held name = row.held name := by
  rcases isDict with ⟨kind, entries, rfl⟩
  exact findEntry_putAll_of_not_mem others entries

theorem held_withKeys_of_mem {field : String × Value} (isSet : field ∈ fields)
    (unique : ∀ other ∈ fields, other.1 = field.1 → other = field) :
    (row.withKeys fields).held field.1 = some field.2 := by
  rcases isDict with ⟨kind, entries, rfl⟩
  rcases exists_findEntry_putAll (mem_map_of_mem isSet) entries with
    ⟨other, otherMem, sameName, found⟩
  rwa [unique other otherMem sameName] at found

theorem withKeys_withKeys {first second : Fields}
    (sameKeys : first.map Prod.fst = second.map Prod.fst) :
    (row.withKeys first).withKeys second = row.withKeys second := by
  rcases isDict with ⟨kind, entries, rfl⟩
  exact congrArg (Value.dict kind) (putAll_putAll sameKeys entries)

theorem withKeys_nil : row.withKeys [] = row := by
  rcases isDict with ⟨kind, entries, rfl⟩
  rfl

theorem withKeys_append (first second : Fields) :
    row.withKeys (first ++ second) = (row.withKeys first).withKeys second := by
  rcases isDict with ⟨kind, entries, rfl⟩
  simp [Value.withKeys, putAll]

theorem withKeys_of_held {name : String} {value : Value}
    (found : row.held name = some value) : row.withKeys [(name, value)] = row := by
  rcases isDict with ⟨kind, entries, rfl⟩
  exact congrArg (Value.dict kind) (putEntry_of_findEntry found)

theorem withKeys_of_forall_held
    (held : ∀ field ∈ fields, row.held field.1 = some field.2) : row.withKeys fields = row := by
  induction fields with
  | nil => exact isDict.withKeys_nil
  | cons field rest ih =>
    rw [forall_mem_cons] at held
    rw [← singleton_append, isDict.withKeys_append, isDict.withKeys_of_held held.1]
    exact ih held.2

theorem foldlM_setItem (fields : Fields) :
    fields.foldlM (fun row field => row.setItem (.str field.1) field.2) row =
      .ok (row.withKeys fields) := by
  rcases isDict with ⟨kind, entries, rfl⟩
  induction fields generalizing entries with
  | nil => rfl
  | cons field rest ih =>
    rw [foldlM_cons]
    exact ih (putEntry (.str field.1) field.2 entries)

end IsDict

/-! ## Setting fields -/

theorem find?_putField (name : String) (new : Value) (fields : Fields) :
    ((putField name new fields).find? fun field => field.1 == name).map Prod.snd = some new := by
  induction fields with
  | nil => simp [putField]
  | cons field rest ih =>
    by_cases isName : (field.1 == name) = true
    · simp [putField, isName]
    · simp [putField, isName, ih]

theorem putField_putField (name : String) (old new : Value) (fields : Fields) :
    putField name new (putField name old fields) = putField name new fields := by
  induction fields with
  | nil => simp [putField]
  | cons field rest ih =>
    by_cases isName : (field.1 == name) = true
    · simp [putField, isName]
    · simp [putField, isName, ih]

theorem putField_of_find?
    (found : (fields.find? fun field => field.1 == name).map Prod.snd = some value) :
    putField name value fields = fields := by
  induction fields with
  | nil => simp at found
  | cons field rest ih =>
    by_cases isName : (field.1 == name) = true
    · simp only [find?_cons, isName, Option.map_some, Option.some.injEq] at found
      simp [putField, isName, ← found]
    · simp only [find?_cons, isName] at found
      simp [putField, isName, ih found]

theorem exists_setField {row old : Value} (there : row.field? name = some old) (new : Value) :
    ∃ changed, row.setField name new = .ok changed ∧
      changed.field? name = some new := by
  cases row with
  | dict kind entries =>
    cases kind with
    | plain => simp [field?] at there
    | record => exact ⟨_, rfl, by rw [field?, findEntry_putEntry, if_pos rfl]⟩
  | object class_ fields => exact ⟨_, rfl, find?_putField name new fields⟩
  | _ => simp [field?] at there

theorem setField_of_field? {row : Value} (held : row.field? name = some value) :
    row.setField name value = .ok row := by
  cases row with
  | dict kind entries =>
    cases kind with
    | plain => simp [field?] at held
    | record => rw [setField, putEntry_of_findEntry held]
  | object class_ fields => rw [setField, putField_of_find? held]
  | _ => simp [field?] at held

end Value

end ErpLens
