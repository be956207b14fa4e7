import ErpLens.Accounts.ZeroRows
import ErpLens.Proofs.Fields
import ErpLens.Proofs.Outcomes
import Mathlib

/-!
# Rows with a value and the rows above them

Where no account lies above itself, every step up leads to a parent that has not been passed: there
are no more of them than the table has entries, so the search ends within its bound.
-/

open List

namespace ErpLens.Accounts

open Relation

/-! ## The search upwards -/

section Search

variable {κ : Type} [BEq κ] {parents : ParentMap κ}

/-- An account is listed among the children of another. -/
def LiesIn (parents : ParentMap κ) (child parent : κ) : Prop :=
  ∃ children, (some parent, children) ∈ parents ∧ ∃ name ∈ children, (name == child) = true

theorem mem_parentsOf {child parent : κ} :
    parent ∈ parentsOf parents child ↔ LiesIn parents child parent := by
  simp only [parentsOf, mem_flatMap, mem_filterMap, mem_filter]
  constructor
  · rintro ⟨⟨key, children⟩, familyMem, name, isChild, rfl⟩
    exact ⟨children, familyMem, name, isChild⟩
  · rintro ⟨children, familyMem, name, isChild⟩
    exact ⟨_, familyMem, name, isChild, rfl⟩

omit [BEq κ] in
theorem exists_flatten_mapM {items : List κ} {search : κ → Outcome (List κ)} {leads : κ → κ → Prop}
    (searched : ∀ item ∈ items, ∃ found, search item = .ok found ∧
      ∀ other, other ∈ found ↔ leads item other) :
    ∃ found, (items.mapM fun item => do return item :: (← search item)) = .ok found ∧
      ∀ other, other ∈ found.flatten ↔
        ∃ item ∈ items, other = item ∨ leads item other := by
  choose! found searches leadTo using searched
  refine ⟨items.map fun item => item :: found item, mapM_eq_ok fun item itemMem => ?_, ?_⟩
  · rw [searches item itemMem]
    rfl
  · intro other
    simp only [mem_flatten, mem_map, exists_exists_and_eq_and, mem_cons]
    refine exists_congr fun item => and_congr_right fun itemMem => ?_
    rw [leadTo item itemMem]

/-- The search from an account finds all that lies above it. `passed` are the parents on the way to
the account: they are all different, so with the bound that is left there are more than the table
has. -/
theorem exists_ancestors (acyclic : ∀ account, ¬ TransGen (LiesIn parents) account account)
    {fuel : Nat} {passed : List κ} {account : κ} (distinct : passed.Nodup)
    (areParents : ∀ parent ∈ passed, some parent ∈ parents.map Prod.fst)
    (below : ∀ parent ∈ passed, ReflTransGen (LiesIn parents) parent account)
    (enough : parents.length < passed.length + fuel) :
    ∃ found, ancestors parents fuel account = .ok found ∧
      ∀ other, other ∈ found ↔ TransGen (LiesIn parents) account other := by
  induction fuel generalizing passed account with
  | zero =>
    have atMost : (passed.map some).length ≤ (parents.map Prod.fst).length := by
      apply List.Subperm.length_le
      apply subperm_of_subset (distinct.map (Option.some_injective κ))
      simpa only [subset_def, forall_mem_map] using areParents
    simp only [length_map] at atMost
    omega
  | succ fuel ih =>
    have step : ∀ parent ∈ parentsOf parents account, ∃ found,
        ancestors parents fuel parent = .ok found ∧
          ∀ other, other ∈ found ↔ TransGen (LiesIn parents) parent other := by
      intro parent parentMem
      have liesIn := mem_parentsOf.mp parentMem
      have isNew : parent ∉ passed := fun again =>
        acyclic parent (TransGen.tail' (below parent again) liesIn)
      refine ih (distinct.cons isNew) ?_ ?_ ?_
      · obtain ⟨children, familyMem, -⟩ := liesIn
        exact forall_mem_cons.mpr ⟨mem_map_of_mem familyMem, areParents⟩
      · refine forall_mem_cons.mpr ⟨.refl, fun lower lowerMem => ?_⟩
        exact (below lower lowerMem).tail liesIn
      · rw [length_cons]
        omega
    obtain ⟨found, searched, leadTo⟩ := exists_flatten_mapM step
    refine ⟨found.flatten, ?_, fun other => ?_⟩
    · rw [ancestors, searched]
      rfl
    · simp only [leadTo, mem_parentsOf, ← reflTransGen_iff_eq_or_transGen]
      exact TransGen.head'_iff.symm

theorem exists_withoutZeroRows
    (acyclic : ∀ account, ¬ TransGen (LiesIn parents) account account) {ρ : Type} (account : ρ → κ)
    (hasValue : ρ → Bool) (rows : List ρ) :
    ∃ keep : ρ → Bool, withoutZeroRows account hasValue parents rows = .ok (rows.filter keep) ∧
      ∀ row, keep row = true ↔ ∃ valued ∈ rows, hasValue valued = true ∧
        ∃ above, ReflTransGen (LiesIn parents) (account valued) above ∧
          (account row == above) = true := by
  have eachSearched (item : κ) (_ : item ∈ (rows.filter hasValue).map account) :
      ∃ found, ancestors parents (parents.length + 1) item = .ok found ∧
        ∀ other, other ∈ found ↔ TransGen (LiesIn parents) item other :=
    exists_ancestors acyclic nodup_nil (by simp) (by simp) (by simp)
  obtain ⟨found, searched, leadTo⟩ := exists_flatten_mapM eachSearched
  refine ⟨fun row => found.flatten.contains (account row), ?_, fun row => ?_⟩
  · rw [withoutZeroRows, shownAccounts, searched]
    rfl
  · simp only [contains_iff_exists_mem_beq, leadTo, ← reflTransGen_iff_eq_or_transGen,
      mem_map, mem_filter]
    constructor
    · rintro ⟨above, ⟨_, ⟨valued, ⟨valuedMem, isValued⟩, rfl⟩, reached⟩, sameName⟩
      exact ⟨valued, valuedMem, isValued, above, reached, sameName⟩
    · rintro ⟨valued, valuedMem, isValued, above, reached, sameName⟩
      exact ⟨above, ⟨_, ⟨valued, ⟨valuedMem, isValued⟩, rfl⟩, reached⟩, sameName⟩

end Search

/-! ## Rows of reports -/

/-- The account in a row. -/
def accountIn (row : Value) : Option String :=
  match row.held "account" with
  | some (.str name) => some name
  | _ => none

/-- A row is marked as having a value. -/
def HasValue (row : Value) : Prop :=
  ∃ value, row.held "has_value" = some value ∧ value.truth = true

/-- A row of a report: a dictionary whose account, if it has one, is a text. -/
structure IsReportRow (row : Value) : Prop where
  isDict : row.IsDict
  account : row.held "account" = none ∨ ∃ name, row.held "account" = some (Value.optStr name)

variable (entries : Entries)

/-- Entries list the children of accounts that have names. -/
def AreFamilies : Prop :=
  ∀ entry ∈ entries, (entry.1 = .null ∨ ∃ name, name ≠ "" ∧ entry.1 = .str name) ∧
    ∃ children, entry.2 = .list children ∧
      ∀ child ∈ children, ∃ name, name ≠ "" ∧ child.key "name" = .ok (.str name)

/-- The table lists an account below another. -/
def IsParentIn (child parent : String) : Prop :=
  ∃ children, (Value.str parent, Value.list children) ∈ entries ∧
    ∃ row ∈ children, row.key "name" = .ok (.str child)

/-- The one account is the other or above it. -/
def IsAtOrAbove (high low : Option String) : Prop :=
  low = high ∨ ∃ lower higher, low = some lower ∧ high = some higher ∧
    TransGen (IsParentIn entries) lower higher

theorem optStr_beq_iff (left right : Option String) :
    (Value.optStr left == Value.optStr right) = true ↔ left = right := by
  cases left with
  | some name =>
    rw [Value.optStr, Value.str_beq_iff]
    cases right with
    | none => simp [Value.optStr]
    | some other => simpa [Value.optStr] using eq_comm
  | none =>
    change Value.same _ _ = true ↔ _
    cases right <;> simp [Value.optStr, Value.same, Value.num?]

variable {entries}

theorem exists_familyOf (areFamilies : AreFamilies entries) {entry : Value × Value}
    (entryMem : entry ∈ entries) :
    ∃ family, familyOf entry = .ok family ∧
      (∀ parent, family.1 = some parent ↔ ∃ name, parent = .str name ∧ entry.1 = .str name) ∧
      ∀ child, child ∈ family.2 ↔ ∃ children, entry.2 = .list children ∧
        ∃ row ∈ children, ∃ name, child = .str name ∧ row.key "name" = .ok (.str name) := by
  rcases entry with ⟨key, held⟩
  rcases areFamilies _ entryMem with ⟨isKey, children, rfl, named⟩
  choose! nameOf nonempty nameRead using named
  have names : children.mapM (·.key "name") = .ok (children.map fun row => .str (nameOf row)) :=
    mapM_eq_ok nameRead
  refine ⟨_, by simp only [familyOf, Value.items, ok_bind, names]; rfl, fun parent => ?_,
    fun child => ?_⟩
  · rcases isKey with rfl | ⟨name, isName, rfl⟩
    · simp [Value.truth]
    · have counts : (Value.str name).truth = true := by simp [Value.truth, isName]
      simp only [counts, if_true, Option.some.injEq, Value.str.injEq]
      exact ⟨fun isName => ⟨name, isName.symm, rfl⟩, by rintro ⟨_, rfl, rfl⟩; rfl⟩
  · simp only [mem_map, Value.list.injEq]
    constructor
    · rintro ⟨row, rowMem, rfl⟩
      exact ⟨children, rfl, row, rowMem, nameOf row, rfl, nameRead row rowMem⟩
    · rintro ⟨_, rfl, row, rowMem, name, rfl, read⟩
      exact ⟨row, rowMem, Except.ok.inj ((nameRead row rowMem).symm.trans read)⟩

theorem exists_families (areFamilies : AreFamilies entries) :
    ∃ parents : ParentMap Value, entries.mapM familyOf = .ok parents ∧
      LiesIn parents = Relation.Map (IsParentIn entries) Value.str Value.str := by
  choose! family read isParent isChild using
    fun entry => @exists_familyOf entries areFamilies entry
  refine ⟨entries.map family, mapM_eq_ok read, ?_⟩
  ext child parent
  constructor
  · rintro ⟨names, familyMem, name, nameMem, sameName⟩
    rcases mem_map.mp familyMem with ⟨entry, entryMem, familyEq⟩
    rcases (isParent entry entryMem parent).mp (by rw [familyEq]) with ⟨parentName, rfl, keyEq⟩
    rcases (isChild entry entryMem name).mp (by rwa [familyEq]) with
      ⟨children, heldEq, row, rowMem, childName, rfl, nameRead⟩
    refine ⟨childName, parentName, ⟨children, ?_, row, rowMem, nameRead⟩, ?_, rfl⟩
    · rw [← keyEq, ← heldEq]
      exact entryMem
    · exact ((Value.str_beq_iff childName child).mp sameName).symm
  · rintro ⟨childName, parentName, ⟨children, entryMem, row, rowMem, nameRead⟩, rfl, rfl⟩
    have isKey := (isParent _ entryMem (.str parentName)).mpr ⟨parentName, rfl, rfl⟩
    refine ⟨(family (.str parentName, .list children)).2, ?_, .str childName, ?_, ?_⟩
    · rw [← isKey]
      exact mem_map_of_mem entryMem
    · exact (isChild _ entryMem _).mpr ⟨children, rfl, row, rowMem, childName, rfl, nameRead⟩
    · exact (Value.str_beq_iff childName _).mpr rfl

theorem transGen_map {α β : Type} {relation : α → α → Prop} {f : α → β}
    (injective : Function.Injective f) :
    TransGen (Relation.Map relation f f) = Relation.Map (TransGen relation) f f := by
  ext low high
  constructor
  · intro reached
    induction reached with
    | single step =>
      rcases step with ⟨a, b, related, rfl, rfl⟩
      exact ⟨a, b, .single related, rfl, rfl⟩
    | tail _ step ih =>
      rcases ih with ⟨a, b, reached, rfl, middle⟩
      rcases step with ⟨b', c, related, fromMiddle, rfl⟩
      cases injective (middle.trans fromMiddle.symm)
      exact ⟨a, c, reached.tail related, rfl, rfl⟩
  · rintro ⟨a, b, reached, rfl, rfl⟩
    exact reached.lift f fun _ _ related => ⟨_, _, related, rfl, rfl⟩

theorem IsReportRow.valuedRow_eq {row : Value} (isRow : IsReportRow row) (showZeros : Value) :
    ∃ hasValue : Bool, valuedRow showZeros row =
        .ok (row, Value.optStr (accountIn row), showZeros.truth || hasValue) ∧
      (hasValue = true ↔ HasValue row) := by
  refine ⟨((row.held "has_value").getD .null).truth, ?_, ?_⟩
  · rw [valuedRow, isRow.isDict.get, isRow.isDict.get]
    rcases isRow.account with missing | ⟨name, found⟩
    · simp [accountIn, missing, Value.optStr, ok_bind]
    · cases name <;> simp [accountIn, found, Value.optStr, ok_bind]
  · cases found : row.held "has_value" with
    | none => simp [HasValue, found, Value.truth]
    | some value => simp [HasValue, found]

theorem reflTransGen_optStr_iff {low : Option String} {reached : Value} :
    ReflTransGen (Relation.Map (IsParentIn entries) Value.str Value.str) (Value.optStr low)
        reached ↔
      ∃ high, reached = Value.optStr high ∧ IsAtOrAbove entries high low := by
  rw [reflTransGen_iff_eq_or_transGen, transGen_map fun _ _ => Value.str.inj]
  constructor
  · rintro (rfl | ⟨lower, higher, above, isLow, rfl⟩)
    · exact ⟨low, rfl, .inl rfl⟩
    · refine ⟨some higher, rfl, .inr ⟨lower, higher, ?_, rfl, above⟩⟩
      cases low with
      | none => cases isLow
      | some name => exact congrArg some (Value.str.inj isLow).symm
  · rintro ⟨high, rfl, rfl | ⟨lower, higher, rfl, rfl, above⟩⟩
    · exact .inl rfl
    · exact .inr ⟨lower, higher, above, rfl, rfl⟩

/--
For rows of a report and a table of children by parent in which no account lies above itself, the
rows that stay are given back, in order: those whose account has a value or lies above an account
with a value, by any number of parents in the table. With a row that has a value, the rows of all
accounts above it stay. Where zeros are shown, all rows stay.
-/
theorem visibleRows_keeps_rows_above_values {rows : List Value} {kind : DictKind}
    {entries : Entries} (areRows : ∀ row ∈ rows, IsReportRow row)
    (areFamilies : AreFamilies entries)
    (acyclic : ∀ account, ¬ TransGen (IsParentIn entries) account account) (showZeros : Value) :
    ∃ keep : Value → Bool,
      visibleRows (.list rows) (.dict kind entries) showZeros = .ok (.list (rows.filter keep)) ∧
      (showZeros.truth = true → rows.filter keep = rows) ∧
      (showZeros.truth = false →
        (∀ row ∈ rows, keep row = true ↔ ∃ valued ∈ rows, HasValue valued ∧
          IsAtOrAbove entries (accountIn row) (accountIn valued)) ∧
        ∀ valued ∈ rows, HasValue valued → ∀ account ∈ accountIn valued,
          ∀ row ∈ rows, ∀ above ∈ accountIn row, TransGen (IsParentIn entries) account above →
            row ∈ rows.filter keep) := by
  obtain ⟨parents, parentsRead, sameParents⟩ := exists_families areFamilies
  have searchEnds : ∀ account, ¬ TransGen (LiesIn parents) account account := by
    rw [sameParents, transGen_map fun _ _ => Value.str.inj]
    rintro _ ⟨low, high, above, rfl, same⟩
    exact acyclic low (Value.str.inj same ▸ above)
  choose! hasValue rowRead hasValue_iff using fun row rowMem =>
    (areRows row rowMem).valuedRow_eq showZeros
  let keyed (row : Value) := (row, Value.optStr (accountIn row), showZeros.truth || hasValue row)
  obtain ⟨keepKeyed, kept, keepKeyed_iff⟩ := exists_withoutZeroRows searchEnds
    (fun entry => entry.2.1) (fun entry => entry.2.2) (rows.map keyed)
  have keep_iff (row : Value) : keepKeyed (keyed row) = true ↔
      ∃ valued ∈ rows, (showZeros.truth = true ∨ HasValue valued) ∧
        IsAtOrAbove entries (accountIn row) (accountIn valued) := by
    simp only [keepKeyed_iff, sameParents, List.mem_map, exists_exists_and_eq_and]
    refine exists_congr fun valued => and_congr_right fun valuedMem => and_congr ?_ ?_
    · rw [Bool.or_eq_true, hasValue_iff valued valuedMem]
    · simp only [keyed, reflTransGen_optStr_iff]
      constructor
      · rintro ⟨_, ⟨high, rfl, reached⟩, same⟩
        rwa [(optStr_beq_iff _ _).mp same]
      · intro reached
        exact ⟨_, ⟨accountIn row, rfl, reached⟩, (optStr_beq_iff _ _).mpr rfl⟩
  refine ⟨keepKeyed ∘ keyed, ?_, fun shown => ?_, fun hidden => ⟨fun row _ => ?_, ?_⟩⟩
  · have rowsRead : rows.mapM (valuedRow showZeros) = .ok (rows.map keyed) := mapM_eq_ok rowRead
    simp only [visibleRows, Value.items, Value.entries, rowsRead, parentsRead, kept, ok_bind,
      List.filter_map, List.map_map]
    exact congrArg (fun kept => Except.ok (Value.list kept)) (List.map_id _)
  · refine List.filter_eq_self.mpr fun row rowMem => ?_
    exact (keep_iff row).mpr ⟨row, rowMem, .inl shown, .inl rfl⟩
  · simp [keep_iff, hidden]
  · intro valued valuedMem isValued account isAccount row rowMem above isAbove reached
    refine List.mem_filter.mpr ⟨rowMem, (keep_iff row).mpr ⟨valued, valuedMem, .inr isValued, ?_⟩⟩
    exact .inr ⟨account, above, isAccount, isAbove, reached⟩

variable (account : String)

def markedRow (hasValue : Bool) : Value :=
  .ofFields [("account", .str account), ("has_value", .bool hasValue)]

theorem isReportRow_markedRow (hasValue : Bool) :
    IsReportRow (markedRow account hasValue) where
  isDict := ⟨_, _, rfl⟩
  account := .inr ⟨some account, Value.findEntry_fields _ _⟩

theorem accountIn_markedRow (hasValue : Bool) :
    accountIn (markedRow account hasValue) = some account := by
  have held : (markedRow account hasValue).held "account" = some (.str account) :=
    Value.findEntry_fields _ _
  rw [accountIn, held]

def namedChild (name : String) : Value :=
  .ofFields [("name", .str name)]

theorem key_namedChild (name : String) : (namedChild name).key "name" = .ok (.str name) :=
  Value.key_ofFields rfl

/-- Three accounts, one below the other. -/
def cashFamilies : Entries :=
  [(.null, .list [namedChild "Application"]), (.str "Application", .list [namedChild "Assets"]),
    (.str "Assets", .list [namedChild "Cash"])]

theorem isParentIn_cashFamilies {child parent : String} :
    IsParentIn cashFamilies child parent ↔
      child = "Assets" ∧ parent = "Application" ∨ child = "Cash" ∧ parent = "Assets" := by
  simp only [IsParentIn, cashFamilies, mem_cons, not_mem_nil, Prod.mk.injEq, reduceCtorEq,
    Value.str.injEq, Value.list.injEq, false_and, false_or, or_false]
  constructor
  · rintro ⟨_, ⟨rfl, rfl⟩ | ⟨rfl, rfl⟩, row, rowMem, nameRead⟩
    all_goals
      cases mem_singleton.mp rowMem
      rw [key_namedChild] at nameRead
      cases nameRead
      decide
  · rintro (⟨rfl, rfl⟩ | ⟨rfl, rfl⟩)
    · exact ⟨_, .inl ⟨rfl, rfl⟩, _, mem_singleton.mpr rfl, key_namedChild _⟩
    · exact ⟨_, .inr ⟨rfl, rfl⟩, _, mem_singleton.mpr rfl, key_namedChild _⟩

theorem visibleRows_keeps_rows_above_values_of_cashFamilies :
    AreFamilies cashFamilies ∧
      (∀ account, ¬ TransGen (IsParentIn cashFamilies) account account) ∧
      ∃ kept, visibleRows (.list [markedRow "Application" false, markedRow "Cash" true])
          (.dict .plain cashFamilies) (.bool false) = .ok (.list kept) ∧
        markedRow "Application" false ∈ kept := by
  have areFamilies : AreFamilies cashFamilies := by
    simp only [AreFamilies, cashFamilies, List.forall_mem_cons]
    refine ⟨⟨.inl trivial, _, rfl, ?_⟩, ⟨.inr ⟨_, by decide, rfl⟩, _, rfl, ?_⟩,
      ⟨.inr ⟨_, by decide, rfl⟩, _, rfl, ?_⟩, by simp⟩
    all_goals
      rintro _ (_ | ⟨_, ⟨⟩⟩)
      exact ⟨_, by decide, key_namedChild _⟩
  have acyclic : ∀ account, ¬ TransGen (IsParentIn cashFamilies) account account := by
    -- A parent has a longer name than its child here.
    have longer {low high : String} (above : TransGen (IsParentIn cashFamilies) low high) :
        low.length < high.length := by
      induction above with
      | single step =>
        rcases isParentIn_cashFamilies.mp step with ⟨rfl, rfl⟩ | ⟨rfl, rfl⟩ <;> decide
      | tail _ step ih =>
        refine ih.trans ?_
        rcases isParentIn_cashFamilies.mp step with ⟨rfl, rfl⟩ | ⟨rfl, rfl⟩ <;> decide
    exact fun account above => (longer above).false
  have areRows : ∀ row ∈ [markedRow "Application" false, markedRow "Cash" true],
      IsReportRow row := by
    simp only [List.forall_mem_cons]
    exact ⟨isReportRow_markedRow _ _, isReportRow_markedRow _ _, by simp⟩
  obtain ⟨keep, kept, -, hidden⟩ :=
    visibleRows_keeps_rows_above_values areRows areFamilies acyclic (.bool false)
  refine ⟨areFamilies, acyclic, _, kept, (hidden rfl).2 (markedRow "Cash" true) (by simp)
    ⟨.bool true, Value.findEntry_fields _ _, rfl⟩ "Cash" (accountIn_markedRow _ _) _ (by simp)
    "Application" (accountIn_markedRow _ _) ?_⟩
  exact .tail (.single (isParentIn_cashFamilies.mpr (.inr ⟨rfl, rfl⟩)))
    (isParentIn_cashFamilies.mpr (.inl ⟨rfl, rfl⟩))

end ErpLens.Accounts
