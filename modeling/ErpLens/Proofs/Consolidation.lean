import ErpLens.Accounts.TrialBalance
import ErpLens.Proofs.Fields
import ErpLens.Proofs.Outcomes
import Mathlib

/-!
# Trial balances of several companies add up

An entry of a company joins the row of its account name or becomes a row of its own. Where it goes
depends on the charts of accounts; what it adds does not, as `Adds` says.
-/

open List

namespace ErpLens.Accounts

variable {entry : Value} {rows : List PlacedRow} {company : List Value}

/-! ## Rows of trial balances -/

/-- The account name in a row. -/
def accountName (row : Value) : Option String :=
  match row.key "account_name" with
  | .ok (.str name) => some name
  | _ => none

def wholeAt (field : String) (row : Value) : Int :=
  match row.key field with
  | .ok (.int amount) => amount
  | _ => 0

/-- What the rows of an account name have in a field. -/
def amountIn (field name : String) (rows : List Value) : Int :=
  ((rows.filter fun row => accountName row = some name).map (wholeAt field)).sum

/-- A row with an account name and whole amounts, whose indentation is a number or left out. -/
structure IsBalanceRow (row : Value) : Prop where
  isDict : row.IsDict
  named : ∃ name, row.key "account_name" = .ok (.str name)
  whole : ∀ field ∈ joinedFields, ∃ amount : Int, row.key field = .ok (.int amount)
  indented : ∃ indent number, row.get "indent" = .ok indent ∧
    (indent.orElse (.int 0)).num? = some number

/-- Rows of a trial balance with distinct account names. -/
structure IsTrialBalance (rows : List Value) : Prop where
  areRows : ∀ row ∈ rows, IsBalanceRow row
  distinct : (rows.map accountName).Nodup

namespace IsBalanceRow

variable {row : Value} (isRow : IsBalanceRow row)

include isRow

theorem held_accountName :
    ∃ name, row.held "account_name" = some (.str name) ∧ accountName row = some name := by
  rcases isRow.named with ⟨name, found⟩
  exact ⟨name, isRow.isDict.key_eq_ok_iff.mp found, by simp only [accountName, found]⟩

theorem held_field {field : String} (isField : field ∈ joinedFields) :
    row.held field = some (.int (wholeAt field row)) := by
  rcases isRow.whole field isField with ⟨amount, found⟩
  have amountEq : wholeAt field row = amount := by simp only [wholeAt, found]
  rw [amountEq]
  exact isRow.isDict.key_eq_ok_iff.mp found

theorem key_field {field : String} (isField : field ∈ joinedFields) :
    row.key field = .ok (.int (wholeAt field row)) :=
  isRow.isDict.key_eq_ok_iff.mpr (isRow.held_field isField)

theorem truth : row.truth = true := by
  rcases isRow.held_accountName with ⟨name, found, _⟩
  exact isRow.isDict.truth_of_held found

theorem of_held {changed : Value} {indent : Value} {number : Num} {amounts : String → Int}
    (isDict : changed.IsDict) (sameName : changed.held "account_name" = row.held "account_name")
    (whole : ∀ field ∈ joinedFields, changed.held field = some (.int (amounts field)))
    (indented : changed.get "indent" = .ok indent)
    (counts : (indent.orElse (.int 0)).num? = some number) :
    IsBalanceRow changed ∧ accountName changed = accountName row ∧
      ∀ field ∈ joinedFields, wholeAt field changed = amounts field := by
  rcases isRow.held_accountName with ⟨name, nameHeld, nameEq⟩
  have changedName : changed.key "account_name" = .ok (.str name) :=
    isDict.key_eq_ok_iff.mpr (sameName.trans nameHeld)
  have changedField : ∀ field ∈ joinedFields, changed.key field = .ok (.int (amounts field)) :=
    fun field isField => isDict.key_eq_ok_iff.mpr (whole field isField)
  refine ⟨⟨isDict, ⟨name, changedName⟩, ?_, ⟨indent, number, indented, counts⟩⟩, ?_, ?_⟩
  · exact fun field isField => ⟨amounts field, changedField field isField⟩
  · rw [nameEq]
    simp only [accountName, changedName]
  · intro field isField
    simp only [wholeAt, changedField field isField]

end IsBalanceRow

/-! ## Changing one row -/

variable {row : Value}

theorem exists_foldlM_addKey {fields : List String} (distinct : fields.Nodup) (isDict : row.IsDict)
    {old new : String → Int} (rowHolds : ∀ field ∈ fields, row.held field = some (.int (old field)))
    (entryHolds : ∀ field ∈ fields, entry.key field = .ok (.int (new field))) :
    ∃ sums, fields.foldlM (fun row name => do row.addKey name (← entry.key name)) row = .ok sums ∧
      sums.IsDict ∧ (∀ field ∈ fields, sums.held field = some (.int (old field + new field))) ∧
      ∀ other, other ∉ fields → sums.held other = row.held other := by
  refine exists_foldlM (motive := fun done (sums : Value) => sums.IsDict ∧
    (∀ field ∈ done, sums.held field = some (.int (old field + new field))) ∧
    ∀ other, other ∉ done → sums.held other = row.held other) ⟨isDict, by simp, by simp⟩ ?_
  rintro before field after sums split ⟨sumsDict, sumsDone, sumsOther⟩
  have fieldMem : field ∈ fields := by simp [split]
  have notBefore : field ∉ before := by
    intro fieldBefore
    rw [split, nodup_append] at distinct
    exact distinct.2.2 field fieldBefore field mem_cons_self rfl
  have untouched : sums.key field = .ok (.int (old field)) :=
    sumsDict.key_eq_ok_iff.mpr ((sumsOther field notBefore).trans (rowHolds field fieldMem))
  rcases sumsDict.exists_setKey field (.int (old field + new field)) with
    ⟨changed, set, changedDict, changedHolds⟩
  refine ⟨changed, ?_, changedDict, ?_, ?_⟩
  · rw [entryHolds field fieldMem, ok_bind, Value.addKey, untouched]
    exact set
  · intro other otherMem
    rw [changedHolds]
    split
    · rename_i isField
      rw [isField]
    · rename_i notField
      exact sumsDone other (by simpa [notField] using otherMem)
  · intro other otherNotMem
    rw [changedHolds, if_neg (by rintro rfl; simp at otherNotMem)]
    exact sumsOther other (by simp_all)

theorem exists_joinRow (isRow : IsBalanceRow row) (isEntry : IsBalanceRow entry) :
    ∃ joined, joinRow entry row = .ok joined ∧ IsBalanceRow joined ∧
      accountName joined = accountName row ∧
      ∀ field ∈ joinedFields, wholeAt field joined = wholeAt field row + wholeAt field entry := by
  rcases exists_foldlM_addKey (by decide) isRow.isDict (fun _ => isRow.held_field)
    (fun _ => isEntry.key_field) with ⟨sums, added, sumsDict, sumsHold, sumsOther⟩
  rcases sumsDict.exists_setKey "has_value" (.int 1) with
    ⟨joined, set, joinedDict, joinedHolds⟩
  rcases isRow.indented with ⟨indent, number, indented, counts⟩
  have unmarked : ∀ field, field ≠ "has_value" → joined.held field = sums.held field :=
    fun field notMark => by rw [joinedHolds, if_neg notMark]
  have sameIndent : joined.get "indent" = row.get "indent" := by
    rw [joinedDict.get, isRow.isDict.get, unmarked _ (by decide), sumsOther _ (by decide)]
  have sameName : joined.held "account_name" = row.held "account_name" := by
    rw [unmarked _ (by decide), sumsOther _ (by decide)]
  refine ⟨joined, ?_, isRow.of_held joinedDict sameName ?_ (sameIndent.trans indented) counts⟩
  · rw [joinRow, added]
    exact set
  · intro field isField
    rw [unmarked field (by rintro rfl; revert isField; decide)]
    exact sumsHold field isField

/-- A row with the account and the amounts of an entry, wherever it stands. -/
structure Carries (entry row : Value) : Prop where
  isRow : IsBalanceRow row
  name : accountName row = accountName entry
  amounts : ∀ field ∈ joinedFields, wholeAt field row = wholeAt field entry

theorem exists_setKeys_place (isEntry : IsBalanceRow entry) (parent : Value) {indent : Value}
    {number : Num} (counts : (indent.orElse (.int 0)).num? = some number) :
    ∃ moved, entry.setKeys [("parent_account", parent), ("indent", indent)] = .ok moved ∧
      Carries entry moved := by
  rcases isEntry.isDict.exists_setKey "parent_account" parent with
    ⟨adopted, setParent, adoptedDict, adoptedHolds⟩
  rcases adoptedDict.exists_setKey "indent" indent with ⟨moved, setIndent, movedDict, movedHolds⟩
  have kept : ∀ field, field ≠ "indent" → field ≠ "parent_account" →
      moved.held field = entry.held field := by
    intro field notIndent notParent
    rw [movedHolds, if_neg notIndent, adoptedHolds, if_neg notParent]
  have movedIndent : moved.get "indent" = .ok indent := by
    rw [movedDict.get, movedHolds, if_pos rfl]
    rfl
  rcases isEntry.of_held movedDict (kept _ (by decide) (by decide)) (fun field isField =>
      (kept field (by rintro rfl; revert isField; decide)
        (by rintro rfl; revert isField; decide)).trans (isEntry.held_field isField))
      movedIndent counts with ⟨isRow, name, amounts⟩
  refine ⟨moved, ?_, isRow, name, amounts⟩
  simp only [Value.setKeys, foldlM_cons, foldlM_nil, setParent, setIndent, ok_bind]
  rfl

theorem exists_num?_orElse {value : Value} {number : Num} (counts : value.num? = some number) :
    ∃ other, (value.orElse (.int 0)).num? = some other := by
  unfold Value.orElse
  split
  · exact ⟨number, counts⟩
  · exact ⟨.int 0, rfl⟩

theorem plus_one_of_num? {value : Value} {number : Num} (counts : value.num? = some number) :
    value.plus (.int 1) = .ok (number + .int 1).toValue := by
  cases value with
  | int | float | bool =>
    simp only [Value.num?, Option.some.injEq] at counts
    simp [Value.plus, Value.num?, counts]
  | _ => simp [Value.num?] at counts

theorem num?_toValue (number : Num) : number.toValue.num? = some number := by
  cases number <;> rfl

theorem exists_below {entry : PlacedRow} {parent : Value} (isEntry : IsBalanceRow entry.row)
    (isParent : IsBalanceRow parent) :
    ∃ moved, entry.below parent = .ok { entry with row := moved } ∧ Carries entry.row moved := by
  rcases isParent.indented with ⟨indent, number, indented, counts⟩
  rcases exists_num?_orElse (num?_toValue (number + .int 1)) with ⟨deeper, deeperCounts⟩
  rcases exists_setKeys_place isEntry ((parent.held "account").getD .null) deeperCounts with
    ⟨moved, set, carries⟩
  refine ⟨moved, ?_, carries⟩
  simp only [PlacedRow.below, isParent.isDict.get "account", indented, ok_bind,
    plus_one_of_num? counts, set]
  rfl

theorem exists_atTop {entry : PlacedRow} (isEntry : IsBalanceRow entry.row) :
    ∃ moved, entry.atTop = .ok { entry with row := moved } ∧ Carries entry.row moved := by
  have counts : ((Value.int 0).orElse (.int 0)).num? = some (.int 0) := rfl
  rcases exists_setKeys_place isEntry .null counts with ⟨moved, set, carries⟩
  refine ⟨moved, ?_, carries⟩
  rw [PlacedRow.atTop, set]
  rfl

/-! ## Putting an entry between the rows -/

/-- An entry becomes a row somewhere between the others. -/
def Inserts (entry : Value) (old new : List PlacedRow) : Prop :=
  ∃ before moved after, old = before ++ after ∧ new = before ++ moved :: after ∧
    Carries entry moved.row

theorem hasName_eq (name : Value) (isRow : IsBalanceRow row) :
    ∃ answer, hasName name row = .ok answer := by
  simp only [hasName, isRow.truth, isRow.isDict.get "account_name", ok_bind]
  exact ⟨_, rfl⟩

theorem exists_insertBelow (name : Value) {entry : PlacedRow} (isEntry : IsBalanceRow entry.row)
    (areRows : ∀ placed ∈ rows, IsBalanceRow placed.row) :
    ∃ inserted, insertBelow name entry rows = .ok inserted ∧
      ∀ new, inserted = some new → Inserts entry.row rows new := by
  induction rows with
  | nil => exact ⟨none, rfl, by simp⟩
  | cons first rest ih =>
    rw [forall_mem_cons] at areRows
    rcases hasName_eq name areRows.1 with ⟨answer, tested⟩
    rw [insertBelow, tested, ok_bind]
    cases answer with
    | true =>
      rcases exists_below isEntry areRows.1 with ⟨moved, placed, carries⟩
      refine ⟨some (first :: { entry with row := moved } :: rest), by rw [placed]; rfl, ?_⟩
      rintro new ⟨⟩
      exact ⟨[first], _, rest, rfl, rfl, carries⟩
    | false =>
      rcases ih areRows.2 with ⟨inserted, passed, inserts⟩
      refine ⟨inserted.map (first :: ·), by rw [passed]; rfl, ?_⟩
      intro new isNew
      rcases Option.map_eq_some_iff.mp isNew with ⟨later, isLater, rfl⟩
      rcases inserts later isLater with ⟨before, moved, after, rfl, rfl, carries⟩
      exact ⟨first :: before, moved, after, rfl, rfl, carries⟩

theorem exists_insertEntry (areEntries : ∀ row ∈ company, IsBalanceRow row) {entry : PlacedRow}
    (isEntry : IsBalanceRow entry.row) (areRows : ∀ placed ∈ rows, IsBalanceRow placed.row) :
    ∃ new, insertEntry company rows entry = .ok new ∧ Inserts entry.row rows new := by
  have atEnd : ∃ moved, entry.atTop = .ok moved ∧ Inserts entry.row rows (rows ++ [moved]) := by
    rcases exists_atTop isEntry with ⟨moved, placed, carries⟩
    exact ⟨_, placed, rows, _, [], by simp, rfl, carries⟩
  rcases atEnd with ⟨moved, placed, insertsAtEnd⟩
  have searched : ∃ parent, parentEntry company entry.row = .ok parent ∧
      ∀ row, parent = some row → row ∈ company := by
    refine exists_findM? fun row rowMem => ?_
    rw [(areEntries row rowMem).isDict.get, isEntry.isDict.get]
    exact ⟨_, rfl⟩
  rcases searched with ⟨parent, found, fromCompany⟩
  rw [insertEntry, found, ok_bind]
  cases parent with
  | none => exact ⟨_, by rw [placed]; rfl, insertsAtEnd⟩
  | some parent =>
    have isParent := areEntries parent (fromCompany parent rfl)
    rcases exists_insertBelow ((parent.held "account_name").getD .null) isEntry areRows with
      ⟨inserted, passed, inserts⟩
    simp only [isParent.truth, if_true, isParent.isDict.get, ok_bind, passed]
    cases inserted with
    | none => exact ⟨_, by rw [placed]; rfl, insertsAtEnd⟩
    | some new => exact ⟨new, rfl, inserts new rfl⟩

/-! ## Adding entries -/

/-- Rows in which each account has one row, with the accounts and the amounts of entries added to
those before. -/
structure Adds (entries old new : List Value) : Prop where
  isBalance : IsTrialBalance new
  names : ∀ name, name ∈ new.map accountName ↔
    name ∈ old.map accountName ∨ name ∈ entries.map accountName
  amounts : ∀ field ∈ joinedFields, ∀ name,
    amountIn field name new = amountIn field name old + amountIn field name entries

theorem amountIn_append (field name : String) (left right : List Value) :
    amountIn field name (left ++ right) = amountIn field name left + amountIn field name right := by
  simp [amountIn]

theorem amountIn_cons (field name : String) (row : Value) (rest : List Value) :
    amountIn field name (row :: rest) =
      (if accountName row = some name then wholeAt field row else 0) +
        amountIn field name rest := by
  by_cases isNamed : accountName row = some name <;> simp [amountIn, isNamed]

theorem amountIn_of_mem {rows : List Value} (distinct : (rows.map accountName).Nodup)
    (rowMem : row ∈ rows) {name : String} (isName : accountName row = some name)
    (field : String) : amountIn field name rows = wholeAt field row := by
  have absent {others : List Value} (notMem : some name ∉ others.map accountName) :
      amountIn field name others = 0 := by
    have none_named : others.filter (fun row => accountName row = some name) = [] := by
      simpa [filter_eq_nil_iff] using notMem
    simp [amountIn, none_named]
  rcases append_of_mem rowMem with ⟨before, after, rfl⟩
  rw [map_append, map_cons, nodup_middle, nodup_cons, isName, mem_append, not_or] at distinct
  rw [amountIn_append, amountIn_cons, if_pos isName, absent distinct.1.1, absent distinct.1.2]
  simp

namespace Adds

theorem refl {rows : List Value} (isBalance : IsTrialBalance rows) : Adds [] rows rows where
  isBalance := isBalance
  names := by simp
  amounts := by simp [amountIn]

theorem first {company : List Value} (isBalance : IsTrialBalance company) :
    Adds company [] company where
  isBalance := isBalance
  names := by simp
  amounts := by simp [amountIn]

theorem trans {first second old middle new : List Value} (early : Adds first old middle)
    (late : Adds second middle new) : Adds (first ++ second) old new where
  isBalance := late.isBalance
  names name := by rw [late.names, early.names, map_append, mem_append, or_assoc]
  amounts field isField name := by
    rw [late.amounts field isField, early.amounts field isField, amountIn_append, add_assoc]

theorem ofInserts {entry : Value} {old new : List PlacedRow}
    (isBalance : IsTrialBalance (old.map (·.row)))
    (fresh : accountName entry ∉ (old.map (·.row)).map accountName)
    (inserts : Inserts entry old new) : Adds [entry] (old.map (·.row)) (new.map (·.row)) := by
  rcases inserts with ⟨before, moved, after, rfl, rfl, carries⟩
  simp only [map_append, map_cons] at isBalance fresh ⊢
  refine ⟨⟨?_, ?_⟩, ?_, ?_⟩
  · intro row rowMem
    rw [mem_append, mem_cons] at rowMem
    rcases rowMem with rowMem | rfl | rowMem
    · exact isBalance.areRows row (mem_append_left _ rowMem)
    · exact carries.isRow
    · exact isBalance.areRows row (mem_append_right _ rowMem)
  · rw [map_append, map_cons, nodup_middle, carries.name, nodup_cons]
    have distinct := isBalance.distinct
    rw [map_append] at distinct
    exact ⟨fresh, distinct⟩
  · intro name
    simp only [map_append, map_cons, map_nil, mem_append, mem_cons,
      not_mem_nil, or_false, carries.name]
    tauto
  · intro field isField name
    simp only [amountIn_append, amountIn_cons, carries.name, carries.amounts field isField]
    have none_left : amountIn field name [] = 0 := rfl
    rw [none_left]
    ring

theorem ofJoined {entry row joined : Value} {before after : List Value}
    (isBalance : IsTrialBalance (before ++ row :: after)) (isRow : IsBalanceRow joined)
    (sameName : accountName row = accountName entry) (name : accountName joined = accountName row)
    (amounts : ∀ field ∈ joinedFields,
      wholeAt field joined = wholeAt field row + wholeAt field entry) :
    Adds [entry] (before ++ row :: after) (before ++ joined :: after) := by
  have sameNames : (before ++ joined :: after).map accountName =
      (before ++ row :: after).map accountName := by
    simp [name]
  refine ⟨⟨?_, ?_⟩, ?_, ?_⟩
  · intro other otherMem
    rw [mem_append, mem_cons] at otherMem
    rcases otherMem with otherMem | rfl | otherMem
    · exact isBalance.areRows other (mem_append_left _ otherMem)
    · exact isRow
    · exact isBalance.areRows other (mem_append_right _ (mem_cons_of_mem _ otherMem))
  · rw [sameNames]
    exact isBalance.distinct
  · intro other
    rw [sameNames]
    simp only [map_append, map_cons, map_nil, mem_append, mem_cons, not_mem_nil, or_false, sameName]
    tauto
  · intro field isField other
    simp only [amountIn_append, amountIn_cons, name, sameName, amounts field isField]
    have none_left : amountIn field other [] = 0 := rfl
    rw [none_left]
    split <;> ring

end Adds

/-! ## One entry of a company -/

theorem sameAccount_eq {row : Value} (isEntry : IsBalanceRow entry) (isRow : IsBalanceRow row) :
    sameAccount entry row = .ok (decide (accountName row = accountName entry)) := by
  rcases isEntry.named with ⟨entryName, entryFound⟩
  rcases isRow.named with ⟨rowName, rowFound⟩
  have compared : (Value.str rowName == Value.str entryName) = decide (rowName = entryName) := by
    refine (Value.same_str rowName entryName).trans ?_
    exact Bool.beq_eq_decide_eq rowName entryName
  simp only [sameAccount, isRow.truth, rowFound, entryFound, ok_bind, accountName,
    Option.some.injEq, ← compared]
  rfl

theorem joinIfSame_of_ne {placed : PlacedRow} (isEntry : IsBalanceRow entry)
    (isRow : IsBalanceRow placed.row) (different : accountName placed.row ≠ accountName entry) :
    joinIfSame entry placed = .ok (placed, false) := by
  rw [joinIfSame, sameAccount_eq isEntry isRow, decide_eq_false different]
  rfl

theorem mapM_joinIfSame_of_not_mem (isEntry : IsBalanceRow entry)
    (areRows : ∀ placed ∈ rows, IsBalanceRow placed.row)
    (notMem : accountName entry ∉ (rows.map (·.row)).map accountName) :
    rows.mapM (joinIfSame entry) = .ok (rows.map fun placed => (placed, false)) := by
  refine mapM_eq_ok fun placed placedMem => ?_
  refine joinIfSame_of_ne isEntry (areRows placed placedMem) fun sameName => notMem ?_
  rw [← sameName, map_map]
  exact mem_map_of_mem placedMem

/-- An entry adds its amounts under its name, whether or not the name is there. -/
theorem exists_consolidateEntry (areEntries : ∀ row ∈ company, IsBalanceRow row) {entry : PlacedRow}
    (isEntry : IsBalanceRow entry.row) (isBalance : IsTrialBalance (rows.map (·.row))) :
    ∃ new, consolidateEntry company rows entry = .ok new ∧
      Adds [entry.row] (rows.map (·.row)) (new.map (·.row)) := by
  have areRows : ∀ placed ∈ rows, IsBalanceRow placed.row := fun placed placedMem =>
    isBalance.areRows placed.row (mem_map_of_mem placedMem)
  by_cases known : accountName entry.row ∈ (rows.map (·.row)).map accountName
  · rcases mem_map.mp known with ⟨_, rowMem, sameName⟩
    rcases mem_map.mp rowMem with ⟨placed, placedMem, rfl⟩
    rcases append_of_mem placedMem with ⟨before, after, rfl⟩
    rcases exists_joinRow (areRows placed placedMem) isEntry with
      ⟨joined, added, isJoined, joinedName, joinedAmounts⟩
    -- Names are distinct, so the entry passes all rows but this one.
    have distinct := isBalance.distinct
    simp only [map_append, map_cons, nodup_middle, nodup_cons,
      mem_append, not_or, sameName] at distinct
    have passBefore := mapM_joinIfSame_of_not_mem isEntry
      (fun other otherMem => areRows other (mem_append_left _ otherMem)) distinct.1.1
    have passAfter := mapM_joinIfSame_of_not_mem isEntry
      (fun other otherMem =>
        areRows other (mem_append_right _ (mem_cons_of_mem _ otherMem)))
      distinct.1.2
    have joins : joinIfSame entry.row placed = .ok ({ placed with row := joined }, true) := by
      rw [joinIfSame, sameAccount_eq isEntry (areRows placed placedMem),
        decide_eq_true sameName, ok_bind, if_pos rfl, added]
      rfl
    refine ⟨before ++ { placed with row := joined } :: after, ?_, ?_⟩
    · rw [consolidateEntry, mapM_append, passBefore, ok_bind, mapM_cons, joins, ok_bind, passAfter]
      simp [pure, Except.pure, bind, Except.bind, Function.comp_def]
    · simp only [map_append, map_cons] at isBalance ⊢
      exact .ofJoined isBalance isJoined sameName joinedName joinedAmounts
  · rcases exists_insertEntry areEntries isEntry areRows with ⟨new, inserted, inserts⟩
    refine ⟨new, ?_, .ofInserts isBalance known inserts⟩
    have passed := mapM_joinIfSame_of_not_mem isEntry areRows known
    have none_joined : (rows.map fun placed => (placed, false)).any Prod.snd = false := by simp
    rw [consolidateEntry, passed, ok_bind, none_joined]
    exact inserted

/-! ## Companies -/

theorem exists_foldlM_consolidateEntry (areRows : ∀ row ∈ company, IsBalanceRow row)
    {entries old : List PlacedRow} (areEntries : ∀ entry ∈ entries, IsBalanceRow entry.row)
    (isBalance : IsTrialBalance (old.map (·.row))) :
    ∃ new, entries.foldlM (consolidateEntry company) old = .ok new ∧
      Adds (entries.map (·.row)) (old.map (·.row)) (new.map (·.row)) := by
  refine exists_foldlM (motive := fun (done new : List PlacedRow) =>
    Adds (done.map (·.row)) (old.map (·.row)) (new.map (·.row))) ?_ ?_
  · exact .refl isBalance
  · intro before entry after state split added
    have isEntry := areEntries entry (by simp [split])
    rcases exists_consolidateEntry areRows isEntry added.isBalance with ⟨new, stepped, addedEntry⟩
    refine ⟨new, stepped, ?_⟩
    rw [map_append]
    exact added.trans addedEntry

/-- A company is added to the rows, or gives its own if there were none. -/
theorem exists_consolidateRows {rows : List Value} (isBalance : IsTrialBalance rows)
    (isCompany : IsTrialBalance company) :
    ∃ new changed, consolidateRows (.list rows) (.list company) = .ok (.list new, changed) ∧
      Adds company rows new := by
  cases rows with
  | nil => exact ⟨company, .list company, rfl, .first isCompany⟩
  | cons row rest =>
    let old := (row :: rest).map fun row => ({ row } : PlacedRow)
    let entries := company.zipIdx.map fun item =>
      ({ row := item.1, place := some item.2 } : PlacedRow)
    have oldRows : old.map (·.row) = row :: rest := by simp [old, Function.comp_def]
    have entryRows : entries.map (·.row) = company := by simp [entries, Function.comp_def]
    have areEntries : ∀ entry ∈ entries, IsBalanceRow entry.row := by
      intro entry entryMem
      refine isCompany.areRows entry.row ?_
      rw [← entryRows]
      exact mem_map_of_mem entryMem
    have noneBlank : entries.filter (·.row.truth) = entries :=
      filter_eq_self.mpr fun entry entryMem => (areEntries entry entryMem).truth
    rw [← oldRows] at isBalance
    rcases exists_foldlM_consolidateEntry isCompany.areRows areEntries isBalance with
      ⟨new, folded, added⟩
    rw [entryRows, oldRows] at added
    have filled : (!(Value.list (row :: rest)).truth) = false := rfl
    simp only [consolidateRows, Value.items, ok_bind, filled]
    refine ⟨new.map (·.row), _, bind_eq_ok.mpr ⟨new, ?_, rfl⟩, added⟩
    rw [noneBlank]
    exact folded

theorem amountIn_flatten (field name : String) (companies : List (List Value)) :
    amountIn field name companies.flatten = (companies.map (amountIn field name)).sum := by
  induction companies with
  | nil => rfl
  | cons company rest ih =>
    rw [flatten_cons, amountIn_append, ih, map_cons, sum_cons]

/--
The trial balances of any companies can be put together. The result has exactly one row for each
account name that occurs in one of them, and each of its six amounts is the sum over the companies
of the amounts under that name.
-/
theorem consolidateAll_sums_companies {companies : List (List Value)}
    (areBalances : ∀ company ∈ companies, IsTrialBalance company) :
    ∃ rows, consolidateAll (companies.map .list) = .ok (.list rows) ∧
      (rows.map accountName).Nodup ∧
      (∀ name, some name ∈ rows.map accountName ↔
        ∃ company ∈ companies, some name ∈ company.map accountName) ∧
      ∀ row ∈ rows, ∃ name, row.key "account_name" = .ok (.str name) ∧
        ∀ field ∈ joinedFields,
          row.key field = .ok (.int (companies.map (amountIn field name)).sum) := by
  have ran : ∃ last, consolidateAll (companies.map .list) = .ok last ∧
      ∃ rows, last = .list rows ∧ Adds companies.flatten [] rows := by
    rw [consolidateAll, List.foldlM_map]
    refine exists_foldlM (motive := fun (done : List (List Value)) last =>
      ∃ rows, last = Value.list rows ∧ Adds done.flatten [] rows) ⟨[], rfl, ?_⟩ ?_
    · exact .refl ⟨by simp, by simp⟩
    · rintro before company after _ split ⟨rows, rfl, added⟩
      have isCompany := areBalances company (by simp [split])
      rcases exists_consolidateRows added.isBalance isCompany with
        ⟨new, changed, consolidated, addedCompany⟩
      refine ⟨.list new, by rw [consolidated]; rfl, new, rfl, ?_⟩
      rw [List.flatten_append, List.flatten_singleton]
      exact added.trans addedCompany
  rcases ran with ⟨_, consolidated, rows, rfl, added⟩
  refine ⟨rows, consolidated, added.isBalance.distinct, ?_, ?_⟩
  · intro name
    rw [added.names]
    simp [List.mem_flatten]
  · intro row rowMem
    have isRow := added.isBalance.areRows row rowMem
    rcases isRow.named with ⟨name, named⟩
    have isName : accountName row = some name := by simp only [accountName, named]
    refine ⟨name, named, fun field isField => ?_⟩
    rw [isRow.key_field isField, ← amountIn_of_mem added.isBalance.distinct rowMem isName,
      added.amounts field isField, amountIn_flatten]
    simp [amountIn]

def companyRow (company name : String) (parent : Value) (indent : Int) (amounts : Amounts Int) :
    Value :=
  .ofFields ([("account", .str s!"{name} - {company}"), ("account_name", .str name),
    ("parent_account", parent), ("indent", .int indent)] ++ amounts.fields)

theorem isBalanceRow_companyRow (company name : String) (parent : Value) (indent : Int)
    (amounts : Amounts Int) : IsBalanceRow (companyRow company name parent indent amounts) where
  isDict := ⟨_, _, rfl⟩
  named := ⟨name, Value.key_ofFields rfl⟩
  whole := by
    simp only [joinedFields, forall_mem_cons]
    refine ⟨?_, ?_, ?_, ?_, ?_, ?_, by simp⟩
    all_goals exact ⟨_, Value.key_ofFields rfl⟩
  indented := by
    have counts : (Value.int indent).num? = some (.int indent) := rfl
    rcases exists_num?_orElse counts with ⟨number, countsToo⟩
    exact ⟨.int indent, number, Value.get_ofFields rfl, countsToo⟩

/-- Three companies: one without rows, and two whose charts of accounts differ. -/
def differentCharts : List (List Value) :=
  [[companyRow "X" "Assets" .null 0 ⟨1, 0, 2, 0, 3, 0⟩,
      companyRow "X" "Cash" (.str "Assets - X") 1 ⟨1, 0, 2, 0, 3, 0⟩],
    [],
    [companyRow "Y" "Bank" (.str "Assets - Y") 1 ⟨0, 0, 5, 4, 1, 0⟩,
      companyRow "Y" "Assets" .null 0 ⟨0, 0, 5, 4, 1, 0⟩,
      companyRow "Y" "Loans" (.str "Liabilities - Y") 1 ⟨0, 7, 0, 0, 0, 7⟩]]

theorem consolidateAll_sums_differentCharts :
    (∀ company ∈ differentCharts, IsTrialBalance company) ∧
      ∃ rows, consolidateAll (differentCharts.map .list) = .ok (.list rows) ∧
        (rows.map accountName).Nodup ∧
        ∃ row ∈ rows, row.key "account_name" = .ok (.str "Assets") ∧
          row.key "debit" = .ok (.int 7) := by
  have areBalances : ∀ company ∈ differentCharts, IsTrialBalance company := by
    have distinct : ∀ company ∈ differentCharts, (company.map accountName).Nodup := by
      decide +kernel
    intro company companyMem
    refine ⟨?_, distinct company companyMem⟩
    simp only [differentCharts, List.mem_cons, List.not_mem_nil, or_false] at companyMem
    rcases companyMem with rfl | rfl | rfl
    all_goals simp [isBalanceRow_companyRow]
  have debits : (differentCharts.map (amountIn "debit" "Assets")).sum = 7 := by
    decide +kernel
  have listed : ∃ company ∈ differentCharts, some "Assets" ∈ company.map accountName := by
    decide +kernel
  rcases consolidateAll_sums_companies areBalances with
    ⟨rows, consolidated, distinct, names, amounts⟩
  rcases List.mem_map.mp ((names "Assets").mpr listed) with ⟨row, rowMem, isName⟩
  rcases amounts row rowMem with ⟨name, named, sums⟩
  have nameEq : name = "Assets" := by
    simpa only [accountName, named, Option.some.injEq] using isName
  subst nameEq
  have summed := sums "debit" (by decide)
  rw [debits] at summed
  exact ⟨areBalances, rows, consolidated, distinct, row, rowMem, named, summed⟩

end ErpLens.Accounts
