import Mathlib
import ErpLens.Accounts.RollUp
import ErpLens.Proofs.AccountLinks
import ErpLens.Proofs.Outcomes

/-!
# Accounts hold what was booked below them

Rows are added to the rows of their parents from the last to the first. Where parents come before
their children, an account holds its own total at its turn.
-/

open List

namespace ErpLens.Accounts

open Relation

/-! ## The accounts below an account -/

/-- Rows with different names, each after the row of its parent. -/
structure ParentsFirst (rows : List Value) : Prop where
  distinct : (rows.map nameIn).Nodup
  after : ∀ before row later, rows = before ++ row :: later →
    ∀ parent ∈ parentIn row, parent ∈ before.map nameIn

/-- The rows right below an account. -/
def childrenOf (rows : List Value) (account : String) : List Value :=
  rows.filter fun row => parentIn row = some account

open Classical in
/-- The rows anywhere below an account. -/
noncomputable def rowsBelow (rows : List Value) (account : String) : List Value :=
  rows.filter fun row => TransGen (linksOf rows).Parent (nameIn row) account

theorem mem_rowsBelow {rows : List Value} {account : String} {row : Value} :
    row ∈ rowsBelow rows account ↔
      row ∈ rows ∧ TransGen (linksOf rows).Parent (nameIn row) account := by
  simp [rowsBelow]

theorem mem_childrenOf {rows : List Value} {account : String} {row : Value} :
    row ∈ childrenOf rows account ↔ row ∈ rows ∧ parentIn row = some account := by
  simp [childrenOf]

theorem parent_of_child {rows : List Value} {account : String} {child : Value}
    (childMem : child ∈ childrenOf rows account) :
    (linksOf rows).Parent (nameIn child) account :=
  mem_linksOf.mpr ⟨child, (mem_childrenOf.mp childMem).1, rfl, (mem_childrenOf.mp childMem).2⟩

namespace ParentsFirst

variable {rows : List Value} (parentsFirst : ParentsFirst rows)

include parentsFirst

theorem eq_of_name {first second : Value} (firstMem : first ∈ rows) (secondMem : second ∈ rows)
    (sameName : nameIn first = nameIn second) : first = second :=
  inj_on_of_nodup_map parentsFirst.distinct firstMem secondMem sameName

theorem distinct_links : ((linksOf rows).map Prod.fst).Nodup :=
  nodup_linksOf parentsFirst.distinct

theorem idxOf_eq {before later : List Value} {row : Value} (split : rows = before ++ row :: later) :
    (rows.map nameIn).idxOf (nameIn row) = before.length := by
  have distinct := parentsFirst.distinct
  rw [split, map_append, map_cons] at distinct ⊢
  have notBefore : nameIn row ∉ before.map nameIn := fun rowBefore =>
    (disjoint_of_nodup_append distinct) rowBefore mem_cons_self
  rw [idxOf_append_of_notMem notBefore, idxOf_cons_self, length_map, Nat.add_zero]

theorem idxOf_lt {child parent : String} (isChild : (linksOf rows).Parent child parent) :
    (rows.map nameIn).idxOf parent < (rows.map nameIn).idxOf child := by
  rcases mem_linksOf.mp isChild with ⟨row, rowMem, rfl, isParent⟩
  rcases append_of_mem rowMem with ⟨before, later, split⟩
  have parentBefore := parentsFirst.after before row later split parent isParent
  rw [parentsFirst.idxOf_eq split, split, map_append, idxOf_append_of_mem parentBefore]
  simpa using idxOf_lt_length_of_mem parentBefore

theorem acyclic (account : String) : ¬ TransGen (linksOf rows).Parent account account := by
  intro circle
  have earlier := circle.lift (p := (· > ·)) (rows.map nameIn).idxOf
    fun _ _ isChild => parentsFirst.idxOf_lt isChild
  exact lt_irrefl _ (transGen_eq_self (r := ((· > ·) : ℕ → ℕ → Prop)) ▸ earlier)

theorem eq_of_reflTransGen {account : String} {first second : Value}
    (firstMem : first ∈ childrenOf rows account) (secondMem : second ∈ childrenOf rows account)
    (above : ReflTransGen (linksOf rows).Parent (nameIn first) (nameIn second)) :
    first = second := by
  rcases above.cases_head with sameName | ⟨parent, isParent, further⟩
  · exact parentsFirst.eq_of_name (mem_childrenOf.mp firstMem).1 (mem_childrenOf.mp secondMem).1
      sameName
  · cases Links.rightUnique parentsFirst.distinct_links isParent
      (parent_of_child firstMem)
    exact absurd (TransGen.tail' further (parent_of_child secondMem))
      (parentsFirst.acyclic _)

theorem mem_cons_rowsBelow {child row : Value} (childMem : child ∈ rows) :
    row ∈ child :: rowsBelow rows (nameIn child) ↔
      row ∈ rows ∧ ReflTransGen (linksOf rows).Parent (nameIn row) (nameIn child) := by
  rw [mem_cons, mem_rowsBelow, reflTransGen_iff_eq_or_transGen]
  constructor
  · rintro (rfl | ⟨rowMem, below⟩)
    · exact ⟨childMem, .inl rfl⟩
    · exact ⟨rowMem, .inr below⟩
  · rintro ⟨rowMem, sameName | below⟩
    · exact .inl (parentsFirst.eq_of_name rowMem childMem sameName.symm)
    · exact .inr ⟨rowMem, below⟩

theorem nodup_rowsBelow (account : String) : (rowsBelow rows account).Nodup :=
  (parentsFirst.distinct.of_map _).filter _

/-- Each account below an account is one of its children or below one of them, and only one. -/
theorem rowsBelow_perm (account : String) :
    (rowsBelow rows account).Perm
      ((childrenOf rows account).flatMap fun child => child :: rowsBelow rows (nameIn child)) := by
  refine (perm_ext_iff_of_nodup (parentsFirst.nodup_rowsBelow _)
    (nodup_flatMap.mpr ⟨?_, ?_⟩)).mpr ?_
  · intro child _
    refine nodup_cons.mpr ⟨fun again => ?_, parentsFirst.nodup_rowsBelow _⟩
    exact parentsFirst.acyclic _ (mem_rowsBelow.mp again).2
  · have nodup : (childrenOf rows account).Nodup := (parentsFirst.distinct.of_map _).filter _
    refine nodup.pairwise_of_forall_ne fun first firstMem second secondMem different => ?_
    intro row inFirst inSecond
    rw [parentsFirst.mem_cons_rowsBelow (mem_childrenOf.mp firstMem).1] at inFirst
    rw [parentsFirst.mem_cons_rowsBelow (mem_childrenOf.mp secondMem).1] at inSecond
    rcases inFirst.2.total_of_right_unique (Links.rightUnique parentsFirst.distinct_links)
      inSecond.2 with above | above
    · exact different (parentsFirst.eq_of_reflTransGen firstMem secondMem above)
    · exact different (parentsFirst.eq_of_reflTransGen secondMem firstMem above).symm
  · intro row
    rw [mem_rowsBelow, mem_flatMap, TransGen.tail'_iff]
    constructor
    · rintro ⟨rowMem, name, reached, isChild⟩
      rcases mem_linksOf.mp isChild with ⟨child, childMem, rfl, isParent⟩
      exact ⟨child, mem_childrenOf.mpr ⟨childMem, isParent⟩,
        (parentsFirst.mem_cons_rowsBelow childMem).mpr ⟨rowMem, reached⟩⟩
    · rintro ⟨child, childMem, inChild⟩
      rw [parentsFirst.mem_cons_rowsBelow (mem_childrenOf.mp childMem).1] at inChild
      exact ⟨inChild.1, _, inChild.2, parent_of_child childMem⟩

end ParentsFirst

/-! ## Totals -/

section Totals

variable {α : Type} [AddCommMonoid α]

/-- The amount of a row and of all rows below it. -/
noncomputable def totalIn (rows : List Value) (amount : Value → α) (row : Value) : α :=
  amount row + ((rowsBelow rows (nameIn row)).map amount).sum

theorem ParentsFirst.totalIn_eq {rows : List Value} (parentsFirst : ParentsFirst rows)
    (amount : Value → α) (row : Value) : totalIn rows amount row =
      amount row + ((childrenOf rows (nameIn row)).map (totalIn rows amount)).sum := by
  rw [totalIn, ((parentsFirst.rowsBelow_perm _).map amount).sum_eq, map_flatMap,
    flatMap_def, sum_flatten, List.map_map]
  rfl

end Totals

/-! ## One row added to its parent -/

/-- Sums of amounts, written as values, are exact. -/
def Adding.Exact {α : Type} [Add α] (adding : Adding) (write : α → Value) : Prop :=
  ∀ left right, adding.plus (write left) (write right) = .ok (write (left + right))

/-- What is read under a text key depends on what is held there, and is that if it is there. -/
structure ReadsKeys (read : Value → Value → Outcome Value) : Prop where
  found : ∀ {row value : Value} {key : String}, row.IsDict → row.held key = some value →
    read row (.str key) = .ok value
  same : ∀ {row other : Value} {key : String}, row.IsDict → other.IsDict →
    row.held key = other.held key → read row (.str key) = read other (.str key)

theorem readsKeys_item : ReadsKeys Value.item where
  found isDict held := isDict.key_eq_ok_iff.mpr held
  same := by
    rintro _ _ key ⟨_, entries, rfl⟩ ⟨_, others, rfl⟩ sameHeld
    simp only [Value.held] at sameHeld
    simp only [Value.item, sameHeld]

theorem readsKeys_optional (adding : Adding) : ReadsKeys adding.optional where
  found := by
    rintro _ value key ⟨_, entries, rfl⟩ held
    simp only [Value.held] at held
    simp [Adding.optional, Value.getD, held]
  same := by
    rintro _ _ key ⟨_, entries, rfl⟩ ⟨_, others, rfl⟩ sameHeld
    simp only [Value.held] at sameHeld
    simp only [Adding.optional, Value.getD, sameHeld]

section Changes

variable {α : Type} [Add α] {adding : Adding} {write : α → Value}
  {read : Value → Value → Outcome Value}

theorem changeUntilFault_add (exact : adding.Exact write) (reads : ReadsKeys read)
    {keys : List String} (distinct : keys.Nodup) {row target : Value} (isDict : target.IsDict)
    {own old : String → α} (ownRead : ∀ key ∈ keys, read row (.str key) = .ok (write (own key)))
    (oldRead : ∀ key ∈ keys, read target (.str key) = .ok (write (old key))) :
    changeUntilFault (keys.map fun key => adding.add read (.str key) row) target =
      (target.withKeys (keys.map fun key => (key, write (old key + own key))), none) := by
  induction keys generalizing target with
  | nil =>
    rcases isDict with ⟨kind, entries, rfl⟩
    rfl
  | cons key rest ih =>
    rw [nodup_cons] at distinct
    rw [forall_mem_cons] at ownRead oldRead
    have changed : adding.add read (.str key) row target =
        .ok (target.withKeys [(key, write (old key + own key))]) := by
      rw [Adding.add, oldRead.1, ownRead.1, ok_bind, ok_bind, exact, ok_bind]
      rcases isDict with ⟨kind, entries, rfl⟩
      rfl
    have further := ih distinct.2 (isDict.withKeys [(key, write (old key + own key))]) ownRead.2
      fun other otherMem => by
        rw [← oldRead.2 other otherMem]
        refine reads.same (isDict.withKeys _) isDict (isDict.held_withKeys_of_not_mem ?_)
        rintro (_ | ⟨_, ⟨⟩⟩)
        exact distinct.1 otherMem
    rw [map_cons, changeUntilFault, changed]
    refine further.trans ?_
    rcases isDict with ⟨kind, entries, rfl⟩
    rfl

end Changes

theorem IsAccountRecord.parentAccount_eq {row : Value} (isRecord : IsAccountRecord row) :
    parentAccount row = (parentIn row).map .str := by
  rcases isRecord.hasParent with ⟨parent, held⟩
  rw [parentAccount, isRecord.field?_eq, parentIn, held]
  cases parent with
  | none => rfl
  | some text =>
    by_cases isEmpty : text = ""
    · simp [isEmpty, Value.optStr, textOf?, Value.truth]
    · simp [isEmpty, Value.optStr, textOf?, Value.truth]

theorem childrenOf_cons (row : Value) (rows : List Value) (account : String) :
    childrenOf (row :: rows) account =
      if parentIn row = some account then row :: childrenOf rows account
      else childrenOf rows account := by
  simp only [childrenOf, filter_cons, decide_eq_true_eq]

theorem ParentsFirst.childrenOf_eq {rows before later : List Value} {row : Value}
    (parentsFirst : ParentsFirst rows) (split : rows = before ++ row :: later) :
    childrenOf rows (nameIn row) = childrenOf later (nameIn row) := by
  have notParent : ∀ other ∈ before ++ [row], parentIn other ≠ some (nameIn row) := by
    intro other otherMem isParent
    have earlier := parentsFirst.idxOf_lt (mem_linksOf.mpr ⟨other, ?_, rfl, isParent⟩)
    · rw [parentsFirst.idxOf_eq split] at earlier
      rcases mem_append.mp otherMem with inBefore | isRow
      · rcases append_of_mem inBefore with ⟨first, second, rfl⟩
        rw [append_assoc] at split
        rw [parentsFirst.idxOf_eq split] at earlier
        simp at earlier
      · rw [mem_singleton.mp isRow, parentsFirst.idxOf_eq split] at earlier
        exact lt_irrefl _ earlier
    · rw [split, append_cons]
      exact mem_append_left later otherMem
  rw [split, append_cons]
  simp only [childrenOf]
  rw [filter_append, filter_eq_nil_iff.mpr fun other otherMem => by
    simpa using notParent other otherMem, nil_append]

/-! ## All rows -/

section Run

variable {α : Type} [AddCommMonoid α]

/-- The table while rows are added: each row holds its own amounts and the totals of its children
that have had their turn, and nothing else of it is changed. -/
def Accumulated (read : Value → Value → Outcome Value) (write : α → Value) (keys : List String)
    (amount : String → Value → α) (rows done : List Value) (table : Entries) : Prop :=
  ∀ row ∈ rows, ∃ fields : Fields, (∀ key ∈ fields.map Prod.fst, key ∈ keys) ∧
    Value.findEntry (.str (nameIn row)) table = some (row.withKeys fields) ∧
    ∀ key ∈ keys, read (row.withKeys fields) (.str key) = .ok (write (amount key row +
      ((childrenOf done (nameIn row)).map (totalIn rows (amount key))).sum))

/-- Adding amounts under some keys, where the table holds the rows of the list. -/
def sharedRollUp (adding : Adding) (read : Value → Value → Outcome Value)
    (keys : List String) : RollUp where
  sharing := .byName
  parent := parentAccount
  changes row := keys.map fun key => adding.add read (.str key) row

variable {adding : Adding} {write : α → Value} {read : Value → Value → Outcome Value}
  {keys : List String} {amount : String → Value → α} {rows : List Value}
  (exact : adding.Exact write) (reads : ReadsKeys read) (distinct : keys.Nodup)
  (notName : "name" ∉ keys) (notParent : "parent_account" ∉ keys)
  (areRecords : ∀ row ∈ rows, IsAccountRecord row) (parentsFirst : ParentsFirst rows)

include exact reads distinct notName notParent areRecords parentsFirst

theorem exists_step {before done : List Value} {row : Value} {table : Entries}
    (split : rows = before ++ row :: done)
    (accumulated : Accumulated read write keys amount rows done table) :
    ∃ next, (∀ rest, (sharedRollUp adding read keys).addAll (row :: rest) table =
        (sharedRollUp adding read keys).addAll rest next) ∧
      Accumulated read write keys amount rows (row :: done) next := by
  have rowMem : row ∈ rows := by simp [split]
  have isRecord := areRecords row rowMem
  rcases accumulated row rowMem with ⟨fields, areKeys, found, readNow⟩
  rcases isRecord.withKeys (fun named => notName (areKeys _ named))
    (fun named => notParent (areKeys _ named)) with ⟨currentRecord, -, sameParent⟩
  have current : Sharing.byName.current table row = row.withKeys fields := by
    rw [Sharing.current, Value.fieldOr, isRecord.field?_eq, isRecord.held_name, Option.getD_some,
      found, Option.getD_some]
  have parentNow := currentRecord.parentAccount_eq
  rw [sameParent] at parentNow
  -- All children of the row have had their turn, so it holds its total.
  simp only [← parentsFirst.childrenOf_eq split, ← parentsFirst.totalIn_eq] at readNow
  cases isParent : parentIn row with
  | none =>
    rw [isParent] at parentNow
    refine ⟨table, fun rest => ?_, fun other otherMem => ?_⟩
    · simp [RollUp.addAll, sharedRollUp, current, parentNow]
    · rw [childrenOf_cons, isParent, if_neg (by simp)]
      exact accumulated other otherMem
  | some name =>
    rw [isParent] at parentNow
    obtain ⟨parent, parentBefore, rfl⟩ :=
      mem_map.mp (parentsFirst.after before row done split name isParent)
    have parentMem : parent ∈ rows := by simp [split, parentBefore]
    have parentRecord := areRecords parent parentMem
    rcases accumulated parent parentMem with ⟨old, oldKeys, oldFound, oldRead⟩
    have targetDict := parentRecord.isDict.withKeys old
    have changed := changeUntilFault_add exact reads distinct targetDict readNow oldRead
    generalize sumsEq : keys.map (fun key => (key, write _)) = sums at changed
    refine ⟨Value.putEntry (.str (nameIn parent)) ((parent.withKeys old).withKeys sums) table,
      fun rest => ?_, fun other otherMem => ?_⟩
    · simp [RollUp.addAll, sharedRollUp, current, parentNow, oldFound, changed]
    · rw [childrenOf_cons, isParent, Value.findEntry_putEntry]
      by_cases sameName : nameIn other = nameIn parent
      · cases parentsFirst.eq_of_name otherMem parentMem sameName
        refine ⟨old ++ sums, ?_, ?_, fun key keyMem => ?_⟩
        · rw [map_append, forall_mem_append]
          exact ⟨oldKeys, by simp [← sumsEq]⟩
        · rw [if_pos rfl, parentRecord.isDict.withKeys_append]
        · rw [if_pos rfl, map_cons, sum_cons, add_comm (totalIn _ _ _), ← add_assoc,
            parentRecord.isDict.withKeys_append]
          refine reads.found (targetDict.withKeys sums)
            (targetDict.held_withKeys_of_mem (sumsEq ▸ mem_map_of_mem keyMem) ?_)
          rw [← sumsEq, forall_mem_map]
          rintro same - rfl
          rfl
      · rw [if_neg sameName, if_neg fun same => sameName (Option.some.inj same).symm]
        exact accumulated other otherMem

theorem exists_addAll {before done : List Value} {table : Entries} (split : rows = before ++ done)
    (accumulated : Accumulated read write keys amount rows done table) :
    ∃ sums, (sharedRollUp adding read keys).addAll before.reverse table = (sums, none) ∧
      Accumulated read write keys amount rows rows sums := by
  induction before using List.reverseRecOn generalizing done table with
  | nil => exact ⟨table, rfl, split ▸ accumulated⟩
  | append_singleton before row ih =>
    rw [append_assoc, singleton_append] at split
    rcases exists_step exact reads distinct notName notParent areRecords parentsFirst split
      accumulated with ⟨next, stepped, further⟩
    rw [reverse_concat, stepped]
    exact ih split further

/-- A table in which each row holds its totals, and nothing else of it is changed. -/
def HoldsTotals (read : Value → Value → Outcome Value) (write : α → Value) (keys : List String)
    (amount : String → Value → α) (rows : List Value) (table : Entries) : Prop :=
  ∀ row ∈ rows, ∃ fields : Fields, (∀ key ∈ fields.map Prod.fst, key ∈ keys) ∧
    Value.findEntry (.str (nameIn row)) table = some (row.withKeys fields) ∧
    ∀ key ∈ keys, read (row.withKeys fields) (.str key) =
      .ok (write (totalIn rows (amount key) row))

theorem exists_run {entries : Entries}
    (shared : ∀ row ∈ rows, Value.findEntry (.str (nameIn row)) entries = some row)
    (initial : ∀ row ∈ rows, ∀ key ∈ keys, read row (.str key) = .ok (write (amount key row)))
    (kind : DictKind) :
    ∃ sums, (sharedRollUp adding read keys).run (.list rows) (.dict kind entries) =
        .ok (.dict kind sums, none) ∧ HoldsTotals read write keys amount rows sums := by
  have start : Accumulated read write keys amount rows [] entries := by
    intro row rowMem
    have unchanged : row.withKeys [] = row := by
      rcases (areRecords row rowMem).isDict with ⟨kind, held, rfl⟩
      rfl
    refine ⟨[], by simp, by rw [unchanged, shared row rowMem], fun key keyMem => ?_⟩
    rw [unchanged, initial row rowMem key keyMem]
    simp [childrenOf]
  rcases exists_addAll exact reads distinct notName notParent areRecords parentsFirst
    (append_nil rows).symm start with ⟨sums, added, accumulated⟩
  have parentsRead : ∃ parents, rows.mapM (·.field "parent_account") = .ok parents := by
    refine exists_mapM_eq_ok_iff.mpr fun row rowMem => ?_
    rcases (areRecords row rowMem).hasParent with ⟨parent, held⟩
    exact ⟨_, by rw [Value.field, (areRecords row rowMem).field?_eq, held]⟩
  rcases parentsRead with ⟨parents, parentsRead⟩
  refine ⟨sums, ?_, fun row rowMem => ?_⟩
  · simp only [RollUp.run, Value.items, ok_bind, parentsRead, added]
    rfl
  · simpa only [← parentsFirst.totalIn_eq] using accumulated row rowMem

end Run

/--
For accounts with different names of which each comes after its parent, in a table that holds the
same rows by name, and amounts that are added exactly, adding up gives every account its own amount
and the amounts of all accounts below it: under every period key and as the opening balance, and in
the six fields of a trial balance. Nothing fails, and nothing else of the rows is changed.
-/
theorem rollUp_adds_accounts_below {α : Type} [AddCommMonoid α] {adding : Adding}
    {write : α → Value} (exact : adding.Exact write) {rows : List Value} {kind : DictKind}
    {entries : Entries} (areRecords : ∀ row ∈ rows, IsAccountRecord row)
    (parentsFirst : ParentsFirst rows)
    (shared : ∀ row ∈ rows, Value.findEntry (.str (nameIn row)) entries = some row)
    (amount : String → Value → α) :
    (∀ (periods : List Value) (keys : List String),
      periods.mapM (·.field "key") = .ok (keys.map Value.str) →
      (keys ++ ["opening_balance"]).Nodup → "name" ∉ keys → "parent_account" ∉ keys →
      (∀ row ∈ rows, ∀ key ∈ keys ++ ["opening_balance"],
        adding.optional row (.str key) = .ok (write (amount key row))) →
      ∃ sums, rollUpPeriodsWith adding .byName (.list rows) (.dict kind entries) (.list periods) =
          .ok (.dict kind sums, none) ∧
        HoldsTotals adding.optional write (keys ++ ["opening_balance"]) amount rows sums) ∧
    ((∀ row ∈ rows, ∀ field ∈ balanceFields, row.key field = .ok (write (amount field row))) →
      ∃ sums, rollUpFieldsWith adding .byName balanceFields (.list rows) (.dict kind entries) =
          .ok (.dict kind sums, none) ∧
        HoldsTotals Value.item write balanceFields amount rows sums) := by
  constructor
  · intro periods keys keysRead distinct notName notParent initial
    rcases exists_run exact (readsKeys_optional adding) distinct (by simp [notName])
      (by simp [notParent]) areRecords parentsFirst shared initial kind with ⟨sums, ran, totals⟩
    refine ⟨sums, ?_, totals⟩
    simp only [rollUpPeriodsWith, Value.items, ok_bind, keysRead]
    rw [← ran, sharedRollUp]
    simp only [List.map_append, List.map_map, List.map_cons, List.map_nil]
    rfl
  · intro initial
    exact exists_run exact readsKeys_item (by decide) (by decide) (by decide) areRecords
      parentsFirst shared initial kind

/-- A row with the same whole amount in all fields of a trial balance, and others under keys. -/
def bookedRow (name : String) (parent : Option String) (balance : Int) (booked : Fields) : Value :=
  accountRecord name parent (balanceFields.map (fun field => (field, .int balance)) ++ booked)

def wholeIn (key : String) (row : Value) : Int :=
  match row.held key with
  | some (.int amount) => amount
  | _ => 0

section BookedRow

variable {name : String} {parent : Option String} {balance : Int} {booked : Fields}

theorem key_bookedRow {field : String} (isField : field ∈ balanceFields) :
    (bookedRow name parent balance booked).key field =
      .ok (.int (wholeIn field (bookedRow name parent balance booked))) := by
  have held : ∀ field ∈ balanceFields,
      (bookedRow name parent balance booked).held field = some (.int balance) := by
    simp only [balanceFields, forall_mem_cons]
    refine ⟨?_, ?_, ?_, ?_, ?_, ?_, by simp⟩
    all_goals exact Value.findEntry_fields _ _
  rw [wholeIn, held field isField]
  exact isAccountRecord_accountRecord.isDict.key_eq_ok_iff.mpr (held field isField)

theorem optional_wholeIn {row : Value} (isDict : row.IsDict) {key : String}
    (whole : row.held key = none ∨ ∃ amount : Int, row.held key = some (.int amount)) :
    Adding.optional { nothing := .int 0 } row (.str key) = .ok (.int (wholeIn key row)) := by
  rcases isDict with ⟨kind, entries, rfl⟩
  rcases whole with held | ⟨amount, held⟩
  all_goals
    rw [wholeIn, held]
    rw [Value.held] at held
    rw [Adding.optional, Value.getD, held]
    rfl

end BookedRow

def bookedRows : List Value :=
  [bookedRow "Assets" none 0 [], bookedRow "Cash" (some "Assets") 3 [("jan", .int 7)],
    bookedRow "Till" (some "Cash") 4 [("jan", .int 2), ("opening_balance", .int 1)]]

theorem parentsFirst_bookedRows : ParentsFirst bookedRows where
  distinct := by
    simp only [bookedRows, bookedRow, map_cons, map_nil, nameIn_accountRecord]
    decide
  after before row later split := by
    rcases before with _ | ⟨first, _ | ⟨second, _ | ⟨third, others⟩⟩⟩ <;>
      simp only [bookedRows, nil_append, cons_append, List.cons.injEq] at split
    · obtain ⟨rfl, -⟩ := split
      simp [bookedRow, parentIn_accountRecord, textOf?, Value.optStr]
    · obtain ⟨rfl, rfl, -⟩ := split
      simp [bookedRow, parentIn_accountRecord, nameIn_accountRecord, textOf?, Value.optStr]
    · obtain ⟨rfl, rfl, rfl, -⟩ := split
      simp [bookedRow, parentIn_accountRecord, nameIn_accountRecord, textOf?, Value.optStr]
    · simp at split

theorem rollUp_adds_accounts_below_of_bookedRows :
    ParentsFirst bookedRows ∧
      (∃ sums, rollUpPeriodsWith { nothing := .int 0 } .byName (.list bookedRows)
          (.dict .plain (byName bookedRows)) (.list [.ofRecord [("key", .str "jan")]]) =
          .ok (.dict .plain sums, none) ∧
        HoldsTotals (Adding.optional { nothing := .int 0 }) Value.int ["jan", "opening_balance"]
          wholeIn bookedRows sums) ∧
      ∃ sums, rollUpFieldsWith {} .byName balanceFields (.list bookedRows)
          (.dict .plain (byName bookedRows)) = .ok (.dict .plain sums, none) ∧
        HoldsTotals Value.item Value.int balanceFields wholeIn bookedRows sums := by
  have areRecords : ∀ row ∈ bookedRows, IsAccountRecord row := by
    simp [bookedRows, bookedRow, isAccountRecord_accountRecord]
  have shared (row : Value) (rowMem : row ∈ bookedRows) :=
    findEntry_byName parentsFirst_bookedRows.distinct rowMem
  have exact (nothing : Value) : Adding.Exact { nothing } Value.int := fun _ _ => rfl
  have keysRead : [Value.ofRecord [("key", .str "jan")]].mapM (·.field "key") =
      Except.ok (["jan"].map Value.str) := by
    simp [Value.ofRecord, Value.field, Value.field?, Value.findEntry, Value.same_str]
  have whole : ∀ row ∈ bookedRows, ∀ key ∈ ["jan", "opening_balance"],
      row.held key = none ∨ ∃ amount : Int, row.held key = some (.int amount) := by
    simp only [bookedRows, List.forall_mem_cons]
    exact ⟨⟨.inl (Value.findEntry_fields _ _), .inl (Value.findEntry_fields _ _), by simp⟩,
      ⟨.inr ⟨7, Value.findEntry_fields _ _⟩, .inl (Value.findEntry_fields _ _), by simp⟩,
      ⟨.inr ⟨2, Value.findEntry_fields _ _⟩, .inr ⟨1, Value.findEntry_fields _ _⟩, by simp⟩,
      by simp⟩
  refine ⟨parentsFirst_bookedRows, ?_, ?_⟩
  · refine (rollUp_adds_accounts_below (exact (.int 0)) areRecords parentsFirst_bookedRows shared
      wholeIn).1 _ _ keysRead (by decide) (by decide) (by decide) ?_
    intro row rowMem key keyMem
    exact optional_wholeIn (areRecords row rowMem).isDict (whole row rowMem key keyMem)
  · refine (rollUp_adds_accounts_below (exact (.float 0)) areRecords parentsFirst_bookedRows shared
      wholeIn).2 ?_
    simp only [bookedRows, List.forall_mem_cons]
    exact ⟨fun _ => key_bookedRow, fun _ => key_bookedRow, fun _ => key_bookedRow, by simp⟩

end ErpLens.Accounts
