import ErpLens.Proofs.AccountTrees
import ErpLens.Proofs.Outcomes

/-!
# Rows of accounts as a tree

Rows of accounts are listed as the tree of their accounts, with the number of accounts above each as
its indentation. Rows that are not listed stay as they are.
-/

open List hiding beq_eq_decide

namespace ErpLens.Accounts

open Relation

section Rows

variable {rows : List Value}

/-- The account that a row at a position stands for. -/
def accountAt (row : Value) (position : Nat) : Account where
  position
  name := some (nameIn row)
  parent := parentIn row
  sortKey := ⟨nameIn row, row.fieldOr "report_type" .null, row.fieldOr "root_type" .null⟩

/-- The accounts of rows, in their order. -/
def accountsIn (rows : List Value) : List Account :=
  rows.mapIdx fun position row => accountAt row position

theorem IsAccountRecord.accountOf {row : Value} (isRecord : IsAccountRecord row) (position : Nat) :
    accountOf row position = .ok (accountAt row position) := by
  rcases isRecord.hasParent with ⟨parent, hasParent⟩
  have parentField : row.field "parent_account" = .ok (Value.optStr parent) := by
    rw [Value.field, isRecord.field?_eq, hasParent]
  rw [Accounts.accountOf, isRecord.field_name, ok_bind, parentField, ok_bind, accountAt, parentIn,
    hasParent]
  rfl

variable {account : Account}

theorem mem_accountsIn :
    account ∈ accountsIn rows ↔ ∃ position row, rows[position]? = some row ∧
      account = accountAt row position := by
  simp only [accountsIn, mem_mapIdx, getElem?_eq_some_iff]
  constructor
  · rintro ⟨position, inRange, rfl⟩
    exact ⟨position, _, ⟨inRange, rfl⟩, rfl⟩
  · rintro ⟨position, _, ⟨inRange, rfl⟩, rfl⟩
    exact ⟨position, inRange, rfl⟩

theorem accountLinks_accountsIn (rows : List Value) :
    accountLinks (accountsIn rows) = linksOf rows :=
  ext_getElem (by simp [accountLinks, accountsIn, linksOf]) fun position _ _ => by
    simp [accountLinks, accountsIn, linksOf, accountAt, Account.title]

/-- The indentations that a listing gives to the row at a position. -/
def indentsAt (listed : List (Account × Nat)) (position : Nat) : Fields :=
  (listed.filter (·.1.position = position)).map fun entry => ("indent", .nat entry.2)

/-- All rows, those that are listed with their indentation. -/
def indentedRows (rows : List Value) (listed : List (Account × Nat)) : List Value :=
  rows.mapIdx fun position row => row.withKeys (indentsAt listed position)

theorem indentRows_cons (areRecords : ∀ row ∈ rows, IsAccountRecord row) (entry : Account × Nat)
    (rest : List (Account × Nat)) :
    indentRows rows (entry :: rest) = indentRows (rows.modify entry.1.position
      (·.withKeys [("indent", .nat entry.2)])) rest := by
  rcases entry with ⟨account, level⟩
  rw [indentRows, foldlM_cons]
  cases found : rows[account.position]? with
  | none =>
    rw [modify_eq_self (getElem?_eq_none_iff.mp found)]
    simp only [found]
    rfl
  | some row =>
    rcases (areRecords row (mem_of_getElem? found)).isRecord with ⟨entries, rfl⟩
    rw [modify_eq_set_getElem?, found]
    simp only [found]
    rfl

theorem indentRows_eq (areRecords : ∀ row ∈ rows, IsAccountRecord row)
    (listed : List (Account × Nat)) :
    indentRows rows listed = .ok (indentedRows rows listed) := by
  induction listed generalizing rows with
  | nil =>
    refine congrArg Except.ok
      (ext_getElem (by simp [indentedRows]) fun position inRange _ => ?_)
    simp only [indentedRows, getElem_mapIdx]
    exact ((areRecords _ (getElem_mem inRange)).isDict.withKeys_nil).symm
  | cons entry rest ih =>
    have isDictAt (position : Nat) (inRange : position < rows.length) : rows[position].IsDict :=
      (areRecords _ (getElem_mem inRange)).isDict
    rw [indentRows_cons areRecords, ih]
    · refine congrArg Except.ok
        (ext_getElem (by simp [indentedRows]) fun position _ inRange => ?_)
      have inRange : position < rows.length := by simpa [indentedRows] using inRange
      simp only [indentedRows, getElem_mapIdx, getElem_modify]
      split
      · next isHere =>
        rw [← (isDictAt position inRange).withKeys_append, indentsAt, indentsAt,
          filter_cons_of_pos (by simpa using isHere)]
        rfl
      · next isElsewhere =>
        rw [indentsAt, indentsAt, filter_cons_of_neg (by simpa using isElsewhere)]
    · intro row rowMem
      rcases mem_iff_getElem.mp rowMem with ⟨position, inRange, rfl⟩
      rw [length_modify] at inRange
      rw [getElem_modify]
      split
      · exact ((areRecords _ (getElem_mem inRange)).withKeys (by simp) (by simp)).1
      · exact areRecords _ (getElem_mem inRange)

/-- The row of an account after the listing. -/
def shownRow (rows : List Value) (listed : List (Account × Nat)) (account : Account) : Value :=
  (indentedRows rows listed).getD account.position .null

/-- The rows in the order of the listing. -/
def listedRows (rows : List Value) (listed : List (Account × Nat)) : List Value :=
  listed.map fun entry => shownRow rows listed entry.1

theorem map_shownRow (rows : List Value) (listed : List (Account × Nat)) :
    (accountsIn rows).map (shownRow rows listed) = indentedRows rows listed :=
  ext_getElem (by simp [accountsIn, indentedRows]) fun position _ inRange => by
    simp [accountsIn, accountAt, shownRow, getElem?_eq_getElem inRange]

theorem exists_row (listed : List (Account × Nat)) (accountMem : account ∈ accountsIn rows) :
    ∃ row ∈ rows, nameIn row = account.title ∧ parentIn row = account.parent ∧
      shownRow rows listed account = row.withKeys (indentsAt listed account.position) := by
  rcases mem_accountsIn.mp accountMem with ⟨position, row, found, rfl⟩
  refine ⟨row, mem_of_getElem? found, rfl, rfl, ?_⟩
  simp [shownRow, indentedRows, accountAt, getElem?_mapIdx, found]

theorem shownRow_keeps (areRecords : ∀ row ∈ rows, IsAccountRecord row)
    (listed : List (Account × Nat)) (accountMem : account ∈ accountsIn rows) :
    IsAccountRecord (shownRow rows listed account) ∧
      nameIn (shownRow rows listed account) = account.title ∧
      parentIn (shownRow rows listed account) = account.parent := by
  rcases exists_row listed accountMem with ⟨row, rowMem, isName, isParent, shownEq⟩
  have onlyIndent : ∀ name ∈ (indentsAt listed account.position).map Prod.fst, name = "indent" := by
    simp +contextual [indentsAt, eq_comm]
  rw [shownEq, ← isName, ← isParent]
  exact (areRecords row rowMem).withKeys (fun isSet => by simpa using onlyIndent _ isSet)
    (fun isSet => by simpa using onlyIndent _ isSet)

theorem indentsAt_of_mem {listed : List (Account × Nat)} (nodup : listed.Nodup)
    (unique : ∀ entry ∈ listed, ∀ other ∈ listed, entry.1.position = other.1.position →
      entry = other) {entry : Account × Nat} (isListed : entry ∈ listed) :
    indentsAt listed entry.1.position = [("indent", .nat entry.2)] := by
  have onlyEntry : listed.filter (·.1.position = entry.1.position) = [entry] := by
    refine perm_singleton.mp ((perm_ext_iff_of_nodup (nodup.filter _)
      (nodup_singleton _)).mpr fun other => ?_)
    rw [mem_filter, decide_eq_true_eq, mem_singleton]
    constructor
    · rintro ⟨otherListed, samePosition⟩
      exact unique other otherListed entry isListed samePosition
    · rintro rfl
      exact ⟨isListed, rfl⟩
  rw [indentsAt, onlyEntry]
  rfl

theorem same_optStr (left right : Option String) :
    Value.same (.optStr left) (.optStr right) = decide (left = right) := by
  cases left <;> cases right <;> simp [Value.optStr, Value.same, Value.num?, beq_eq_decide]

theorem item_families {families : Families} (rowOf : Account → Value) {parent : Option String}
    (isChild : account ∈ families.children parent) :
    (Value.dict .plain (families.map fun family =>
      (Value.optStr family.1, Value.list (family.2.map rowOf)))).item (.optStr parent) =
      .ok (.list ((families.children parent).map rowOf)) := by
  suffices found : Value.findEntry (.optStr parent) (families.map fun family =>
      (Value.optStr family.1, Value.list (family.2.map rowOf))) =
      some (.list ((families.children parent).map rowOf)) by
    rw [Value.item, found]
  induction families with
  | nil => cases isChild
  | cons family rest ih =>
    rcases family with ⟨key, family⟩
    rw [Families.children_cons] at isChild ⊢
    rw [map_cons, Value.findEntry, same_optStr]
    by_cases same : key = parent
    · simp [same]
    · rw [if_neg same] at isChild ⊢
      simp only [same, decide_false, Bool.false_eq_true, if_false]
      exact ih isChild

/-! ## The listed rows -/

theorem title_accountsIn (rows : List Value) :
    (accountsIn rows).map Account.title = rows.map nameIn :=
  ext_getElem (by simp [accountsIn]) fun position _ _ => by
    simp [accountsIn, accountAt, Account.title]

theorem nodup_accountsIn (distinct : (rows.map nameIn).Nodup) :
    ((accountsIn rows).map Account.title).Nodup :=
  title_accountsIn rows ▸ distinct

theorem name_accountsIn (rows : List Value) :
    ∀ account ∈ accountsIn rows, account.name = some account.title := by
  intro account accountMem
  rcases mem_accountsIn.mp accountMem with ⟨position, row, -, rfl⟩
  rfl

theorem position_unique {first second : Account} (isFirst : first ∈ accountsIn rows)
    (isSecond : second ∈ accountsIn rows) (samePosition : first.position = second.position) :
    first = second := by
  rcases mem_accountsIn.mp isFirst with ⟨position, row, found, rfl⟩
  rcases mem_accountsIn.mp isSecond with ⟨other, otherRow, foundOther, rfl⟩
  cases (samePosition : position = other)
  rw [Option.some.inj (found.symm.trans foundOther)]

/-- Rows of accounts listed as a tree down to a depth, with all rows by name and by parent. -/
structure ArrangedAsTree (rows : List Value) (depth : Int) (listed : List Value)
    (names families : Value) (shown : List Value) : Prop where
  /-- The rows under a root are listed, with the number of accounts above each. -/
  mem_iff : ∀ row, row ∈ listed ↔ ∃ old ∈ rows, ∃ level : Nat,
    (linksOf rows).HasDepth (nameIn old) level ∧ (level : Int) < depth ∧
      row = old.withKeys [("indent", .nat level)]
  nodup : (listed.map nameIn).Nodup
  /-- No listed account is above itself or under a parent that is no account. -/
  rooted : ∀ row ∈ listed, ¬ TransGen (linksOf rows).Parent (nameIn row) (nameIn row) ∧
    ∀ above, ReflTransGen (linksOf rows).Parent (nameIn row) above → above ∈ rows.map nameIn
  parent_before : ∀ before row after, listed = before ++ row :: after →
    ∀ parent, parentIn row = some parent → ∃ above ∈ before, nameIn above = parent
  /-- An account is followed by those listed below it, and then by no other of them. -/
  below_after : ∀ before row after, listed = before ++ row :: after →
    ∃ below rest, after = below ++ rest ∧ ∀ other ∈ listed,
      (other ∈ below ↔ TransGen (linksOf rows).Parent (nameIn other) (nameIn row))
  /-- Rows that are not listed are unchanged. -/
  shown_as : List.Forall₂ (fun old row => nameIn row = nameIn old ∧
    (row ∈ listed ∨ row = old ∧ nameIn old ∉ listed.map nameIn)) rows shown
  by_name : ∀ row ∈ shown, names.key (nameIn row) = .ok row
  by_parent : ∀ row ∈ shown, ∃ children,
    families.item (.optStr (parentIn row)) = .ok (.list children) ∧ row ∈ children

section Tree

variable (areRecords : ∀ row ∈ rows, IsAccountRecord row) (distinct : (rows.map nameIn).Nodup)
  {depth : Nat} {listed : List (Account × Nat)}
  (listing : IsListing (accountsIn rows) depth none 0 listed)

include distinct listing

theorem mem_listed_iff (entry : Account × Nat) :
    entry ∈ listed ↔ entry.1 ∈ accountsIn rows ∧
      (linksOf rows).HasDepth entry.1.title entry.2 ∧ entry.2 < depth := by
  rw [listing.mem_iff (nodup_accountsIn distinct) (name_accountsIn rows)
    (levelIs_none _), accountLinks_accountsIn, Nat.zero_add]
  simp [Links.Under]

theorem listed_unique {first second : Account × Nat} (isFirst : first ∈ listed)
    (isSecond : second ∈ listed) (sameName : first.1.title = second.1.title) : first = second := by
  rcases (mem_listed_iff distinct listing first).mp isFirst with ⟨firstMem, firstDepth, -⟩
  rcases (mem_listed_iff distinct listing second).mp isSecond with ⟨secondMem, secondDepth, -⟩
  rw [← sameName] at secondDepth
  have distinctLinks := nodup_linksOf distinct
  exact Prod.ext (inj_on_of_nodup_map (nodup_accountsIn distinct) firstMem secondMem
    sameName) (firstDepth.unique distinctLinks secondDepth)

theorem exists_listed_row {entry : Account × Nat} (isListed : entry ∈ listed) :
    ∃ row ∈ rows, nameIn row = entry.1.title ∧
      shownRow rows listed entry.1 = row.withKeys [("indent", .nat entry.2)] := by
  have memIff := mem_listed_iff distinct listing
  rcases exists_row listed ((memIff entry).mp isListed).1 with ⟨row, rowMem, isName, -, shownEq⟩
  refine ⟨row, rowMem, isName, ?_⟩
  rw [shownEq, indentsAt_of_mem (listing.nodup (nodup_accountsIn distinct)
    (name_accountsIn rows) (levelIs_none _)) ?_ isListed]
  intro first isFirst second isSecond samePosition
  have sameAccount := position_unique ((memIff first).mp isFirst).1 ((memIff second).mp isSecond).1
    samePosition
  exact listed_unique distinct listing isFirst isSecond (congrArg Account.title sameAccount)

theorem mem_listedRows_iff {levels : Int} (isDepth : depth = levels.toNat) (row : Value) :
    row ∈ listedRows rows listed ↔ ∃ old ∈ rows, ∃ level : Nat,
      (linksOf rows).HasDepth (nameIn old) level ∧ (level : Int) < levels ∧
        row = old.withKeys [("indent", .nat level)] := by
  have memIff := mem_listed_iff distinct listing
  constructor
  · intro rowListed
    rcases mem_map.mp rowListed with ⟨entry, isListed, rfl⟩
    rcases exists_listed_row distinct listing isListed with ⟨old, oldMem, isName, shownEq⟩
    rcases (memIff entry).mp isListed with ⟨-, hasDepth, shallow⟩
    exact ⟨old, oldMem, entry.2, isName ▸ hasDepth, by omega, shownEq⟩
  · rintro ⟨old, oldMem, level, hasDepth, shallow, rfl⟩
    rcases getElem?_of_mem oldMem with ⟨position, found⟩
    have isListed : (accountAt old position, level) ∈ listed :=
      (memIff _).mpr ⟨mem_accountsIn.mpr ⟨position, old, found, rfl⟩, hasDepth, by omega⟩
    rcases exists_listed_row distinct listing isListed with ⟨row, rowMem, isName, shownEq⟩
    rw [← inj_on_of_nodup_map distinct rowMem oldMem isName]
    exact mem_map.mpr ⟨_, isListed, shownEq⟩

include areRecords

theorem nameIn_listed {entry : Account × Nat} (isListed : entry ∈ listed) :
    nameIn (shownRow rows listed entry.1) = entry.1.title :=
  (shownRow_keeps areRecords listed ((mem_listed_iff distinct listing entry).mp isListed).1).2.1

theorem map_nameIn_listedRows :
    (listedRows rows listed).map nameIn = listed.map fun entry => entry.1.title := by
  rw [listedRows, List.map_map]
  exact map_congr_left fun _ isListed => nameIn_listed areRecords distinct listing isListed

theorem nodup_listedRows : ((listedRows rows listed).map nameIn).Nodup := by
  rw [map_nameIn_listedRows areRecords distinct listing]
  exact (listing.nodup (nodup_accountsIn distinct) (name_accountsIn rows)
    (levelIs_none _)).map_on fun _ isFirst _ isSecond sameName =>
      listed_unique distinct listing isFirst isSecond sameName

variable {row : Value}

theorem listedRows_rooted (rowListed : row ∈ listedRows rows listed) :
    ¬ TransGen (linksOf rows).Parent (nameIn row) (nameIn row) ∧
      ∀ above, ReflTransGen (linksOf rows).Parent (nameIn row) above → above ∈ rows.map nameIn := by
  have distinctLinks := nodup_linksOf distinct
  rcases mem_map.mp rowListed with ⟨entry, isListed, rfl⟩
  rcases (mem_listed_iff distinct listing entry).mp isListed with ⟨-, hasDepth, -⟩
  rw [nameIn_listed areRecords distinct listing isListed]
  refine ⟨fun onCycle => ?_, fun above isAbove => ?_⟩
  · exact (Links.HasDepth.lt_of_transGen distinctLinks onCycle hasDepth hasDepth).false
  · rcases hasDepth.exists_of_reflTransGen distinctLinks isAbove with ⟨_, aboveDepth⟩
    rcases aboveDepth.exists_link with ⟨_, aboveLink⟩
    rw [← map_fst_linksOf]
    exact mem_map_of_mem aboveLink

omit areRecords distinct listing in
theorem exists_listed_split {before after : List Value}
    (split : listedRows rows listed = before ++ row :: after) :
    ∃ first account level last, listed = first ++ (account, level) :: last ∧
      first.map (fun entry => shownRow rows listed entry.1) = before ∧
      shownRow rows listed account = row ∧
      last.map (fun entry => shownRow rows listed entry.1) = after := by
  rcases map_eq_append_iff.mp split with ⟨first, others, listedEq, firstEq, othersEq⟩
  rcases map_eq_cons_iff.mp othersEq with ⟨entry, last, rfl, rowEq, lastEq⟩
  exact ⟨first, entry.1, entry.2, last, listedEq, firstEq, rowEq, lastEq⟩

theorem listedRows_parent_before {before after : List Value}
    (split : listedRows rows listed = before ++ row :: after) {parent : String}
    (isParent : parentIn row = some parent) : ∃ above ∈ before, nameIn above = parent := by
  rcases exists_listed_split split with ⟨first, account, level, last, listedEq, rfl, rfl, -⟩
  have accountMem := ((mem_listed_iff distinct listing _).mp
    (listedEq ▸ mem_append_right first (mem_cons_self))).1
  rw [(shownRow_keeps areRecords listed accountMem).2.2] at isParent
  rcases listing.parent_before (nodup_accountsIn distinct) (name_accountsIn rows)
    listedEq isParent with ⟨entry, isBefore, isName⟩
  have isListed : entry ∈ listed := listedEq ▸ mem_append_left _ isBefore
  refine ⟨_, mem_map_of_mem isBefore, ?_⟩
  rw [nameIn_listed areRecords distinct listing isListed, isName]

theorem listedRows_below_after {before after : List Value}
    (split : listedRows rows listed = before ++ row :: after) :
    ∃ below rest, after = below ++ rest ∧ ∀ other ∈ listedRows rows listed,
      (other ∈ below ↔ TransGen (linksOf rows).Parent (nameIn other) (nameIn row)) := by
  have nameOf := fun {entry} => @nameIn_listed rows areRecords distinct depth listed listing entry
  rcases exists_listed_split split with ⟨first, account, level, last, listedEq, rfl, rfl, rfl⟩
  rcases listing.exists_below_iff (nodup_accountsIn distinct) (name_accountsIn rows)
    listedEq with ⟨below, rest, rfl, belowIff⟩
  refine ⟨_, _, map_append, fun other otherListed => ?_⟩
  rcases mem_map.mp otherListed with ⟨entry, isListed, rfl⟩
  have rowName : nameIn (shownRow rows listed account) = account.title :=
    @nameOf (account, level) (by simp [listedEq])
  rw [nameOf isListed, rowName, ← accountLinks_accountsIn, ← belowIff entry isListed, mem_map]
  constructor
  · rintro ⟨other, isBelow, sameRow⟩
    have isOther : other ∈ listed := by simp [listedEq, isBelow]
    have sameTitle := (nameOf isOther).symm.trans
      ((congrArg nameIn sameRow).trans (nameOf isListed))
    exact listed_unique distinct listing isOther isListed sameTitle ▸ isBelow
  · exact fun isBelow => ⟨entry, isBelow, rfl⟩

theorem indentedRows_listed_or_unchanged :
    List.Forall₂ (fun old row => nameIn row = nameIn old ∧ (row ∈ listedRows rows listed ∨
      row = old ∧ nameIn old ∉ (listedRows rows listed).map nameIn))
      rows (indentedRows rows listed) := by
  have memIff := mem_listed_iff distinct listing
  rw [map_nameIn_listedRows areRecords distinct listing]
  refine forall₂_iff_get.mpr ⟨by simp [indentedRows], fun position inRange inShown => ?_⟩
  have accountMem : accountAt rows[position] position ∈ accountsIn rows :=
    mem_accountsIn.mpr ⟨position, _, getElem?_eq_getElem inRange, rfl⟩
  have shownEq : (indentedRows rows listed)[position] =
      shownRow rows listed (accountAt rows[position] position) := by
    simp [shownRow, accountAt, getElem?_eq_getElem inShown]
  rw [get_eq_getElem, get_eq_getElem]
  refine ⟨shownEq ▸ (shownRow_keeps areRecords listed accountMem).2.1, ?_⟩
  by_cases isListed : nameIn rows[position] ∈ listed.map fun entry => entry.1.title
  · left
    rcases mem_map.mp isListed with ⟨entry, isListed, sameName⟩
    have sameAccount : entry.1 = accountAt rows[position] position :=
      inj_on_of_nodup_map (nodup_accountsIn distinct) ((memIff entry).mp isListed).1
        accountMem sameName
    exact mem_map.mpr ⟨entry, isListed, by rw [sameAccount, shownEq]⟩
  · right
    refine ⟨?_, isListed⟩
    have noIndent : indentsAt listed position = [] := by
      rw [indentsAt, filter_eq_nil_iff.mpr, map_nil]
      intro entry entryListed samePosition
      have sameAccount := position_unique ((memIff entry).mp entryListed).1 accountMem
        (of_decide_eq_true samePosition)
      exact isListed (mem_map.mpr ⟨entry, entryListed, congrArg Account.title sameAccount⟩)
    simp only [indentedRows, getElem_mapIdx, noIndent]
    exact (areRecords _ (getElem_mem inRange)).isDict.withKeys_nil

end Tree

theorem exists_account_of_mem_indentedRows {listed : List (Account × Nat)} {row : Value}
    (rowShown : row ∈ indentedRows rows listed) :
    ∃ account ∈ accountsIn rows, shownRow rows listed account = row := by
  rw [← map_shownRow] at rowShown
  exact mem_map.mp rowShown

section Shown

variable (areRecords : ∀ row ∈ rows, IsAccountRecord row) {listed : List (Account × Nat)}

include areRecords

theorem indentedRows_areRecords {row : Value} (rowShown : row ∈ indentedRows rows listed) :
    IsAccountRecord row := by
  rcases exists_account_of_mem_indentedRows rowShown with ⟨account, accountMem, rfl⟩
  exact (shownRow_keeps areRecords listed accountMem).1

theorem map_nameIn_indentedRows :
    (indentedRows rows listed).map nameIn = rows.map nameIn := by
  rw [← map_shownRow, List.map_map, ← title_accountsIn]
  exact map_congr_left fun _ accountMem => (shownRow_keeps areRecords listed accountMem).2.1

theorem key_indentedRows (distinct : (rows.map nameIn).Nodup) {row : Value}
    (rowShown : row ∈ indentedRows rows listed) :
    (Value.ofEntries (byName (indentedRows rows listed))).key (nameIn row) = .ok row := by
  have distinctShown : ((indentedRows rows listed).map nameIn).Nodup :=
    map_nameIn_indentedRows areRecords ▸ distinct
  have isPut : Value.ofEntries (byName (indentedRows rows listed)) =
      (Value.dict .plain []).withKeys
        ((indentedRows rows listed).map fun row => (nameIn row, row)) := by
    rw [Value.ofEntries, byName, Value.withKeys, Value.putAll, foldl_map, foldl_map]
  have isDict : (Value.dict .plain []).IsDict := ⟨_, _, rfl⟩
  rw [isPut, (isDict.withKeys _).key_eq_ok_iff]
  refine @Value.IsDict.held_withKeys_of_mem _ _ isDict (nameIn row, row)
    (mem_map_of_mem rowShown) ?_
  intro other otherMem sameName
  rcases mem_map.mp otherMem with ⟨otherRow, otherShown, rfl⟩
  rw [inj_on_of_nodup_map distinctShown otherShown rowShown sameName]

theorem item_indentedRows {families : Families}
    (hasFamilies : HasFamilies (accountsIn rows) families) {row : Value}
    (rowShown : row ∈ indentedRows rows listed) :
    ∃ children, (Value.dict .plain (families.map fun family => (Value.optStr family.1,
        Value.list (family.2.map (shownRow rows listed))))).item (.optStr (parentIn row)) =
      .ok (.list children) ∧ row ∈ children := by
  rcases exists_account_of_mem_indentedRows rowShown with ⟨account, accountMem, rfl⟩
  rw [(shownRow_keeps areRecords listed accountMem).2.2]
  have isChild : account ∈ families.children account.parent :=
    (hasFamilies account.parent).mem_iff.mpr (mem_filter.mpr ⟨accountMem, decide_eq_true rfl⟩)
  exact ⟨_, item_families _ isChild, mem_map_of_mem isChild⟩

end Shown

theorem arrangeRows_eq (areRecords : ∀ row ∈ rows, IsAccountRecord row) (depth : Int)
    {arranged : Arrangement} (isArranged : arrange depth.toNat (accountsIn rows) = arranged) :
    arrangeRows (.list rows) (.int depth) =
      .ok (.tuple [.list (listedRows rows arranged.listed),
        .ofEntries (byName (indentedRows rows arranged.listed)),
        .dict .plain (arranged.families.map fun family => (Value.optStr family.1,
          Value.list (family.2.map (shownRow rows arranged.listed))))],
        .list (indentedRows rows arranged.listed)) := by
  subst isArranged
  have read : rows.zipIdx.mapM (fun item => accountOf item.1 item.2) = .ok (accountsIn rows) := by
    rw [accountsIn, mapIdx_eq_zipIdx_map]
    exact mapM_eq_ok fun item itemMem =>
      (areRecords _ (fst_mem_of_mem_zipIdx itemMem)).accountOf item.2
  have indented := indentRows_eq areRecords (arrange depth.toNat (accountsIn rows)).listed
  have keyed : (indentedRows rows (arrange depth.toNat (accountsIn rows)).listed).mapM
      (fun row => return (← row.field "name", row)) =
      .ok (byName (indentedRows rows (arrange depth.toNat (accountsIn rows)).listed)) :=
    mapM_eq_ok fun row rowShown => by
      rw [(indentedRows_areRecords areRecords rowShown).field_name]
      rfl
  exact bind_eq_ok.mpr ⟨rows, rfl, bind_eq_ok.mpr ⟨_, read, bind_eq_ok.mpr ⟨_, indented,
    bind_eq_ok.mpr ⟨_, keyed, rfl⟩⟩⟩⟩

/-- Rows of accounts with distinct names are listed as a tree, whatever else they are linked to:
rows on a circle or without a root are left out and stay as they are. -/
theorem arrangeRows_lists_tree (areRecords : ∀ row ∈ rows, IsAccountRecord row)
    (distinct : (rows.map nameIn).Nodup) (depth : Int) :
    ∃ listed names families shown, arrangeRows (.list rows) (.int depth) =
        .ok (.tuple [.list listed, names, families], .list shown) ∧
      ArrangedAsTree rows depth listed names families shown := by
  rcases isListing_arrange depth.toNat (accountsIn rows) with ⟨listing, hasFamilies⟩
  exact ⟨_, _, _, _, arrangeRows_eq areRecords depth rfl, {
    mem_iff := mem_listedRows_iff distinct listing rfl
    nodup := nodup_listedRows areRecords distinct listing
    rooted := fun _ => listedRows_rooted areRecords distinct listing
    parent_before := fun _ _ _ split _ => listedRows_parent_before areRecords distinct listing split
    below_after := fun _ _ _ => listedRows_below_after areRecords distinct listing
    shown_as := indentedRows_listed_or_unchanged areRecords distinct listing
    by_name := fun _ => key_indentedRows areRecords distinct
    by_parent := fun _ => item_indentedRows areRecords hasFamilies }⟩

/-- A tree of three accounts, one that is its own parent, and one without a root. -/
def chartRows : List Value :=
  [accountRecord "Till" (some "Cash") [], accountRecord "Cash" (some "Assets") [],
    accountRecord "Assets" none [], accountRecord "Loop" (some "Loop") [],
    accountRecord "Lost" (some "Nowhere") []]

theorem arrangeRows_lists_tree_of_chartRows :
    ∃ listed names families shown, arrangeRows (.list chartRows) (.int 2) =
        .ok (.tuple [.list listed, names, families], .list shown) ∧
      ArrangedAsTree chartRows 2 listed names families shown := by
  have areRecords : ∀ row ∈ chartRows, IsAccountRecord row := by
    simp [chartRows, isAccountRecord_accountRecord]
  have distinct : (chartRows.map nameIn).Nodup := by
    simp [chartRows, nameIn_accountRecord]
  exact arrangeRows_lists_tree areRecords distinct 2

end Rows

end ErpLens.Accounts
