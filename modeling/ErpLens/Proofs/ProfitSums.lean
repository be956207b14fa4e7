import ErpLens.Proofs.ProfitGroups

/-!
# Sums of profit rows

Rows are added up from the last to the first. At the turn of a row all that is in it has been added
up already, and nothing that is still to come is in it.
-/

open List

namespace ErpLens.Accounts

variable {κ α : Type}

/-! ## Totals by name -/

section Totals

variable [BEq κ]

/-- The total of an account, if there is one. -/
def Totals.of (totals : Totals κ α) (name : κ) : Option α :=
  (totals.find? fun entry => entry.1 == name).map Prod.snd

variable [LawfulBEq κ]

theorem Totals.of_add [AddMonoid α] [BEq α] [LawfulBEq α] (totals : Totals κ α) (account name : κ)
    (value : α) :
    (totals.add account value).of name =
      if account == name then some ((totals.of name).getD 0 + value) else totals.of name := by
  induction totals with
  | nil => cases same : account == name <;> simp [Totals.add, Totals.of, same]
  | cons entry rest ih =>
    rcases entry with ⟨key, total⟩
    have restarts : (if total == 0 then 0 else total) = total := by
      split
      · simp_all
      · rfl
    have ofCons (total : α) (rest : Totals κ α) :
        Totals.of ((key, total) :: rest) name = if key == name then some total else
          rest.of name := by
      cases same : key == name <;> simp [Totals.of, same]
    rw [Totals.add, restarts]
    by_cases isAccount : key = account
    · subst isAccount
      cases same : key == name <;> simp [ofCons, same]
    · by_cases isName : key = name
      · subst isName
        simp [ofCons, isAccount, Ne.symm isAccount]
      · simp [ofCons, isAccount, isName, ih]

end Totals

/-! ## Adding upwards -/

theorem Nested.find?_account [BEq κ] [LawfulBEq κ] {rows : ProfitRows κ α} (nested : Nested rows)
    {row : ProfitRow κ α} (rowMem : row ∈ rows) :
    (rows.find? fun other => other.account == row.account) = some row := by
  cases found : rows.find? fun other => other.account == row.account with
  | none => simpa using find?_eq_none.mp found row rowMem
  | some other =>
    have same := find?_some found
    rw [beq_iff_eq] at same
    rw [nested.eq_of_account (mem_of_find?_eq_some found) rowMem same]

section Upwards

variable {row : ProfitRow κ α} {rows : ProfitRows κ α} [BEq κ] [AddMonoid α] [BEq α]

theorem addUpwards_of_top (rows : ProfitRows κ α) (value : α) (fuel : Nat) (top : row.group? = none)
    (totals : Totals κ α) :
    Totals.addUpwards rows value (fuel + 1) row totals = .ok (totals.add row.account value) := by
  have isTop : row.isTop = true := by simpa [ProfitRow.group?] using top
  simp [Totals.addUpwards, isTop]

theorem addUpwards_of_group (value : α) (fuel : Nat) {next : ProfitRow κ α} {name : κ}
    (named : row.group? = some name)
    (found : (rows.find? fun other => other.account == name) = some next) (totals : Totals κ α) :
    Totals.addUpwards rows value (fuel + 1) row totals =
      Totals.addUpwards rows value fuel next (totals.add row.account value) := by
  obtain ⟨isTop, rfl⟩ : row.isTop = false ∧ row.parent = name := by
    simpa [ProfitRow.group?] using named
  simp [Totals.addUpwards, isTop, found]

theorem addUpwards_of_missing (value : α) (fuel : Nat) {name : κ} (named : row.group? = some name)
    (missing : (rows.find? fun other => other.account == name) = none) (totals : Totals κ α) :
    Totals.addUpwards rows value (fuel + 1) row totals = .error .exhausted := by
  obtain ⟨isTop, rfl⟩ : row.isTop = false ∧ row.parent = name := by
    simpa [ProfitRow.group?] using named
  simp [Totals.addUpwards, isTop, missing]

theorem addUpwards_congr {others : ProfitRows κ α}
    (same : others.map ProfitRow.outline = rows.map ProfitRow.outline) (value : α) (fuel : Nat)
    {other : ProfitRow κ α} (sameRow : other.outline = row.outline) (totals : Totals κ α) :
    Totals.addUpwards others value fuel other totals =
      Totals.addUpwards rows value fuel row totals := by
  induction fuel generalizing row other totals with
  | zero => rfl
  | succ fuel ih =>
    have account : other.account = row.account := congrArg Prod.fst sameRow
    have group : other.group? = row.group? := congrArg Prod.snd sameRow
    cases named : row.group? with
    | none =>
      rw [addUpwards_of_top _ _ _ (group.trans named), addUpwards_of_top _ _ _ named, account]
    | some name =>
      have outlines (list : ProfitRows κ α) :
          (list.find? fun other => other.account == name).map ProfitRow.outline =
            (list.map ProfitRow.outline).find? fun outline => outline.1 == name := by
        rw [find?_map]
        rfl
      have found := (outlines others).trans ((congrArg _ same).trans (outlines rows).symm)
      cases inRows : rows.find? fun other => other.account == name with
      | none =>
        rw [inRows, Option.map_none, Option.map_eq_none_iff] at found
        rw [addUpwards_of_missing _ _ (group.trans named) found,
          addUpwards_of_missing _ _ named inRows]
      | some next =>
        rw [inRows, Option.map_some, Option.map_eq_some_iff] at found
        rcases found with ⟨next', found, sameNext⟩
        rw [addUpwards_of_group _ _ (group.trans named) found,
          addUpwards_of_group _ _ named inRows, account]
        exact ih sameNext _

variable [LawfulBEq κ] [LawfulBEq α]

theorem Nested.exists_addUpwards (nested : Nested rows) (value : α) (rowMem : row ∈ rows) :
    ∀ before after, rows = before ++ row :: after → ∀ fuel, before.length < fuel →
      ∀ totals : Totals κ α, ∃ new, Totals.addUpwards rows value fuel row totals = .ok new ∧
        ∀ name, new.of name = if (path rows row).contains name then
          some ((totals.of name).getD 0 + value) else totals.of name := by
  refine nested.induction ?top ?inner row rowMem
  case top =>
    intro row rowMem top before after _ fuel enough totals
    obtain ⟨fuel, rfl⟩ := Nat.exists_eq_succ_of_ne_zero (Nat.ne_zero_of_lt enough)
    refine ⟨_, addUpwards_of_top rows value fuel top totals, fun name => ?_⟩
    rw [Totals.of_add, path, around_of_top top]
    by_cases itself : row.account = name
    · simp [itself]
    · simp [itself, Ne.symm itself]
  case inner =>
    intro row rowMem group groupMem _ named ih before after split fuel enough totals
    obtain ⟨fuel, rfl⟩ := Nat.exists_eq_succ_of_ne_zero (Nat.ne_zero_of_lt enough)
    rcases nested.exists_group split named with ⟨found, foundMem, _, same⟩
    obtain rfl := nested.eq_of_account (by simp [split, foundMem]) groupMem same
    rcases append_of_mem foundMem with ⟨first, rest, rfl⟩
    simp only [length_append, length_cons] at enough
    rcases ih first (rest ++ row :: after) (by simp [split]) fuel (by omega)
      (totals.add row.account value) with ⟨new, added, totalsOf⟩
    refine ⟨new, ?_, fun name => ?_⟩
    · rw [Nat.succ_eq_add_one, addUpwards_of_group _ _ named (nested.find?_account groupMem), added]
    have notAround := nested.not_mem_around rowMem
    have pathEq : path rows row = row.account :: path rows found := by
      rw [path, nested.around_of_group groupMem named]
    rw [nested.around_of_group groupMem named] at notAround
    rw [totalsOf, Totals.of_add, pathEq]
    by_cases itself : row.account = name
    · subst itself
      simp [notAround]
    · simp [itself, Ne.symm itself]

end Upwards

/-! ## Sums over the accounts in a group -/

section Sums

variable [BEq κ]

theorem Nested.nodup_leavesOf {rows : ProfitRows κ α} (nested : Nested rows)
    (row : ProfitRow κ α) : (leavesOf rows row).Nodup :=
  nested.nodup.filter _

variable [LawfulBEq κ]

namespace Nested

variable {rows : ProfitRows κ α} {row : ProfitRow κ α}

theorem leavesOf_of_counts (nested : Nested rows) (rowMem : row ∈ rows)
    (counts : row.counts = true) : leavesOf rows row = [row] := by
  have isAccount : row.isGroup = false := by
    rw [ProfitRow.counts, Bool.and_eq_true, Bool.not_eq_true'] at counts
    exact counts.1
  rw [← perm_singleton, perm_ext_iff_of_nodup (nested.nodup_leavesOf row) (nodup_singleton row)]
  intro leaf
  rw [mem_singleton]
  constructor
  · exact nested.eq_of_mem_leavesOf rowMem isAccount
  · rintro rfl
    exact mem_leavesOf.mpr ⟨rowMem, counts, mem_cons_self⟩

theorem leavesOf_perm (nested : Nested rows) (rowMem : row ∈ rows) (isGroup : row.isGroup = true) :
    (leavesOf rows row).Perm
      ((rows.filter fun child => child.parent == row.account).flatMap (leavesOf rows)) := by
  have isChild {child : ProfitRow κ α} :
      child ∈ rows.filter (fun child => child.parent == row.account) ↔
        child ∈ rows ∧ child.group? = some row.account := by
    rw [mem_filter, beq_iff_eq]
    exact and_congr_right fun childMem => nested.parent_eq_iff childMem rowMem isGroup
  rw [perm_ext_iff_of_nodup (nested.nodup_leavesOf row)]
  · intro leaf
    rw [mem_flatMap]
    constructor
    · intro leafMem
      rcases nested.exists_child_of_mem_leavesOf rowMem isGroup leafMem with
        ⟨child, childMem, named, childLeaf⟩
      exact ⟨child, isChild.mpr ⟨childMem, named⟩, childLeaf⟩
    · rintro ⟨child, childMem, leafMem⟩
      rw [isChild] at childMem
      exact nested.leavesOf_subset childMem.1 childMem.2 leafMem
  · rw [nodup_flatMap]
    refine ⟨fun child _ => nested.nodup_leavesOf child, ?_⟩
    refine (nested.nodup.filter _).pairwise_of_forall_ne ?_
    intro first firstMem second secondMem different leaf firstLeaf secondLeaf
    rw [isChild] at firstMem secondMem
    rcases mem_leavesOf.mp firstLeaf with ⟨leafMem, _, firstOn⟩
    rcases mem_leavesOf.mp secondLeaf with ⟨_, _, secondOn⟩
    exact different (nested.child_unique leafMem firstMem.1 secondMem.1 firstMem.2 secondMem.2
      firstOn secondOn)

theorem sum_leavesOf {β : Type} [AddCommMonoid β] (nested : Nested rows) (rowMem : row ∈ rows)
    (isGroup : row.isGroup = true) (value : ProfitRow κ α → β) :
    ((rows.filter fun child => child.parent == row.account).map fun child =>
      ((leavesOf rows child).map value).sum).sum = ((leavesOf rows row).map value).sum := by
  rw [((nested.leavesOf_perm rowMem isGroup).map value).sum_eq, map_flatMap,
    flatMap_def, sum_flatten, map_map]
  rfl

end Nested

end Sums

/-! ## Columns -/

section Columns

variable {rows : ProfitRows κ α} [AddCommMonoid α]

/-- The sums of rows, column by column. -/
def columnSums (count : Nat) (rows : ProfitRows κ α) : List α :=
  (List.range count).map fun place => (rows.map fun row => row.values.getD place 0).sum

theorem foldl_zipWith_eq {start : List α}
    (sameLength : ∀ row ∈ rows, row.values.length = start.length) :
    rows.foldl (fun sums row => List.zipWith (· + ·) sums row.values) start =
      (List.range start.length).map fun place =>
        start.getD place 0 + (rows.map fun row => row.values.getD place 0).sum := by
  induction rows generalizing start with
  | nil =>
    apply ext_getElem
    · simp
    · intro place inside _
      rw [foldl_nil] at inside
      simp [inside]
  | cons row rest ih =>
    rw [forall_mem_cons] at sameLength
    have length : (List.zipWith (· + ·) start row.values).length = start.length := by
      simp [sameLength.1]
    rw [foldl_cons, ih (by simpa [length] using sameLength.2), length]
    apply map_congr_left
    intro place inside
    rw [mem_range] at inside
    have inRow : place < row.values.length := by omega
    simp [getElem?_zipWith, getElem?_eq_getElem inside, getElem?_eq_getElem inRow, add_assoc]

theorem groupValues_eq [BEq κ] {group : ProfitRow κ α}
    (sameLength : ∀ row ∈ rows, row.values.length = group.values.length) :
    groupValues rows group = columnSums group.values.length
      (rows.filter fun row => row.parent == group.account) := by
  rw [groupValues, foldl_zipWith_eq]
  · simp only [length_map, columnSums]
    apply map_congr_left
    intro place inside
    rw [mem_range] at inside
    simp
  · intro row rowMem
    rw [sameLength row (mem_of_mem_filter rowMem), length_map]

variable [BEq κ]

/-- A row as it is reported: a group with the sums of the accounts that count in it. -/
def addedUp (rows : ProfitRows κ α) (row : ProfitRow κ α) : ProfitRow κ α :=
  if row.isGroup then
    { row with
      values := columnSums row.values.length (leavesOf rows row)
      total := ((leavesOf rows row).map ProfitRow.total).sum }
  else row

theorem addedUp_of_account {row : ProfitRow κ α} (isAccount : row.isGroup = false) :
    addedUp rows row = row := by
  simp [addedUp, isAccount]

@[simp]
theorem position_addedUp (rows : ProfitRows κ α) (row : ProfitRow κ α) :
    (addedUp rows row).position = row.position := by
  cases isGroup : row.isGroup <;> simp [addedUp, isGroup]

@[simp]
theorem parent_addedUp (rows : ProfitRows κ α) (row : ProfitRow κ α) :
    (addedUp rows row).parent = row.parent := by
  cases isGroup : row.isGroup <;> simp [addedUp, isGroup]

@[simp]
theorem outline_addedUp (rows : ProfitRows κ α) (row : ProfitRow κ α) :
    (addedUp rows row).outline = row.outline := by
  cases isGroup : row.isGroup <;> simp [addedUp, isGroup, ProfitRow.outline, ProfitRow.group?]

@[simp]
theorem length_values_addedUp (rows : ProfitRows κ α) (row : ProfitRow κ α) :
    (addedUp rows row).values.length = row.values.length := by
  cases isGroup : row.isGroup <;> simp [addedUp, isGroup, columnSums]

variable [LawfulBEq κ]

theorem Nested.columnSums_children (nested : Nested rows)
    (counted : ∀ row ∈ rows, row.isGroup = false → row.counts = true) {count : Nat}
    (sameLength : ∀ row ∈ rows, row.values.length = count) {row : ProfitRow κ α}
    (rowMem : row ∈ rows) (isGroup : row.isGroup = true) :
    columnSums count ((rows.filter fun child => child.parent == row.account).map (addedUp rows)) =
      columnSums count (leavesOf rows row) := by
  apply map_congr_left
  intro place inside
  rw [mem_range] at inside
  rw [map_map, ← nested.sum_leavesOf rowMem isGroup]
  congr 1
  apply map_congr_left
  intro child childMem
  have childRow := mem_of_mem_filter childMem
  cases childGroup : child.isGroup with
  | false =>
    rw [nested.leavesOf_of_counts childRow (counted child childRow childGroup)]
    simp [addedUp, childGroup]
  | true => simp [addedUp, childGroup, columnSums, sameLength child childRow, inside]

end Columns

/-! ## Adding up row by row -/

/-- Nested rows at places of their own, all with the same columns. -/
structure IsReport (count : Nat) (rows : ProfitRows κ α) : Prop extends Nested rows where
  placed : (rows.map ProfitRow.position).Nodup
  sameLength : ∀ row ∈ rows, row.values.length = count

section Steps

variable [BEq κ] {missing : κ → Fault} {rows : ProfitRows κ α} {totals new : Totals κ α}
  {row : ProfitRow κ α} {total : α}

theorem takeTotal_eq (isTotal : totals.of row.account = some total) :
    takeTotal missing rows totals row = .ok (replaceRow rows { row with total }, totals) := by
  rcases Option.map_eq_some_iff.mp isTotal with ⟨entry, isEntry, rfl⟩
  simp [takeTotal, isEntry]

variable [AddCommMonoid α] [BEq α]

theorem adjustRow_of_group
    (found : (rows.find? fun other => other.position == row.position) = some row)
    (isGroup : row.isGroup = true) (isTotal : totals.of row.account = some total) :
    adjustRow missing (rows, totals) row =
      .ok (replaceRow rows { row with values := groupValues rows row, total }, totals) := by
  simp only [adjustRow, found, Option.getD_some]
  rw [if_pos isGroup]
  exact takeTotal_eq isTotal

theorem adjustRow_of_account
    (found : (rows.find? fun other => other.position == row.position) = some row)
    (isAccount : row.isGroup = false)
    (added : totals.addUpwards rows row.total (rows.length + 1) row = .ok new)
    (isTotal : new.of row.account = some total) :
    adjustRow missing (rows, totals) row = .ok (replaceRow rows { row with total }, new) := by
  simp only [adjustRow, found, Option.getD_some]
  rw [if_neg (by simp [isAccount]), added, ok_bind]
  exact takeTotal_eq isTotal

end Steps

section Turns

variable [BEq κ] [AddCommMonoid α] {rows before after : ProfitRows κ α}
  {row : ProfitRow κ α} {count : Nat}

/-- The rows at the turn of one of them: those after it have been added up. -/
def atTurn (rows before after : ProfitRows κ α) (row : ProfitRow κ α) : ProfitRows κ α :=
  before ++ row :: after.map (addedUp rows)

theorem concat_append_eq_atTurn :
    before ++ [row] ++ after.map (addedUp rows) = atTurn rows before after row := by
  simp [atTurn]

theorem IsReport.not_at_place (report : IsReport count rows)
    (split : rows = before ++ row :: after) :
    ∀ other ∈ before ++ after.map (addedUp rows), other.position ≠ row.position := by
  have placed := report.placed
  rw [split, map_append, map_cons, nodup_middle, nodup_cons] at placed
  intro other otherMem same
  refine placed.1 ?_
  rw [mem_append] at otherMem ⊢
  rcases otherMem with otherMem | otherMem
  · exact .inl (mem_map.mpr ⟨other, otherMem, same⟩)
  · rcases mem_map.mp otherMem with ⟨later, laterMem, rfl⟩
    rw [position_addedUp] at same
    exact .inr (mem_map.mpr ⟨later, laterMem, same⟩)

theorem IsReport.find?_atTurn (report : IsReport count rows)
    (split : rows = before ++ row :: after) :
    ((atTurn rows before after row).find? fun other => other.position == row.position) =
      some row := by
  have notBefore : (before.find? fun other => other.position == row.position) = none := by
    rw [find?_eq_none]
    intro other otherMem
    simpa using report.not_at_place split other (mem_append_left _ otherMem)
  simp [atTurn, notBefore]

theorem IsReport.replaceRow_atTurn (report : IsReport count rows)
    (split : rows = before ++ row :: after) {new : ProfitRow κ α}
    (same : new.position = row.position) :
    replaceRow (atTurn rows before after row) new = before ++ new :: after.map (addedUp rows) := by
  have others := report.not_at_place split
  have unchanged {part : ProfitRows κ α}
      (partOf : part ⊆ before ++ after.map (addedUp rows)) :
      part.map (fun old => if old.position == new.position then new else old) = part := by
    refine (map_congr_left ?_).trans (map_id part)
    intro other otherMem
    simp [same, others other (partOf otherMem)]
  rw [replaceRow, atTurn, map_append, map_cons,
    unchanged (subset_append_left _ _), unchanged (subset_append_right _ _)]
  simp [same]

theorem outline_atTurn (split : rows = before ++ row :: after) :
    (atTurn rows before after row).map ProfitRow.outline = rows.map ProfitRow.outline := by
  simp [atTurn, split, Function.comp_def]

variable [LawfulBEq κ]

theorem IsReport.groupValues_atTurn (report : IsReport count rows)
    (counted : ∀ row ∈ rows, row.isGroup = false → row.counts = true)
    (split : rows = before ++ row :: after) (isGroup : row.isGroup = true) :
    groupValues (atTurn rows before after row) row =
      columnSums row.values.length (leavesOf rows row) := by
  have rowMem : row ∈ rows := by simp [split]
  have nodup := report.nodup
  rw [split, nodup_append', nodup_cons] at nodup
  have isLater {child : ProfitRow κ α} (childMem : child ∈ rows)
      (parent : child.parent = row.account) : child ∈ after :=
    report.child_after split childMem ((report.parent_eq_iff childMem rowMem isGroup).mp parent)
  have notBefore : (before.filter fun child => child.parent == row.account) = [] := by
    rw [filter_eq_nil_iff]
    intro child childMem parent
    have childRow : child ∈ rows := by simp [split, childMem]
    have childAfter := isLater childRow (by simpa using parent)
    exact nodup.2.2 childMem (mem_cons_of_mem _ childAfter)
  have notItself : (row.parent == row.account) = false := by
    rw [beq_eq_false_iff_ne]
    intro parent
    exact nodup.2.1.1 (isLater rowMem parent)
  have children : (atTurn rows before after row).filter (fun child => child.parent == row.account) =
      (rows.filter fun child => child.parent == row.account).map (addedUp rows) := by
    rw [atTurn, split]
    simp [notBefore, notItself, filter_map, Function.comp_def]
  rw [groupValues_eq, children, report.sameLength row rowMem,
    report.columnSums_children counted report.sameLength rowMem isGroup]
  intro other otherMem
  rw [atTurn, mem_append, mem_cons, mem_map] at otherMem
  rw [report.sameLength row rowMem]
  rcases otherMem with otherMem | rfl | ⟨other, otherMem, rfl⟩
  · exact report.sameLength other (by simp [split, otherMem])
  · exact report.sameLength other rowMem
  · rw [length_values_addedUp]
    exact report.sameLength other (by simp [split, otherMem])

end Turns

section Adjust

variable [BEq κ]

/-- The accounts among some rows that count in an account. -/
def leavesAt (rows some : ProfitRows κ α) (name : κ) : ProfitRows κ α :=
  some.filter fun leaf => leaf.counts && (path rows leaf).contains name

/-- The sum of amounts, if there are any. -/
def tally [AddCommMonoid α] (amounts : List α) : Option α :=
  if amounts.isEmpty then none else some amounts.sum

theorem tally_cons [AddCommMonoid α] (amount : α) (rest : List α) :
    tally (amount :: rest) = some ((tally rest).getD 0 + amount) := by
  cases rest with
  | nil => simp [tally]
  | cons next others => simp [tally, add_comm]

/-- The state after some rows at the end have been added up. -/
structure AddedFrom [AddCommMonoid α] (rows before after : ProfitRows κ α)
    (state : ProfitRows κ α × Totals κ α) : Prop where
  sums : state.1 = before ++ after.map (addedUp rows)
  totals : ∀ name, state.2.of name = tally ((leavesAt rows after name).map ProfitRow.total)

variable [LawfulBEq κ] {rows before after : ProfitRows κ α} {row : ProfitRow κ α}
  {count : Nat}

theorem Nested.leavesAt_eq (nested : Nested rows) (split : rows = before ++ row :: after) :
    leavesAt rows (row :: after) row.account = leavesOf rows row := by
  have distinct := nested.distinct
  rw [split, map_append, map_cons, nodup_middle, nodup_cons, mem_append, not_or] at distinct
  have notOn : ∀ leaf ∈ before, row.account ∉ path rows leaf := by
    intro leaf leafMem onPath
    rw [path, mem_cons] at onPath
    rcases onPath with same | isAround
    · exact distinct.1.1 (mem_map.mpr ⟨leaf, leafMem, same.symm⟩)
    · rcases append_of_mem leafMem with ⟨first, rest, rfl⟩
      rcases nested.exists_of_mem_around (by simp [split]) first (rest ++ row :: after)
        (by simp [split]) _ isAround with ⟨group, groupMem, _, same⟩
      exact distinct.1.1 (mem_map.mpr ⟨group, by simp [groupMem], same⟩)
  have notBefore : leavesAt rows before row.account = [] := by
    rw [leavesAt, filter_eq_nil_iff]
    intro leaf leafMem
    simp [notOn leaf leafMem]
  have whole : leavesOf rows row =
      leavesAt rows before row.account ++ leavesAt rows (row :: after) row.account := by
    rw [leavesAt, leavesAt, ← filter_append, ← split]
    rfl
  rw [whole, notBefore, nil_append]

theorem IsReport.kept (report : IsReport count rows) :
    IsReport count (rows.filter (isKept rows)) where
  toNested := report.toNested.kept
  placed := report.placed.sublist (filter_sublist.map _)
  sameLength := fun row rowMem => report.sameLength row (mem_of_mem_filter rowMem)

variable [AddCommMonoid α] [BEq α] {missing : κ → Fault}
  {state : ProfitRows κ α × Totals κ α}

theorem IsReport.exists_adjustRow_of_group (report : IsReport count rows)
    (counted : ∀ row ∈ rows, row.isGroup = false → row.counts = true)
    (split : rows = before ++ row :: after) (nonempty : leavesOf rows row ≠ [])
    (isGroup : row.isGroup = true) (added : AddedFrom rows (before ++ [row]) after state) :
    ∃ new, adjustRow missing state row = .ok new ∧ AddedFrom rows before (row :: after) new := by
  rcases state with ⟨current, totals⟩
  rcases added with ⟨rfl, totalsOf⟩
  rw [concat_append_eq_atTurn]
  have same (name : κ) : leavesAt rows (row :: after) name = leavesAt rows after name := by
    simp [leavesAt, ProfitRow.counts, isGroup]
  have isTotal : totals.of row.account = some ((leavesOf rows row).map ProfitRow.total).sum := by
    rw [totalsOf, ← same, report.leavesAt_eq split]
    simp [tally, nonempty]
  refine ⟨_, adjustRow_of_group (report.find?_atTurn split) isGroup isTotal, ?_, fun name => ?_⟩
  · rw [report.groupValues_atTurn counted split isGroup, map_cons, addedUp, if_pos isGroup]
    exact report.replaceRow_atTurn split rfl
  · rw [same, totalsOf]

variable [LawfulBEq α]

theorem IsReport.exists_adjustRow_of_account (report : IsReport count rows)
    (split : rows = before ++ row :: after) (counts : row.counts = true)
    (isAccount : row.isGroup = false) (added : AddedFrom rows (before ++ [row]) after state) :
    ∃ new, adjustRow missing state row = .ok new ∧ AddedFrom rows before (row :: after) new := by
  have rowMem : row ∈ rows := by simp [split]
  rcases state with ⟨current, totals⟩
  rcases added with ⟨rfl, totalsOf⟩
  rw [concat_append_eq_atTurn]
  have enough : before.length < (atTurn rows before after row).length + 1 := by
    simp [atTurn]
  rcases report.exists_addUpwards row.total rowMem before after split _ enough totals with
    ⟨new, upwards, newOf⟩
  rw [← addUpwards_congr (outline_atTurn split) row.total _ rfl] at upwards
  have newTotals (name : κ) :
      new.of name = tally ((leavesAt rows (row :: after) name).map ProfitRow.total) := by
    rw [newOf, totalsOf, leavesAt, leavesAt, filter_cons, counts, Bool.true_and]
    cases (path rows row).contains name with
    | true => rw [if_pos rfl, if_pos rfl, map_cons, tally_cons]
    | false => simp
  have isTotal : new.of row.account = some row.total := by
    rw [newTotals, report.leavesAt_eq split, report.leavesOf_of_counts rowMem counts]
    simp [tally]
  refine ⟨_, adjustRow_of_account (report.find?_atTurn split) isAccount upwards isTotal, ?_,
    newTotals⟩
  rw [map_cons, addedUp_of_account isAccount]
  exact report.replaceRow_atTurn split rfl

/-- After the last turn all rows are added up. -/
theorem IsReport.adjustTotals_eq (report : IsReport count rows)
    (kept : ∀ row ∈ rows, leavesOf rows row ≠ []) (missing : κ → Fault) :
    adjustTotals missing rows = .ok (rows.map (addedUp rows)) := by
  have counted : ∀ row ∈ rows, row.isGroup = false → row.counts = true := by
    intro row rowMem isAccount
    rcases exists_mem_of_ne_nil _ (kept row rowMem) with ⟨leaf, leafMem⟩
    obtain rfl := report.eq_of_mem_leavesOf rowMem isAccount leafMem
    exact (mem_leavesOf.mp leafMem).2.1
  have start : AddedFrom rows rows [] (rows, []) := by
    refine ⟨by simp, fun name => ?_⟩
    simp [leavesAt, tally, Totals.of]
  have fromEnd : ∀ before after state, rows = before ++ after → AddedFrom rows before after state →
      ∃ last, before.reverse.foldlM (adjustRow missing) state = .ok last ∧
        AddedFrom rows [] rows last := by
    intro before
    induction before using List.reverseRecOn with
    | nil =>
      intro after state split added
      rw [nil_append] at split
      exact ⟨state, rfl, split ▸ added⟩
    | append_singleton before row ih =>
      intro after state split added
      rw [append_assoc, singleton_append] at split
      have rowMem : row ∈ rows := by simp [split]
      obtain ⟨new, adjusted, addedNew⟩ : ∃ new, adjustRow missing state row = .ok new ∧
          AddedFrom rows before (row :: after) new := by
        cases isGroup : row.isGroup with
        | true =>
          exact report.exists_adjustRow_of_group counted split (kept row rowMem) isGroup added
        | false =>
          exact report.exists_adjustRow_of_account split (counted row rowMem isGroup) isGroup
            added
      rw [reverse_concat, foldlM_cons, adjusted, ok_bind]
      exact ih (row :: after) new split addedNew
  rcases fromEnd rows [] (rows, []) (by simp) start with ⟨last, ran, added⟩
  rw [adjustTotals, ran, ok_bind, added.sums]
  rfl

/-- The accounts that count and the groups that they are in are reported, the groups with the sums
of the accounts. -/
theorem IsReport.revenue_eq (report : IsReport count rows) (missing : κ → Fault) :
    revenue missing rows = .ok ((rows.filter (isKept rows)).map (addedUp rows)) := by
  have nested := report.toNested
  have left := nested.dropAllEmptyGroups_eq report.placed (Nat.lt_succ_self _)
  have full : ∀ row ∈ rows.filter (isKept rows),
      leavesOf (rows.filter (isKept rows)) row ≠ [] := by
    intro row rowMem
    rw [mem_filter] at rowMem
    rw [nested.leavesOf_kept, ne_eq, eq_nil_iff_forall_not_mem, not_forall_not]
    exact (nested.isKept_iff rowMem.1).mp rowMem.2
  rw [revenue, left, report.kept.adjustTotals_eq full]
  congr 1
  apply map_congr_left
  intro row _
  rw [addedUp, addedUp, nested.leavesOf_kept]

end Adjust

end ErpLens.Accounts
