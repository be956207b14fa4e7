import ErpLens.Proofs.ProfitReports

/-!
# Profit reports that are made again

A report changes nothing but the sums of groups, and what it adds up depends on the accounts only.
So the next report of the same rows is as if there had been none before.
-/

open List

namespace ErpLens.Accounts

/-! ## Rows that differ in the sums of groups -/

section Sums

variable {κ α : Type}

/-- Rows of which a group may have other sums, while an account is the same. -/
structure SameAccounts (row other : ProfitRow κ α) : Prop where
  fields : other = { row with values := other.values, total := other.total }
  length : other.values.length = row.values.length
  account : row.isGroup = false → other = row

theorem SameAccounts.isGroup {row other : ProfitRow κ α} (same : SameAccounts row other) :
    other.isGroup = row.isGroup := by
  rw [same.fields]

/-- Changes of rows that leave them in their places and groups. -/
structure KeepsOutlines (change : ProfitRow κ α → ProfitRow κ α) : Prop where
  position : ∀ row, (change row).position = row.position
  account : ∀ row, (change row).account = row.account
  parent : ∀ row, (change row).parent = row.parent
  isTop : ∀ row, (change row).isTop = row.isTop
  isGroup : ∀ row, (change row).isGroup = row.isGroup

theorem Nested.map {rows : ProfitRows κ α} (nested : Nested rows)
    {change : ProfitRow κ α → ProfitRow κ α} (keeps : KeepsOutlines change) :
    Nested (rows.map change) where
  distinct := by
    have distinct := nested.distinct
    simpa [Function.comp_def, keeps.account] using distinct
  inGroup := by
    intro place inside name named
    rw [length_map] at inside
    have inGroup := nested.inGroup place inside name
    simp only [getElem_map, ProfitRow.group?, keeps.isTop, keeps.parent] at named
    rcases inGroup named with ⟨group, groupMem, isGroup, isName⟩
    refine ⟨change group, ?_, ?_, ?_⟩
    · rw [← map_take]
      exact mem_map_of_mem groupMem
    · rw [keeps.isGroup, isGroup]
    · rw [keeps.account, isName]
  outside := by
    simp only [forall_mem_map, keeps.isTop, keeps.isGroup, keeps.account, keeps.parent]
    exact nested.outside

variable [BEq κ] {rows : ProfitRows κ α} {first second : ProfitRow κ α → ProfitRow κ α}
  (same : ∀ row, SameAccounts (first row) (second row))

include same

variable (row : ProfitRow κ α)

theorem path_congr :
    path (rows.map second) (second row) = path (rows.map first) (first row) := by
  have outline (row : ProfitRow κ α) : (second row).outline = (first row).outline := by
    rw [(same row).fields]
    rfl
  have account := congrArg Prod.fst (outline row)
  have group := congrArg Prod.snd (outline row)
  have outlines : (rows.map second).map ProfitRow.outline =
      (rows.map first).map ProfitRow.outline := by
    simp [Function.comp_def, outline]
  simp only [ProfitRow.outline] at account group
  rw [path, path, around, around, account, group, outlines]

theorem leavesOf_congr :
    leavesOf (rows.map second) (second row) = leavesOf (rows.map first) (first row) := by
  have counts (row : ProfitRow κ α) : (second row).counts = (first row).counts := by
    rw [(same row).fields]
    rfl
  have account : (second row).account = (first row).account := by rw [(same row).fields]
  rw [leavesOf, leavesOf, filter_map, filter_map]
  simp only [Function.comp_def, counts, path_congr same, account]
  apply map_congr_left
  intro leaf leafMem
  have leafCounts : (first leaf).counts = true := by
    have selected := (mem_filter.mp leafMem).2
    rw [Bool.and_eq_true] at selected
    exact selected.1
  rw [ProfitRow.counts, Bool.and_eq_true, Bool.not_eq_true'] at leafCounts
  exact (same leaf).account leafCounts.1

theorem isKept_congr :
    isKept (rows.map second) (second row) = isKept (rows.map first) (first row) := by
  have isIncluded : (second row).isIncluded = (first row).isIncluded := by rw [(same row).fields]
  rw [isKept, isKept, (same row).isGroup, isIncluded, leavesOf_congr same]

theorem addedUp_congr [AddCommMonoid α] :
    addedUp (rows.map second) (second row) = addedUp (rows.map first) (first row) := by
  cases isGroup : (first row).isGroup with
  | false =>
    rw [(same row).account isGroup, addedUp_of_account isGroup, addedUp_of_account isGroup]
  | true =>
    rw [addedUp, addedUp, (same row).isGroup, if_pos isGroup, if_pos isGroup,
      leavesOf_congr same, (same row).length, (same row).fields]

end Sums

/-! ## Asking for the other rows -/

/-- A row as the one or the other of the two reports reads it. -/
def ProfitRow.askedFor {κ α : Type} (gross other : Bool) (row : ProfitRow κ α) : ProfitRow κ α :=
  { row with isIncluded := (row.isIncluded == gross) == other }

theorem keepsOutlines_askedFor {κ α : Type} (gross other : Bool) :
    KeepsOutlines (ProfitRow.askedFor gross other : ProfitRow κ α → ProfitRow κ α) :=
  ⟨fun _ => rfl, fun _ => rfl, fun _ => rfl, fun _ => rfl, fun _ => rfl⟩

variable (rows : ProfitRows String Int)

/-- A row after a report. -/
def afterwards (row : ProfitRow String Int) : ProfitRow String Int :=
  if isKept rows row then addedUp rows row else row

theorem sameAccounts_addedUp (row : ProfitRow String Int) :
    SameAccounts row (addedUp rows row) where
  fields := by
    rw [addedUp]
    split <;> rfl
  length := length_values_addedUp rows row
  account := addedUp_of_account

theorem sameAccounts_afterwards (row : ProfitRow String Int) :
    SameAccounts row (afterwards rows row) := by
  rw [afterwards]
  split
  · exact sameAccounts_addedUp rows row
  · exact ⟨rfl, rfl, fun _ => rfl⟩

theorem keepsOutlines_afterwards : KeepsOutlines (afterwards rows) := by
  constructor
  all_goals
    intro row
    rw [(sameAccounts_afterwards rows row).fields]

theorem SameAccounts.askedFor {κ α : Type} {row other : ProfitRow κ α}
    (same : SameAccounts row other) (gross next : Bool) :
    SameAccounts (row.askedFor gross next) (other.askedFor gross next) where
  fields := by
    rw [ProfitRow.askedFor, same.fields]
    rfl
  length := same.length
  account := by
    intro isAccount
    rw [same.account isAccount]

theorem eq_map_getD {rows : ProfitRows String Int} {items : List Value}
    (places : rows.map ProfitRow.position = List.range rows.length)
    (length : items.length = rows.length) :
    items = rows.map fun row => items.getD row.position .null := by
  have mapped : (rows.map ProfitRow.position).map (fun place => items.getD place .null) =
      items := by
    rw [places, ← length]
    apply ext_getElem
    · simp
    · intro place _ inside
      simp [inside]
  rw [map_map] at mapped
  exact mapped.symm

namespace IsProfitReport

variable {periods : List String} {gross : Bool} {documents after : List Value}
  {rows : ProfitRows String Int} (report : IsProfitReport periods gross documents rows)

include report

theorem change {change : ProfitRow String Int → ProfitRow String Int} (keeps : KeepsOutlines change)
    {next : Bool} (length : after.length = documents.length)
    (isRow : ∀ row ∈ rows,
      IsProfitRow periods next (after.getD row.position .null) (change row)) :
    IsProfitReport periods next after (rows.map change) where
  nested := report.nested.map keeps
  places := by
    have places := report.places
    simpa [Function.comp_def, keeps.position] using places
  described := by
    rw [eq_map_getD report.places (length.trans report.described.length_eq),
      forall₂_map_left_iff, forall₂_map_right_iff, forall₂_same]
    exact isRow

theorem askedFor (other : Bool) :
    IsProfitReport periods other documents (rows.map (ProfitRow.askedFor gross other)) := by
  refine report.change (keepsOutlines_askedFor gross other) rfl ?_
  intro row rowMem
  have isRow := (report.exists_place rowMem).2
  have isIncluded : ((((row.isIncluded == gross) == other)) == other) =
      (row.isIncluded == gross) := by
    cases row.isIncluded <;> cases gross <;> cases other <;> rfl
  refine { isRow with isIncluded := ?_ }
  rw [ProfitRow.askedFor, isIncluded]
  exact isRow.isIncluded

theorem isProfitRow_addedUp (fresh : ∀ period ∈ periods, period ∉ rowFields)
    {row : ProfitRow String Int} (rowMem : row ∈ rows) :
    IsProfitRow periods gross
      ((documents.getD row.position .null).withKeys (written periods (addedUp rows row)))
      (addedUp rows row) := by
  rcases report.exists_place rowMem with ⟨_, isRow⟩
  cases isGroup : row.isGroup with
  | false =>
    rw [addedUp_of_account isGroup, withKeys_written_of_account isRow isGroup]
    exact isRow
  | true =>
    refine isRow.write fresh isGroup (sameAccounts_addedUp rows row).fields ?_
    rw [addedUp, if_pos isGroup, isRow.length_values]
    apply byPeriod_columnSums
    intro leaf leafMem
    exact (report.exists_place (mem_leavesOf.mp leafMem).1).2.byPeriod

theorem afterwards (fresh : ∀ period ∈ periods, period ∉ rowFields)
    (writes : WritesSums periods rows documents after) :
    IsProfitReport periods gross after (rows.map (Accounts.afterwards rows)) := by
  refine report.change (keepsOutlines_afterwards rows) writes.length ?_
  intro row rowMem
  rw [writes.atPlace row rowMem, Accounts.afterwards]
  cases isKept rows row with
  | true => exact report.isProfitRow_addedUp fresh rowMem
  | false => exact (report.exists_place rowMem).2

/-- Writing the sums of the next report to a row gives the same whether the report before has been
made or not. -/
theorem withKeys_written_afterwards (writes : WritesSums periods rows documents after)
    {row new : ProfitRow String Int} (rowMem : row ∈ rows) (isGroup : new.isGroup = row.isGroup)
    (sameLength : new.values.length = row.values.length) :
    (after.getD row.position .null).withKeys (written periods new) =
      (documents.getD row.position .null).withKeys (written periods new) := by
  rcases report.exists_place rowMem with ⟨_, isRow⟩
  rw [writes.atPlace row rowMem]
  cases isKept rows row with
  | false => rfl
  | true =>
    rw [if_pos rfl]
    cases rowGroup : row.isGroup with
    | false => rw [addedUp_of_account rowGroup, withKeys_written_of_account isRow rowGroup]
    | true =>
      apply isRow.isDict.withKeys_withKeys
      rw [keys_written, keys_written (isGroup.trans rowGroup)]
      · rw [sameLength, isRow.length_values]
      · rw [(sameAccounts_addedUp rows row).isGroup, rowGroup]
      · rw [length_values_addedUp, isRow.length_values]

theorem exists_again (fresh : ∀ period ∈ periods, period ∉ rowFields)
    (writes : WritesSums periods rows documents after) {records : List Value}
    (arePeriods : ArePeriods records periods) (other : Bool) :
    ∃ again last lastAgain,
      revenueRows (.list documents) (.list records) (flag other) = .ok (again, last) ∧
      revenueRows (.list after) (.list records) (flag other) = .ok (again, lastAgain) := by
  have nextReport := (report.afterwards fresh writes).askedFor other
  rw [map_map] at nextReport
  have same (row : ProfitRow String Int) : SameAccounts (row.askedFor gross other)
      ((ProfitRow.askedFor gross other ∘ Accounts.afterwards rows) row) :=
    (sameAccounts_afterwards rows row).askedFor gross other
  rcases (report.askedFor other).exists_revenueRows arePeriods with ⟨last, ran, lastWrites⟩
  rcases nextReport.exists_revenueRows arePeriods with ⟨lastAgain, ranAgain, againWrites⟩
  refine ⟨_, .list last, .list lastAgain, ran, ?_⟩
  have kept : isKept (rows.map (ProfitRow.askedFor gross other ∘ Accounts.afterwards rows)) ∘
      (ProfitRow.askedFor gross other ∘ Accounts.afterwards rows) =
      isKept (rows.map (ProfitRow.askedFor gross other)) ∘ ProfitRow.askedFor gross other :=
    funext (isKept_congr same)
  rw [ranAgain, filter_map, filter_map, kept, map_map, map_map]
  congr 3
  apply map_congr_left
  intro row rowMem
  rcases mem_filter.mp rowMem with ⟨rowRow, rowKept⟩
  rw [Function.comp_apply] at rowKept
  have lastAt := lastWrites.atPlace _ (mem_map_of_mem rowRow)
  have againAt := againWrites.atPlace _ (mem_map_of_mem rowRow)
  rw [if_pos rowKept] at lastAt
  rw [isKept_congr same, if_pos rowKept, addedUp_congr same] at againAt
  have places : ((ProfitRow.askedFor gross other ∘ Accounts.afterwards rows) row).position =
      row.position := (keepsOutlines_afterwards rows).position row
  refine againAt.trans (Eq.trans ?_ lastAt.symm)
  rw [places]
  refine report.withKeys_written_afterwards writes rowRow ?_ ?_
  · exact (sameAccounts_addedUp _ _).isGroup
  · exact length_values_addedUp _ _

end IsProfitReport

/-! ## What is reported -/

/-- A document as it is reported, beside the document and the row that it comes from. An account is
as it was. A group has the sums of the accounts that count in it, and nothing else of it has
changed. -/
structure IsReported (periods : List String) (gross : Bool) (rows : ProfitRows String Int)
    (reported : Value) (entry : Value × ProfitRow String Int) : Prop where
  sums : IsProfitRow periods gross reported (addedUp rows entry.2)
  account : entry.2.isGroup = false → reported = entry.1
  others : ∀ name ∉ periods ++ ["total"], reported.held name = entry.1.held name

namespace IsProfitReport

variable {periods : List String} {gross : Bool} {documents after : List Value}
  {rows : ProfitRows String Int} (report : IsProfitReport periods gross documents rows)

include report

theorem isReported (fresh : ∀ period ∈ periods, period ∉ rowFields) {row : ProfitRow String Int}
    (rowMem : row ∈ rows) :
    IsReported periods gross rows
      ((documents.getD row.position .null).withKeys (written periods (addedUp rows row)))
      (documents.getD row.position .null, row) := by
  have isRow := (report.exists_place rowMem).2
  have account (isAccount : row.isGroup = false) :
      (documents.getD row.position .null).withKeys (written periods (addedUp rows row)) =
        documents.getD row.position .null := by
    rw [addedUp_of_account isAccount, withKeys_written_of_account isRow isAccount]
  refine ⟨report.isProfitRow_addedUp fresh rowMem, account, fun name notWritten => ?_⟩
  cases isGroup : row.isGroup with
  | false => rw [account isGroup]
  | true =>
    apply isRow.isDict.held_withKeys_of_not_mem
    rwa [keys_written]
    · rw [(sameAccounts_addedUp rows row).isGroup, isGroup]
    · rw [length_values_addedUp, isRow.length_values]

theorem zip_eq :
    documents.zip rows = rows.map fun row => (documents.getD row.position .null, row) := by
  rw [map_prod_right_eq_zip, ← eq_map_getD report.places report.described.length_eq]

theorem forall₂_isReported (fresh : ∀ period ∈ periods, period ∉ rowFields)
    (writes : WritesSums periods rows documents after) :
    List.Forall₂ (IsReported periods gross rows)
      ((rows.filter (isKept rows)).map fun row => after.getD row.position .null)
      ((documents.zip rows).filter fun entry => isKept rows entry.2) := by
  rw [report.zip_eq, filter_map, forall₂_map_left_iff, forall₂_map_right_iff]
  simp only [Function.comp_def]
  rw [forall₂_same]
  intro row rowMem
  rcases mem_filter.mp rowMem with ⟨rowRow, kept⟩
  rw [writes.atPlace row rowRow, if_pos kept]
  exact report.isReported fresh rowRow

end IsProfitReport

/-- The accounts that count and the groups with one of them are reported in their order. Accounts
are reported as they are and groups with the sums of the accounts that count in them at any depth,
whatever the amounts are that can be added. The same holds of documents with whole numbers, and
there the report that is made next, on the same documents, is the one that would be made on those
from before. -/
theorem revenue_sums_counted_accounts {κ α : Type} [BEq κ] [LawfulBEq κ] [AddCommMonoid α] [BEq α]
    [LawfulBEq α] :
    (∀ (missing : κ → Fault) (rows : ProfitRows κ α) (count : Nat), IsReport count rows →
      revenue missing rows = .ok ((rows.filter (isKept rows)).map (addedUp rows)) ∧
      ∀ row ∈ rows, ∀ leaf, leaf ∈ leavesOf rows row ↔ leaf ∈ rows ∧ leaf.counts = true ∧
        Relation.ReflTransGen (ProfitRow.IsDirectlyIn rows) leaf row) ∧
    ∀ (periods : List String) (records documents : List Value) (gross : Bool)
      (rows : ProfitRows String Int), ArePeriods records periods →
      (∀ period ∈ periods, period ∉ rowFields) →
      IsProfitReport periods gross documents rows →
      ∃ reported after,
        revenueRows (.list documents) (.list records) (flag gross) =
          .ok (.list reported, .list after) ∧
        List.Forall₂ (IsReported periods gross rows) reported
          ((documents.zip rows).filter fun entry => isKept rows entry.2) ∧
        ∀ other, ∃ again last lastAgain,
          revenueRows (.list documents) (.list records) (flag other) = .ok (again, last) ∧
          revenueRows (.list after) (.list records) (flag other) = .ok (again, lastAgain) := by
  constructor
  · intro missing rows count report
    refine ⟨report.revenue_eq missing, fun row rowMem leaf => ?_⟩
    rw [mem_leavesOf]
    refine and_congr_right fun leafMem => and_congr_right fun _ => ?_
    exact report.toNested.mem_path_iff leafMem rowMem
  · intro periods records documents gross rows arePeriods fresh report
    rcases report.exists_revenueRows arePeriods with ⟨after, ran, writes⟩
    refine ⟨_, after, ran, report.forall₂_isReported fresh writes, fun other => ?_⟩
    exact report.exists_again fresh writes arePeriods other

/-- Of the income of a shop only what it gets for products counts, and so does the rent that it
gets outside of any group. -/
def shopRows : ProfitRows String Int :=
  [⟨0, "Income", "", true, true, true, [0, 0], 0⟩,
    ⟨1, "Sales", "Income", false, true, false, [7, 7], 14⟩,
    ⟨2, "Product", "Sales", false, false, true, [10, 20], 30⟩,
    ⟨3, "Service", "Sales", false, false, false, [1, 2], 3⟩,
    ⟨4, "Other", "Income", false, true, true, [0, 0], 0⟩,
    ⟨5, "Interest", "Other", false, false, false, [100, 200], 300⟩,
    ⟨6, "Rent", "", true, false, true, [5, 6], 11⟩]

def shopDocument (row : ProfitRow String Int) : Value :=
  .ofRecord [("account", .str row.account), ("parent_account", .str row.parent),
    ("is_group", flag row.isGroup), ("include_in_gross", flag row.isIncluded),
    ("jan", .int (row.values.getD 0 0)), ("feb", .int (row.values.getD 1 0)),
    ("total", .int row.total)]

def shopPeriods : List Value :=
  ["jan", "feb"].map fun period => .ofRecord [("key", .str period)]

theorem isReport_shopRows : IsReport 2 shopRows where
  distinct := by decide +kernel
  inGroup := by decide +kernel
  outside := by decide +kernel
  placed := by decide +kernel
  sameLength := by decide +kernel

theorem arePeriods_shopPeriods : ArePeriods shopPeriods ["jan", "feb"] := by
  rw [ArePeriods, shopPeriods, forall₂_map_left_iff, forall₂_same]
  intro period _
  have found : (Value.ofRecord [("key", .str period)]).field? "key" = some (.str period) :=
    Value.findEntry_fields "key" _
  rw [Value.field, found]

theorem isProfitRow_shopDocument {row : ProfitRow String Int} (rowMem : row ∈ shopRows) :
    IsProfitRow ["jan", "feb"] true (shopDocument row) row where
  isDict := ⟨_, _, rfl⟩
  account := Value.findEntry_fields "account" _
  parent := Value.findEntry_fields "parent_account" _
  isTop := by
    revert row
    decide +kernel
  isGroup := Value.findEntry_fields "is_group" _
  isIncluded := by
    rw [beq_true]
    exact Value.findEntry_fields "include_in_gross" _
  values := by
    have two : row.values = [row.values.getD 0 0, row.values.getD 1 0] := by
      revert row
      decide +kernel
    have jan : (shopDocument row).held "jan" = some (.int (row.values.getD 0 0)) :=
      Value.findEntry_fields "jan" _
    have feb : (shopDocument row).held "feb" = some (.int (row.values.getD 1 0)) :=
      Value.findEntry_fields "feb" _
    rw [two]
    simp [jan, feb]
  total := Value.findEntry_fields "total" _

theorem isProfitReport_shop :
    IsProfitReport ["jan", "feb"] true (shopRows.map shopDocument) shopRows where
  nested := isReport_shopRows.toNested
  places := by decide +kernel
  described := by
    rw [forall₂_map_left_iff, forall₂_same]
    exact fun row => isProfitRow_shopDocument

theorem map_total_of_isReported {periods : List String} {gross : Bool}
    {rows : ProfitRows String Int} {reported : List Value}
    {entries : List (Value × ProfitRow String Int)}
    (areReported : List.Forall₂ (IsReported periods gross rows) reported entries) :
    reported.map (Value.held "total") =
      entries.map fun entry => some (.int (addedUp rows entry.2).total) := by
  induction areReported with
  | nil => rfl
  | cons isReported _ ih => rw [map_cons, map_cons, ih, isReported.sums.total]

theorem revenue_sums_counted_accounts_of_shop :
    (revenue (Fault.missingKey ∘ Value.str) shopRows).map (List.map ProfitRow.total) =
      .ok [30, 30, 30, 11] ∧
    ∃ reported after,
      revenueRows (.list (shopRows.map shopDocument)) (.list shopPeriods) (flag true) =
        .ok (.list reported, .list after) ∧
      reported.map (Value.held "total") =
        [some (.int 30), some (.int 30), some (.int 30), some (.int 11)] ∧
      ∃ again last lastAgain,
        revenueRows (.list (shopRows.map shopDocument)) (.list shopPeriods) (flag false) =
          .ok (again, last) ∧
        revenueRows (.list after) (.list shopPeriods) (flag false) = .ok (again, lastAgain) := by
  have sums := @revenue_sums_counted_accounts String Int _ _ _ _ _
  constructor
  · have totals : ((shopRows.filter (isKept shopRows)).map (addedUp shopRows)).map
        ProfitRow.total = [30, 30, 30, 11] := by
      decide +kernel
    rw [(sums.1 _ shopRows 2 isReport_shopRows).1]
    exact congrArg Except.ok totals
  · obtain ⟨reported, after, ran, areReported, again⟩ := sums.2 ["jan", "feb"] shopPeriods
      (shopRows.map shopDocument) true shopRows arePeriods_shopPeriods (by decide +kernel)
      isProfitReport_shop
    refine ⟨reported, after, ran, ?_, again false⟩
    have totals : (((shopRows.map shopDocument).zip shopRows).filter fun entry =>
        isKept shopRows entry.2).map (fun entry => (addedUp shopRows entry.2).total) =
        [30, 30, 30, 11] := by
      decide +kernel
    have found := congrArg (List.map fun total : Int => some (Value.int total)) totals
    rw [List.map_map] at found
    exact (map_total_of_isReported areReported).trans found

end ErpLens.Accounts
