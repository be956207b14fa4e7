import ErpLens.Proofs.Fields
import ErpLens.Proofs.ProfitSums

/-!
# Profit reports

Reports hold the rows as dictionaries. Adding up is the same whatever names and amounts are written
as, so the sums found for whole numbers are those of the report.
-/

open List

namespace ErpLens.Accounts

variable {document : Value} {periods : List String} {row : ProfitRow String Int}

/-! ## Other names and amounts -/

section Map

variable {κ ν α β : Type} (name : κ → ν)

/-- A row with its names and amounts written in another way. -/
def ProfitRow.map (amount : α → β) (row : ProfitRow κ α) : ProfitRow ν β where
  position := row.position
  account := name row.account
  parent := name row.parent
  isTop := row.isTop
  isGroup := row.isGroup
  isIncluded := row.isIncluded
  values := row.values.map amount
  total := amount row.total

def Totals.map (amount : α → β) (totals : Totals κ α) : Totals ν β :=
  List.map (fun entry => (name entry.1, amount entry.2)) totals

def mapState (amount : α → β) (state : ProfitRows κ α × Totals κ α) :
    List (ProfitRow ν β) × Totals ν β :=
  (state.1.map (ProfitRow.map name amount), state.2.map name amount)

theorem replaceRow_map (amount : α → β) (rows : ProfitRows κ α) (new : ProfitRow κ α) :
    replaceRow (rows.map (ProfitRow.map name amount)) (new.map name amount) =
      (replaceRow rows new).map (ProfitRow.map name amount) := by
  rw [replaceRow, replaceRow, map_map, map_map]
  apply map_congr_left
  intro row _
  have position (row : ProfitRow κ α) : (row.map name amount).position = row.position := rfl
  simp only [Function.comp_apply, position]
  split <;> rfl

variable [BEq κ] [BEq ν] [Add α] [Zero α] [BEq α] [Add β] [Zero β] [BEq β]

/-- Names and amounts that are written differently, but compare and add up the same. -/
structure Rewriting (name : κ → ν) (amount : α → β) : Prop where
  same : ∀ a b, (name a == name b) = (a == b)
  add : ∀ a b, amount (a + b) = amount a + amount b
  zero : amount 0 = 0
  isZero : ∀ a, (amount a == 0) = (a == 0)

namespace Rewriting

variable {name : κ → ν} {amount : α → β} (rewriting : Rewriting name amount)

include rewriting

variable (rows : ProfitRows κ α)

theorem hasChild_map (row : ProfitRow κ α) :
    (row.map name amount).hasChild (rows.map (ProfitRow.map name amount)) = row.hasChild rows := by
  simp [ProfitRow.hasChild, ProfitRow.map, Function.comp_def, rewriting.same]

theorem dropIfEmpty_map (state : ProfitRows κ α × Bool) (row : ProfitRow κ α) :
    dropIfEmpty (state.1.map (ProfitRow.map name amount), state.2) (row.map name amount) =
      ((dropIfEmpty state row).1.map (ProfitRow.map name amount), (dropIfEmpty state row).2) := by
  have isGroup : (row.map name amount).isGroup = row.isGroup := rfl
  rw [dropIfEmpty, dropIfEmpty, isGroup, rewriting.hasChild_map]
  split
  · simp [filter_map, Function.comp_def, ProfitRow.map]
  · rfl

theorem dropEmptyGroups_map :
    dropEmptyGroups (rows.map (ProfitRow.map name amount)) =
      ((dropEmptyGroups rows).1.map (ProfitRow.map name amount), (dropEmptyGroups rows).2) := by
  suffices later : ∀ (todo : ProfitRows κ α) (state : ProfitRows κ α × Bool),
      (todo.map (ProfitRow.map name amount)).foldl dropIfEmpty
          (state.1.map (ProfitRow.map name amount), state.2) =
        ((todo.foldl dropIfEmpty state).1.map (ProfitRow.map name amount),
          (todo.foldl dropIfEmpty state).2) from
    later rows (rows, false)
  intro todo
  induction todo with
  | nil => exact fun _ => rfl
  | cons row rest ih =>
    intro state
    rw [map_cons, foldl_cons, rewriting.dropIfEmpty_map, ih, foldl_cons]

theorem dropAllEmptyGroups_map (fuel : Nat) (rows : ProfitRows κ α) :
    dropAllEmptyGroups fuel (rows.map (ProfitRow.map name amount)) =
      (dropAllEmptyGroups fuel rows).map (ProfitRow.map name amount) := by
  induction fuel generalizing rows with
  | zero => rfl
  | succ fuel ih =>
    rw [dropAllEmptyGroups, dropAllEmptyGroups, rewriting.dropEmptyGroups_map]
    rcases dropEmptyGroups rows with ⟨kept, _ | _⟩
    · rfl
    · exact ih kept

theorem add_map (totals : Totals κ α) (account : κ) (value : α) :
    (totals.map name amount).add (name account) (amount value) =
      (totals.add account value).map name amount := by
  induction totals with
  | nil => simp [Totals.map, Totals.add, rewriting.add, rewriting.zero]
  | cons entry rest ih =>
    rcases entry with ⟨key, total⟩
    have restarted : (if total == 0 then 0 else amount total) =
        amount (if total == 0 then 0 else total) := by
      cases total == 0 <;> simp [rewriting.zero]
    rw [Totals.map, map_cons, Totals.add, Totals.add, rewriting.same, rewriting.isZero,
      restarted, ← rewriting.add]
    cases key == account with
    | true => rfl
    | false => exact congrArg (List.cons _) ih

theorem find?_map (account : κ) :
    ((rows.map (ProfitRow.map name amount)).find? fun other => other.account == name account) =
      (rows.find? fun other => other.account == account).map (ProfitRow.map name amount) := by
  simp [List.find?_map, Function.comp_def, ProfitRow.map, rewriting.same]

theorem addUpwards_map (value : α) (fuel : Nat) (row : ProfitRow κ α) (totals : Totals κ α) :
    (totals.map name amount).addUpwards (rows.map (ProfitRow.map name amount)) (amount value) fuel
        (row.map name amount) =
      (totals.addUpwards rows value fuel row).map (Totals.map name amount) := by
  induction fuel generalizing row totals with
  | zero => rfl
  | succ fuel ih =>
    have account : (row.map name amount).account = name row.account := rfl
    have parent : (row.map name amount).parent = name row.parent := rfl
    have isTop : (row.map name amount).isTop = row.isTop := rfl
    rw [Totals.addUpwards, Totals.addUpwards, account, parent, isTop, rewriting.add_map,
      rewriting.find?_map]
    split
    · rfl
    · cases rows.find? fun other => other.account == row.parent with
      | none => rfl
      | some next => exact ih next _

theorem groupValues_map (group : ProfitRow κ α) :
    groupValues (rows.map (ProfitRow.map name amount)) (group.map name amount) =
      (groupValues rows group).map amount := by
  have sums (children : ProfitRows κ α) (start : List α) :
      (children.map (ProfitRow.map name amount)).foldl
          (fun sums row => List.zipWith (· + ·) sums row.values) (start.map amount) =
        (children.foldl (fun sums row => List.zipWith (· + ·) sums row.values) start).map
          amount := by
    induction children generalizing start with
    | nil => rfl
    | cons child rest ih =>
      have added : List.zipWith (· + ·) (start.map amount) (child.map name amount).values =
          (List.zipWith (· + ·) start child.values).map amount := by
        simp [ProfitRow.map, zipWith_map, map_zipWith, rewriting.add]
      rw [map_cons, foldl_cons, foldl_cons, added, ih]
  have children : (rows.map (ProfitRow.map name amount)).filter
      (fun row => row.parent == (group.map name amount).account) =
      (rows.filter fun row => row.parent == group.account).map (ProfitRow.map name amount) := by
    simp [filter_map, Function.comp_def, ProfitRow.map, rewriting.same]
  have start : ((group.map name amount).values.map fun _ => (0 : β)) =
      (group.values.map fun _ => (0 : α)).map amount := by
    simp [ProfitRow.map, Function.comp_def, rewriting.zero]
  rw [groupValues, children, start, sums]
  rfl

variable (missing : ν → Fault)

theorem takeTotal_map (rows : ProfitRows κ α) (totals : Totals κ α) (row : ProfitRow κ α) :
    takeTotal missing (rows.map (ProfitRow.map name amount)) (totals.map name amount)
        (row.map name amount) =
      (takeTotal (missing ∘ name) rows totals row).map (mapState name amount) := by
  have found : ((totals.map name amount).find? fun entry => entry.1 == name row.account) =
      (totals.find? fun entry => entry.1 == row.account).map fun entry =>
        (name entry.1, amount entry.2) := by
    simp [Totals.map, List.find?_map, rewriting.same]
  have account : (row.map name amount).account = name row.account := rfl
  rw [takeTotal, takeTotal, account, found]
  cases totals.find? fun entry => entry.1 == row.account with
  | none => rfl
  | some entry =>
    have replaced := replaceRow_map name amount rows { row with total := entry.2 }
    exact congrArg (fun rows => Except.ok (rows, totals.map name amount)) replaced

theorem adjustRow_map (state : ProfitRows κ α × Totals κ α) (place : ProfitRow κ α) :
    adjustRow missing (mapState name amount state) (place.map name amount) =
      (adjustRow (missing ∘ name) state place).map (mapState name amount) := by
  rcases state with ⟨rows, totals⟩
  have found : (((rows.map (ProfitRow.map name amount)).find? fun other =>
      other.position == (place.map name amount).position).getD (place.map name amount)) =
      ((rows.find? fun other => other.position == place.position).getD place).map name amount := by
    rw [List.find?_map, Option.getD_map]
    rfl
  simp only [adjustRow, mapState, found, length_map]
  generalize (rows.find? fun other => other.position == place.position).getD place = row
  have isGroup : (row.map name amount).isGroup = row.isGroup := rfl
  have total : (row.map name amount).total = amount row.total := rfl
  rw [isGroup, total, rewriting.addUpwards_map, rewriting.groupValues_map]
  split
  · exact rewriting.takeTotal_map missing rows totals { row with values := groupValues rows row }
  · cases totals.addUpwards rows row.total (rows.length + 1) row with
    | error fault => rfl
    | ok new => exact rewriting.takeTotal_map missing rows new row

theorem adjustTotals_map (rows : ProfitRows κ α) :
    adjustTotals missing (rows.map (ProfitRow.map name amount)) =
      (adjustTotals (missing ∘ name) rows).map (List.map (ProfitRow.map name amount)) := by
  have later (todo : ProfitRows κ α) (state : ProfitRows κ α × Totals κ α) :
      (todo.map (ProfitRow.map name amount)).foldlM (adjustRow missing)
          (mapState name amount state) =
        (todo.foldlM (adjustRow (missing ∘ name)) state).map (mapState name amount) := by
    induction todo generalizing state with
    | nil => rfl
    | cons row rest ih =>
      rw [map_cons, foldlM_cons, foldlM_cons, rewriting.adjustRow_map]
      cases adjustRow (missing ∘ name) state row with
      | error fault => rfl
      | ok new => exact ih new
  have ran := later rows.reverse (rows, [])
  rw [map_reverse] at ran
  rw [adjustTotals, adjustTotals]
  have start : mapState name amount (rows, []) = (rows.map (ProfitRow.map name amount), []) := rfl
  rw [← start, ran]
  cases rows.reverse.foldlM (adjustRow (missing ∘ name)) (rows, []) <;> rfl

/-- Adding up is the same however names and amounts are written. -/
theorem revenue_map (rows : ProfitRows κ α) :
    revenue missing (rows.map (ProfitRow.map name amount)) =
      (revenue (missing ∘ name) rows).map (List.map (ProfitRow.map name amount)) := by
  have chosen : (rows.map (ProfitRow.map name amount)).filter
      (fun row => row.isIncluded || row.isGroup) =
      (rows.filter fun row => row.isIncluded || row.isGroup).map (ProfitRow.map name amount) := by
    simp only [filter_map, Function.comp_def]
    rfl
  rw [revenue, revenue, chosen, length_map, rewriting.dropAllEmptyGroups_map,
    rewriting.adjustTotals_map]

end Rewriting

end Map

/-! ## Rows in reports -/

def flag (holds : Bool) : Value :=
  .int (if holds then 1 else 0)

/-- A document with the names, the values and the total of a row. Whether the row is included
depends on whether those that count towards gross profit are asked for, or the others. -/
structure IsProfitRow (periods : List String) (gross : Bool) (document : Value)
    (row : ProfitRow String Int) : Prop where
  isDict : document.IsDict
  account : document.held "account" = some (.str row.account)
  parent : document.held "parent_account" = some (.str row.parent)
  isTop : row.isTop = (row.parent == "")
  isGroup : document.held "is_group" = some (flag row.isGroup)
  isIncluded : document.held "include_in_gross" = some (flag (row.isIncluded == gross))
  values : periods.map document.held = row.values.map fun value => some (.int value)
  total : document.held "total" = some (.int row.total)

theorem rewriting_str_int : Rewriting Value.str Num.int where
  same := Value.same_str
  add := fun _ _ => rfl
  zero := rfl
  isZero := fun a => by
    have compared : (Num.int a == 0) = (some (compare a 0) == some .eq) := rfl
    rw [compared, Bool.eq_iff_iff]
    simp

theorem truth_flag (holds : Bool) : (flag holds).truth = holds := by
  cases holds <;> rfl

theorem flag_beq_flag (first second : Bool) : (flag first == flag second) = (first == second) := by
  have compared : (flag first == flag second) = Value.same (flag first) (flag second) := rfl
  rw [compared, flag, flag, Value.same_int]
  cases first <;> cases second <;> rfl

namespace IsProfitRow

variable {periods : List String} {gross : Bool} {document : Value} {row : ProfitRow String Int}
  (isRow : IsProfitRow periods gross document row)

include isRow

theorem length_values :
    row.values.length = periods.length := by
  simpa using (congrArg List.length isRow.values).symm

theorem mapM_periodValue :
    (periods.map Value.str).mapM (periodValue document row.isGroup) =
      .ok (row.values.map Num.int) := by
  have read {period : String} {value : Int} (found : document.held period = some (.int value)) :
      periodValue document row.isGroup (.str period) = .ok (.int value) := by
    have item : document.item (.str period) = .ok (.int value) :=
      isRow.isDict.key_eq_ok_iff.mpr found
    have getD : document.getD (.str period) (.int 0) = .ok (.int value) := by
      rcases isRow.isDict with ⟨kind, entries, rfl⟩
      rw [Value.held] at found
      rw [Value.getD, found]
      rfl
    cases isGroup : row.isGroup with
    | true => rw [periodValue, if_pos rfl, getD]; rfl
    | false => rw [periodValue, if_neg (by simp), item]; rfl
  have values := isRow.values
  generalize row.values = amounts at values
  clear isRow
  induction periods generalizing amounts with
  | nil =>
    obtain rfl : amounts = [] := by simpa using values.symm
    rfl
  | cons period rest ih =>
    rcases amounts with _ | ⟨amount, others⟩
    · simp at values
    · rw [map_cons, map_cons, List.cons.injEq] at values
      rw [map_cons, mapM_cons, read values.1, ok_bind, ih others values.2]
      rfl

theorem profitRow_eq :
    profitRow (periods.map Value.str) (flag gross) document row.position =
      .ok (row.map Value.str Num.int) := by
  have gets {name : String} {value : Value} (found : document.held name = some value) :
      document.get name = .ok value := by
    rw [isRow.isDict.get, found]
    rfl
  have total : (((Value.int row.total).orElse (.int 0)).number) = .ok (.int row.total) := by
    by_cases zero : row.total = 0
    · rw [zero]
      rfl
    · simp [Value.orElse, Value.truth, zero, Value.number, Value.num?]
  have isTop : (Value.str row.parent == Value.str "") = row.isTop := by
    rw [isRow.isTop]
    exact Value.same_str row.parent ""
  have isIncluded : (flag (row.isIncluded == gross) == flag gross) = row.isIncluded := by
    rw [flag_beq_flag]
    cases row.isIncluded <;> cases gross <;> rfl
  rw [profitRow, gets isRow.isGroup, ok_bind, truth_flag]
  dsimp only
  rw [isRow.mapM_periodValue, ok_bind, gets isRow.parent, ok_bind, gets isRow.account, ok_bind,
    gets isRow.isIncluded, ok_bind, gets isRow.total, ok_bind, total, ok_bind, isTop, isIncluded]
  rfl

end IsProfitRow

/-- The fields that a report writes to a row. -/
def written (periods : List String) (row : ProfitRow String Int) : Fields :=
  ((if row.isGroup then periods.zip row.values else []) ++ [("total", row.total)]).map
    fun field => (field.1, .int field.2)

theorem writeTo_eq (isDict : document.IsDict) (periods : List String) (row : ProfitRow String Int) :
    (row.map Value.str Num.int).writeTo (periods.map Value.str) document =
      .ok (document.withKeys (written periods row)) := by
  have zipped : (periods.map Value.str).zip (row.values.map Num.int) =
      (periods.zip row.values).map fun field => (.str field.1, .int field.2) := by
    rw [zip_map]
    rfl
  have fields : (if (row.map Value.str Num.int).isGroup then
      (periods.map Value.str).zip (row.map Value.str Num.int).values else []) ++
        [(Value.str "total", (row.map Value.str Num.int).total)] =
      ((if row.isGroup then periods.zip row.values else []) ++ [("total", row.total)]).map
        fun field => (.str field.1, .int field.2) := by
    cases isGroup : row.isGroup <;> simp [ProfitRow.map, isGroup, zipped]
  have wrote := isDict.foldlM_setItem (written periods row)
  rw [written, foldlM_map] at wrote
  simp only [ProfitRow.writeTo, fields, foldlM_map]
  exact wrote

theorem keys_written (isGroup : row.isGroup = true)
    (sameLength : row.values.length = periods.length) :
    (written periods row).map Prod.fst = periods ++ ["total"] := by
  simp [written, isGroup, map_fst_zip, sameLength, Function.comp_def]

theorem withKeys_written_of_account {gross : Bool} (isRow : IsProfitRow periods gross document row)
    (isAccount : row.isGroup = false) : document.withKeys (written periods row) = document := by
  have onlyTotal : written periods row = [("total", .int row.total)] := by
    simp [written, isAccount]
  rw [onlyTotal]
  exact isRow.isDict.withKeys_of_held isRow.total

/-! ## Writing a report -/

theorem exists_writeRows {documents : List Value} {rows : ProfitRows String Int}
    (placed : (rows.map ProfitRow.position).Nodup)
    (areDicts : ∀ row ∈ rows, row.position < documents.length ∧
      (documents.getD row.position .null).IsDict) :
    ∃ after, writeRows (periods.map Value.str) documents
        (rows.map (ProfitRow.map Value.str Num.int)) = .ok after ∧
      after.length = documents.length ∧
      (∀ row ∈ rows, after.getD row.position .null =
        (documents.getD row.position .null).withKeys (written periods row)) ∧
      ∀ place, place ∉ rows.map ProfitRow.position →
        after.getD place .null = documents.getD place .null := by
  induction rows generalizing documents with
  | nil => exact ⟨documents, rfl, rfl, by simp, by simp⟩
  | cons row rest ih =>
    rw [map_cons, nodup_cons] at placed
    rw [forall_mem_cons] at areDicts
    rcases areDicts with ⟨⟨inside, isDict⟩, areDicts⟩
    let changed := (documents.getD row.position .null).withKeys (written periods row)
    have others {place : Nat} (different : place ≠ row.position) :
        (documents.set row.position changed).getD place .null = documents.getD place .null := by
      simp [getElem?_set_ne (Ne.symm different)]
    have apart : ∀ other ∈ rest, other.position ≠ row.position := by
      intro other otherMem same
      exact placed.1 (mem_map.mpr ⟨other, otherMem, same⟩)
    obtain ⟨after, wrote, length, changes, keeps⟩ :=
      @ih (documents.set row.position changed) placed.2 (by
        intro other otherMem
        rw [others (apart other otherMem), length_set]
        exact areDicts other otherMem)
    rw [length_set] at length
    refine ⟨after, ?_, length, ?_, ?_⟩
    · have position : (row.map Value.str Num.int).position = row.position := rfl
      rw [writeRows, map_cons, foldlM_cons, position, writeTo_eq isDict, ok_bind]
      exact wrote
    · rw [forall_mem_cons]
      refine ⟨?_, fun other otherMem => ?_⟩
      · rw [keeps row.position placed.1]
        simp [changed, inside]
      · rw [changes other otherMem, others (apart other otherMem)]
    · intro place notPlace
      rw [map_cons, mem_cons, not_or] at notPlace
      rw [keeps place notPlace.2, others notPlace.1]

/-! ## Reports of documents -/

/-- Documents that hold nested rows, each at its place. -/
structure IsProfitReport (periods : List String) (gross : Bool) (documents : List Value)
    (rows : ProfitRows String Int) : Prop where
  nested : Nested rows
  places : rows.map ProfitRow.position = List.range rows.length
  described : List.Forall₂ (IsProfitRow periods gross) documents rows

/-- The documents after a report: those of rows that stay have the sums written to them. -/
structure WritesSums (periods : List String) (rows : ProfitRows String Int)
    (documents after : List Value) : Prop where
  length : after.length = documents.length
  atPlace : ∀ row ∈ rows, after.getD row.position .null = if isKept rows row then
    (documents.getD row.position .null).withKeys (written periods (addedUp rows row))
    else documents.getD row.position .null

/-- Records of periods have these keys. -/
def ArePeriods (records : List Value) (periods : List String) : Prop :=
  List.Forall₂ (fun record period => record.field "key" = .ok (.str period)) records periods

theorem ArePeriods.periodKeysOf_eq {records : List Value}
    (arePeriods : ArePeriods records periods) :
    periodKeysOf (.list records) = .ok (periods.map Value.str) := by
  rw [periodKeysOf, Value.items, ok_bind]
  induction arePeriods with
  | nil => rfl
  | cons named _ ih =>
    rw [mapM_cons, named, ok_bind, ih]
    rfl

namespace IsProfitReport

variable {periods : List String} {gross : Bool} {documents : List Value}
  {rows : ProfitRows String Int} (report : IsProfitReport periods gross documents rows)

include report

theorem exists_place {row : ProfitRow String Int} (rowMem : row ∈ rows) :
    row.position < documents.length ∧
      IsProfitRow periods gross (documents.getD row.position .null) row := by
  rcases getElem_of_mem rowMem with ⟨place, inside, rfl⟩
  have position : rows[place].position = place := by
    have atPlace := congrArg (fun places : List Nat => places[place]?) report.places
    simpa [inside] using atPlace
  have sameLength := report.described.length_eq
  have inDocuments : place < documents.length := by omega
  rw [position]
  refine ⟨inDocuments, ?_⟩
  have isRow := (forall₂_iff_get.mp report.described).2 place inDocuments inside
  simpa [inDocuments] using isRow

theorem isReport : IsReport periods.length rows where
  toNested := report.nested
  placed := by
    rw [report.places]
    exact nodup_range
  sameLength := fun row rowMem => (report.exists_place rowMem).2.length_values

theorem mapM_profitRow : documents.zipIdx.mapM (fun entry =>
      profitRow (periods.map Value.str) (flag gross) entry.1 entry.2) =
      .ok (rows.map (ProfitRow.map Value.str Num.int)) := by
  have places := report.places
  rw [range_eq_range'] at places
  generalize 0 = start at places ⊢
  have described := report.described
  clear report
  induction described generalizing start with
  | nil => rfl
  | @cons document row documents rows isRow _ ih =>
    rw [map_cons, length_cons, range'_succ, List.cons.injEq] at places
    rw [zipIdx_cons, mapM_cons, ← places.1, isRow.profitRow_eq, ok_bind, places.1, ih _ places.2]
    rfl

theorem exists_row {document : Value} (documentMem : document ∈ documents) :
    ∃ row, IsProfitRow periods gross document row := by
  rcases getElem_of_mem documentMem with ⟨place, inside, rfl⟩
  have inRows : place < rows.length := by
    have sameLength := report.described.length_eq
    omega
  exact ⟨_, (forall₂_iff_get.mp report.described).2 place inside inRows⟩

theorem exists_writeRows : ∃ after, writeRows (periods.map Value.str) documents
        (((rows.filter (isKept rows)).map (addedUp rows)).map (ProfitRow.map Value.str Num.int)) =
          .ok after ∧
      WritesSums periods rows documents after := by
  have positions : ((rows.filter (isKept rows)).map (addedUp rows)).map ProfitRow.position =
      (rows.filter (isKept rows)).map ProfitRow.position := by
    simp
  have placed := report.isReport.kept.placed
  rw [← positions] at placed
  have areDicts : ∀ new ∈ (rows.filter (isKept rows)).map (addedUp rows),
      new.position < documents.length ∧ (documents.getD new.position .null).IsDict := by
    intro new newMem
    rcases mem_map.mp newMem with ⟨row, rowMem, rfl⟩
    rcases report.exists_place (mem_of_mem_filter rowMem) with ⟨inside, isRow⟩
    rw [position_addedUp]
    exact ⟨inside, isRow.isDict⟩
  rcases @Accounts.exists_writeRows periods _ _ placed areDicts with
    ⟨after, wrote, length, changes, keeps⟩
  refine ⟨after, wrote, length, fun row rowMem => ?_⟩
  cases kept : isKept rows row with
  | true =>
    have rowKept : row ∈ rows.filter (isKept rows) := mem_filter.mpr ⟨rowMem, kept⟩
    have change := changes _ (mem_map_of_mem rowKept)
    rwa [position_addedUp] at change
  | false =>
    refine keeps row.position ?_
    rw [positions, mem_map]
    rintro ⟨other, otherMem, same⟩
    rw [mem_filter] at otherMem
    obtain rfl := inj_on_of_nodup_map report.isReport.placed otherMem.1 rowMem same
    simp [kept] at otherMem

theorem exists_revenueRows {records : List Value} (arePeriods : ArePeriods records periods) :
    ∃ after, revenueRows (.list documents) (.list records) (flag gross) =
        .ok (.list ((rows.filter (isKept rows)).map fun row => after.getD row.position .null),
          .list after) ∧
      WritesSums periods rows documents after := by
  have given : (flag gross == Value.null) = false := by
    have compared : (flag gross == Value.null) = Value.same (flag gross) .null := rfl
    rw [compared, flag]
    simp [Value.same, Value.num?]
  have found := rewriting_str_int.revenue_map .missingKey rows
  rw [report.isReport.revenue_eq] at found
  rcases report.exists_writeRows with ⟨after, wrote, changed⟩
  refine ⟨after, ?_, changed⟩
  rw [revenueRows, Value.items, ok_bind, arePeriods.periodKeysOf_eq, ok_bind, given]
  simp only [Bool.false_eq_true, if_false]
  rw [forIn_eq_ok, ok_bind, report.mapM_profitRow, ok_bind, found]
  · simp only [Except.map, ok_bind]
    rw [wrote, ok_bind, map_map, map_map]
    have places (row : ProfitRow String Int) :
        ((addedUp rows row).map Value.str Num.int).position = row.position :=
      position_addedUp rows row
    simp only [Function.comp_def, places]
    rfl
  · intro document documentMem
    rcases report.exists_row documentMem with ⟨row, isRow⟩
    rw [isRow.isDict.key_eq_ok_iff.mpr isRow.isIncluded, ok_bind,
      isRow.isDict.key_eq_ok_iff.mpr isRow.isGroup]
    split <;> rfl

end IsProfitReport

/-! ## What a report holds afterwards -/

/-- The fields of rows besides those of periods. -/
def rowFields : List String :=
  ["account", "parent_account", "is_group", "include_in_gross", "total"]

/-- Values that belong to the keys of periods. -/
def ByPeriod (periods : List String) (values : List Int) : Prop :=
  ∃ amount : String → Int, values = periods.map amount

def wholeOf : Option Value → Int
  | some (.int value) => value
  | _ => 0

theorem IsProfitRow.byPeriod {gross : Bool} (isRow : IsProfitRow periods gross document row) :
    ByPeriod periods row.values := by
  refine ⟨fun period => wholeOf (document.held period), ?_⟩
  have wholes := congrArg (List.map wholeOf) isRow.values
  rw [map_map, map_map] at wholes
  have unchanged : row.values.map (wholeOf ∘ fun value => some (.int value)) = row.values :=
    map_id _
  exact unchanged.symm.trans wholes.symm

theorem byPeriod_columnSums {leaves : ProfitRows String Int}
    (each : ∀ leaf ∈ leaves, ByPeriod periods leaf.values) :
    ByPeriod periods (columnSums periods.length leaves) := by
  induction leaves with
  | nil => exact ⟨fun _ => 0, by simp [columnSums]⟩
  | cons leaf rest ih =>
    rw [forall_mem_cons] at each
    rcases each.1 with ⟨first, firstEq⟩
    rcases ih each.2 with ⟨others, othersEq⟩
    refine ⟨fun period => first period + others period, ?_⟩
    apply ext_getElem
    · simp [columnSums]
    · intro place _ inside
      rw [length_map] at inside
      have later := congrArg (fun values => values.getD place 0) othersEq
      simp only [columnSums, getD_eq_getElem?_getD, getElem?_map, getElem?_range inside,
        getElem?_eq_getElem inside, Option.map_some, Option.getD_some] at later
      simp [columnSums, firstEq, inside, later]

theorem written_of_group (isGroup : row.isGroup = true) {amount : String → Int}
    (values : row.values = periods.map amount) :
    written periods row = (periods.map fun period => (period, .int (amount period))) ++
      [("total", .int row.total)] := by
  have zipped : periods.zip (periods.map amount) = periods.map fun period =>
      (period, amount period) := map_prod_left_eq_zip.symm
  simp [written, isGroup, values, zipped, Function.comp_def]

theorem IsProfitRow.write {gross : Bool} {new : ProfitRow String Int}
    (isRow : IsProfitRow periods gross document row)
    (fresh : ∀ period ∈ periods, period ∉ rowFields) (isGroup : row.isGroup = true)
    (same : new = { row with values := new.values, total := new.total })
    (byPeriod : ByPeriod periods new.values) :
    IsProfitRow periods gross (document.withKeys (written periods new)) new := by
  rcases byPeriod with ⟨amount, values⟩
  have newGroup : new.isGroup = true := by
    rw [same]
    exact isGroup
  have fields := written_of_group newGroup values
  -- None of the other fields is written.
  have others {name : String} (isField : name ∈ rowFields) (notTotal : name ≠ "total") :
      (document.withKeys (written periods new)).held name = document.held name := by
    apply isRow.isDict.held_withKeys_of_not_mem
    simp only [fields, map_append, map_map, mem_append, mem_map]
    rintro (⟨period, periodMem, rfl⟩ | ⟨field, fieldMem, rfl⟩)
    · exact fresh period periodMem isField
    · rw [mem_singleton] at fieldMem
      exact notTotal (congrArg Prod.fst fieldMem)
  have isTotal : "total" ∈ rowFields := by decide
  have unique : ∀ field ∈ written periods new, ∀ other ∈ written periods new,
      other.1 = field.1 → other = field := by
    simp only [fields, mem_append, mem_map, mem_singleton]
    rintro _ (⟨period, periodMem, rfl⟩ | rfl) _ (⟨other, otherMem, rfl⟩ | rfl) sameName
    · obtain rfl : other = period := sameName
      rfl
    · obtain rfl : "total" = period := sameName
      exact (fresh _ periodMem isTotal).elim
    · obtain rfl : other = "total" := sameName
      exact (fresh _ otherMem isTotal).elim
    · rfl
  have found {field : String × Value} (fieldMem : field ∈ written periods new) :
      (document.withKeys (written periods new)).held field.1 = some field.2 :=
    isRow.isDict.held_withKeys_of_mem fieldMem (unique field fieldMem)
  rw [fields] at found
  constructor
  case isDict => exact isRow.isDict.withKeys _
  case total =>
    rw [fields]
    exact @found ("total", .int new.total) (by simp)
  case values =>
    rw [values, map_map, fields]
    apply map_congr_left
    intro period periodMem
    exact @found (period, .int (amount period)) (by simp [periodMem])
  case isTop =>
    rw [same]
    exact isRow.isTop
  all_goals
    rw [others (by decide) (by decide), same]
  case account => exact isRow.account
  case parent => exact isRow.parent
  case isGroup => exact isRow.isGroup
  case isIncluded => exact isRow.isIncluded

end ErpLens.Accounts
