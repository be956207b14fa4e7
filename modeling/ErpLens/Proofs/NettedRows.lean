import ErpLens.Proofs.BalancedTotals
import ErpLens.Proofs.RolledUpAccounts

/-!
# Netting rows before and after adding them up

What netting leaves depends on nothing but the side and the difference. So a group whose rows are
netted, added up and netted again comes out as if only the sum had been netted.
-/

open List

namespace ErpLens.Accounts

/-! ## Netting a pair -/

section Pairs

variable {α : Type} [ExactAmount α]

theorem net_congr {side other side' other' : α} (same : side - other = side' - other') :
    net side other = net side' other' := by
  simp only [net, same]

theorem netPair_congr {debit credit debit' credit' : α}
    (same : debit - credit = debit' - credit') (onDebit : Bool) :
    netPair onDebit debit credit = netPair onDebit debit' credit' := by
  have opposite : credit - debit = credit' - debit' := by
    simpa using congrArg Neg.neg same
  cases onDebit with
  | true => exact net_congr same
  | false => simp [netPair, net_congr opposite]

/-- No amount is negative, and one of them is nought. -/
def OneSided (debit credit : α) : Prop :=
  0 ≤ debit ∧ 0 ≤ credit ∧ (debit = 0 ∨ credit = 0)

theorem OneSided.symm {debit credit : α} (oneSided : OneSided debit credit) :
    OneSided credit debit :=
  ⟨oneSided.2.1, oneSided.1, oneSided.2.2.symm⟩

variable [IsOrderedAddMonoid α]

theorem oneSided_net (side other : α) : OneSided (net side other).1 (net side other).2 := by
  simp only [net, nil_eq_zero]
  split
  · rename_i below
    exact ⟨le_refl 0, neg_nonneg.mpr below.le, .inl rfl⟩
  · rename_i notBelow
    exact ⟨not_lt.mp notBelow, le_refl 0, .inr rfl⟩

theorem oneSided_netPair (onDebit : Bool) (debit credit : α) :
    OneSided (netPair onDebit debit credit).1 (netPair onDebit debit credit).2 := by
  cases onDebit with
  | true => exact oneSided_net debit credit
  | false => exact (oneSided_net credit debit).symm

end Pairs

/-! ## Netting amounts -/

namespace Amounts

section Exact

variable {α : Type} [ExactAmount α]

/-- Amounts that are the same but for what they have on both sides. -/
structure SameNet (left right : Amounts α) : Prop where
  opening : left.opening = right.opening
  debit : left.debit = right.debit
  credit : left.credit = right.credit
  closing : left.closing = right.closing

theorem SameNet.refl (amounts : Amounts α) : SameNet amounts amounts :=
  ⟨rfl, rfl, rfl, rfl⟩

theorem sameNet_net (onDebit : Bool) (amounts : Amounts α) :
    SameNet (amounts.net onDebit) amounts :=
  ⟨opening_net onDebit amounts, rfl, rfl, closing_net onDebit amounts⟩

theorem SameNet.add {left right otherLeft otherRight : Amounts α} (same : SameNet left right)
    (sameOther : SameNet otherLeft otherRight) :
    SameNet (left + otherLeft) (right + otherRight) where
  opening := by rw [opening_add, opening_add, same.opening, sameOther.opening]
  debit := congrArg₂ (· + ·) same.debit sameOther.debit
  credit := congrArg₂ (· + ·) same.credit sameOther.credit
  closing := by rw [closing_add, closing_add, same.closing, sameOther.closing]

theorem SameNet.net_eq {left right : Amounts α} (same : SameNet left right) (onDebit : Bool) :
    left.net onDebit = right.net onDebit := by
  simp only [Amounts.net, netPair_congr same.opening, netPair_congr same.closing, same.debit,
    same.credit]

theorem net_net (onDebit : Bool) (amounts : Amounts α) :
    (amounts.net onDebit).net onDebit = amounts.net onDebit :=
  (sameNet_net onDebit amounts).net_eq onDebit

/-- Amounts with nothing on one side of what was open and of what is left. -/
structure Netted (amounts : Amounts α) : Prop where
  opening : OneSided amounts.openingDebit amounts.openingCredit
  closing : OneSided amounts.closingDebit amounts.closingCredit

theorem netted_net [IsOrderedAddMonoid α] (onDebit : Bool) (amounts : Amounts α) :
    (amounts.net onDebit).Netted :=
  ⟨oneSided_netPair onDebit _ _, oneSided_netPair onDebit _ _⟩

end Exact

section Fields

variable {α : Type} [FieldAmount α] (amounts : Amounts α)

def nettedFields : Fields :=
  [("opening_debit", FieldAmount.toValue amounts.openingDebit),
    ("opening_credit", FieldAmount.toValue amounts.openingCredit),
    ("closing_debit", FieldAmount.toValue amounts.closingDebit),
    ("closing_credit", FieldAmount.toValue amounts.closingCredit)]

/-- The amount in a field. -/
def amount : String → α
  | "opening_debit" => amounts.openingDebit
  | "opening_credit" => amounts.openingCredit
  | "debit" => amounts.debit
  | "credit" => amounts.credit
  | "closing_debit" => amounts.closingDebit
  | "closing_credit" => amounts.closingCredit
  | _ => Amount.nil

theorem fields_eq : amounts.fields =
    balanceFields.map fun name => (name, FieldAmount.toValue (amounts.amount name)) :=
  rfl

theorem names_fields : amounts.fields.map Prod.fst = balanceFields :=
  rfl

end Fields

end Amounts

/-! ## Netting rows -/

/-- A row of a trial balance: a dictionary with the root type of its account and exact amounts. -/
structure TrialRow (α : Type) [ExactAmount α] where
  row : Value
  rootType : Value
  amounts : Amounts α
  isDict : row.IsDict
  typed : row.held "root_type" = some rootType
  booked : ∀ field ∈ amounts.fields, row.held field.1 = some field.2

namespace TrialRow

variable {α : Type} [ExactAmount α] (trial : TrialRow α)

theorem held {name : String} (isField : name ∈ balanceFields) :
    trial.row.held name = some (FieldAmount.toValue (trial.amounts.amount name)) := by
  apply trial.booked (name, _)
  rw [Amounts.fields_eq]
  exact mem_map.mpr ⟨name, isField, rfl⟩

theorem withKeys_fields : trial.row.withKeys trial.amounts.fields = trial.row :=
  trial.isDict.withKeys_of_forall_held trial.booked

theorem amountsOf_row : amountsOf trial.row = .ok trial.amounts := by
  apply amountsOf_eq
  intro field fieldMem
  exact trial.isDict.key_eq_ok_iff.mpr (trial.booked field fieldMem)

/-- A row with other amounts. -/
def withAmounts (amounts : Amounts α) : TrialRow α where
  row := trial.row.withKeys amounts.fields
  rootType := trial.rootType
  amounts := amounts
  isDict := trial.isDict.withKeys _
  typed := by
    rw [trial.isDict.held_withKeys_of_not_mem, trial.typed]
    simp [Amounts.names_fields, balanceFields]
  booked := by
    intro field fieldMem
    apply trial.isDict.held_withKeys_of_mem fieldMem
    intro other otherMem sameName
    rw [Amounts.fields_eq] at fieldMem otherMem
    rcases mem_map.mp fieldMem with ⟨name, -, rfl⟩
    rcases mem_map.mp otherMem with ⟨otherName, -, rfl⟩
    cases sameName
    rfl

theorem withAmounts_withAmounts (first second : Amounts α) :
    ((trial.withAmounts first).withAmounts second).row = (trial.withAmounts second).row :=
  trial.isDict.withKeys_withKeys rfl

/-- A row after netting. -/
def netted : TrialRow α :=
  trial.withAmounts (trial.amounts.net (isOnDebit trial.rootType))

theorem row_netted : trial.netted.row =
    trial.row.withKeys (trial.amounts.net (isOnDebit trial.rootType)).nettedFields := by
  let amounts := trial.amounts.net (isOnDebit trial.rootType)
  let openings := amounts.nettedFields.take 2
  let closings := amounts.nettedFields.drop 2
  let booked := [("debit", FieldAmount.toValue amounts.debit),
    ("credit", FieldAmount.toValue amounts.credit)]
  have opened := trial.isDict.withKeys openings
  have bookedStays : (trial.row.withKeys openings).withKeys booked =
      trial.row.withKeys openings := by
    apply opened.withKeys_of_forall_held
    simp only [booked, forall_mem_cons]
    refine ⟨?_, ?_, by simp⟩
    all_goals
      rw [trial.isDict.held_withKeys_of_not_mem (by simp [openings, Amounts.nettedFields])]
      exact trial.held (by simp [balanceFields])
  calc trial.row.withKeys (openings ++ booked ++ closings)
      = ((trial.row.withKeys openings).withKeys booked).withKeys closings := by
        rw [trial.isDict.withKeys_append, trial.isDict.withKeys_append]
    _ = (trial.row.withKeys openings).withKeys closings := by rw [bookedStays]
    _ = trial.row.withKeys (openings ++ closings) := (trial.isDict.withKeys_append _ _).symm

theorem netRowWith_row : netRowWith α trial.row = .ok trial.netted.row := by
  have typeRead := trial.isDict.key_eq_ok_iff.mpr trial.typed
  have amountRead : ∀ name ∈ balanceFields,
      amountAt trial.row name = .ok (trial.amounts.amount name) := by
    intro name isField
    simp only [amountAt, trial.isDict.key_eq_ok_iff.mpr (trial.held isField), ok_bind,
      ExactAmount.ofValue_toValue]
  simp only [balanceFields, forall_mem_cons] at amountRead
  rcases amountRead with ⟨openingDebit, openingCredit, -, -, closingDebit, closingCredit, -⟩
  rw [row_netted, ← trial.isDict.foldlM_setItem]
  simp only [netRowWith, typeRead, ok_bind, openingDebit, openingCredit, closingDebit,
    closingCredit]
  rfl

/-- Rows with the same fields but for their amounts, which differ in nothing that netting leaves,
are the same when netted. -/
theorem netted_withAmounts_congr {left right : Amounts α} (same : left.SameNet right) :
    (trial.withAmounts left).netted.row = (trial.withAmounts right).netted.row := by
  have sameAmounts := same.net_eq (isOnDebit trial.rootType)
  rw [netted, netted, withAmounts_withAmounts, withAmounts_withAmounts]
  exact congrArg (fun amounts => (trial.withAmounts amounts).row) sameAmounts

theorem netted_netted : trial.netted.netted.row = trial.netted.row := by
  rw [netted, netted, withAmounts_withAmounts]
  exact congrArg (fun amounts => (trial.withAmounts amounts).row) (Amounts.net_net _ _)

end TrialRow

/-! ## Adding netted rows -/

/-- A row below a given parent. -/
structure ChildRow (α : Type) [ExactAmount α] (parent : String) extends TrialRow α where
  isRecord : ∃ entries, row = .dict .record entries
  below : row.held "parent_account" = some (.str parent)

namespace ChildRow

variable {α : Type} [ExactAmount α] {parent : String} (child : ChildRow α parent)

theorem field?_parent : child.row.field? "parent_account" = some (.str parent) := by
  rcases child.isRecord with ⟨entries, isRecord⟩
  have below := child.below
  rw [isRecord] at below ⊢
  exact below

theorem parentAccount_row (named : parent ≠ "") :
    parentAccount child.row = some (.str parent) := by
  simp [parentAccount, child.field?_parent, Value.truth, named]

def netted : ChildRow α parent where
  toTrialRow := child.toTrialRow.netted
  isRecord := by
    rcases child.isRecord with ⟨entries, isRecord⟩
    simp only [TrialRow.netted, TrialRow.withAmounts, isRecord]
    exact ⟨_, rfl⟩
  below := by
    rw [← child.below]
    apply child.isDict.held_withKeys_of_not_mem
    simp [Amounts.names_fields, balanceFields]

end ChildRow

section Adding

variable {α : Type} [ExactAmount α] {adding : Adding} {name : String}

/-- Amounts with those of several rows added. -/
def totalOf (amounts : Amounts α) (children : List (ChildRow α name)) : Amounts α :=
  children.foldl (fun total child => total + child.amounts) amounts

theorem sameNet_totalOf_netted {left right : Amounts α} (same : left.SameNet right)
    (children : List (ChildRow α name)) :
    (totalOf left (children.map ChildRow.netted)).SameNet (totalOf right children) := by
  induction children generalizing left right with
  | nil => exact same
  | cons child rest ih => exact ih (same.add (Amounts.sameNet_net _ _))

/-- Adding up the balances of rows whose parents are in another table. -/
def balanceRollUp (adding : Adding) : RollUp where
  sharing := .apart
  parent := parentAccount
  changes row := balanceFields.map fun field => adding.add Value.item (.str field) row

theorem rollUpFieldsWith_eq_run (adding : Adding) (rows table : Value) :
    rollUpFieldsWith adding .apart balanceFields rows table =
      (balanceRollUp adding).run rows table :=
  rfl

variable (exact : adding.Exact (FieldAmount.toValue : α → Value))

include exact

theorem changeUntilFault_row (trial target : TrialRow α) :
    changeUntilFault ((balanceRollUp adding).changes trial.row) target.row =
      ((target.withAmounts (target.amounts + trial.amounts)).row, none) := by
  have itemRead (trial : TrialRow α) (field : String) (isField : field ∈ balanceFields) :
      trial.row.item (.str field) = .ok (FieldAmount.toValue (trial.amounts.amount field)) :=
    trial.isDict.key_eq_ok_iff.mpr (trial.held isField)
  exact changeUntilFault_add exact readsKeys_item (by decide) target.isDict (itemRead trial)
    (itemRead target)

/-- A parent gets the amounts of its rows. -/
theorem addAll_children (named : name ≠ "") (children : List (ChildRow α name))
    (parent : TrialRow α) {entries : Entries}
    (found : Value.findEntry (.str name) entries = some parent.row) :
    (balanceRollUp adding).addAll (children.map (·.row)) entries =
      (Value.putEntry (.str name)
        (parent.withAmounts (totalOf parent.amounts children)).row entries, none) := by
  induction children generalizing parent entries with
  | nil =>
    simp only [totalOf, foldl_nil, TrialRow.withAmounts, parent.withKeys_fields,
      Value.putEntry_of_findEntry found]
    rfl
  | cons child rest ih =>
    let sum := parent.withAmounts (parent.amounts + child.amounts)
    have foundSum : Value.findEntry (.str name) (Value.putEntry (.str name) sum.row entries) =
        some sum.row := by
      rw [Value.findEntry_putEntry, if_pos rfl]
    have later := ih sum foundSum
    rw [Value.putEntry_putEntry, TrialRow.withAmounts_withAmounts] at later
    rw [map_cons, RollUp.addAll]
    have current : (balanceRollUp adding).sharing.current entries child.row = child.row := rfl
    have isParent : (balanceRollUp adding).parent child.row = some (.str name) :=
      child.parentAccount_row named
    simp only [current, isParent, found, changeUntilFault_row exact child.toTrialRow parent]
    exact later

theorem rollUpFieldsWith_children (named : name ≠ "") (children : List (ChildRow α name))
    (parent : TrialRow α) {entries : Entries}
    (found : Value.findEntry (.str name) entries = some parent.row) (kind : DictKind) :
    rollUpFieldsWith adding .apart balanceFields (.list (children.map (·.row)))
        (.dict kind entries) =
      .ok (.dict kind (Value.putEntry (.str name)
        (parent.withAmounts (totalOf parent.amounts children.reverse)).row entries), none) := by
  have parentsRead : (children.map (·.row)).mapM (·.field "parent_account") =
      .ok ((children.map (·.row)).map fun _ => Value.str name) := by
    apply mapM_eq_ok
    intro row rowMem
    rcases mem_map.mp rowMem with ⟨child, -, rfl⟩
    rw [Value.field, child.field?_parent]
  have added := addAll_children exact named children.reverse parent found
  rw [map_reverse] at added
  simp only [rollUpFieldsWith_eq_run, RollUp.run, Value.items, ok_bind, parentsRead, added]
  rfl

end Adding

/--
Netting a row with exact amounts keeps what was open and what is left, leaves nothing on one side
of both and no negative amount, sets no other field, and changes nothing the second time. Rows of an
account that are added to its row give the same row when it is netted, whether they are netted
before or not.
-/
theorem netRow_commutes_with_adding {α : Type} [ExactAmount α] [IsOrderedAddMonoid α]
    (parent : TrialRow α) :
    (∃ (netted : Value) (amounts : Amounts α),
      netRowWith α parent.row = .ok netted ∧ netted = parent.row.withKeys amounts.nettedFields ∧
      amountsOf netted = .ok amounts ∧ amounts.opening = parent.amounts.opening ∧
      amounts.closing = parent.amounts.closing ∧ amounts.Netted ∧
      netRowWith α netted = .ok netted) ∧
    ∀ {adding : Adding}, adding.Exact (FieldAmount.toValue : α → Value) →
      ∀ {name : String}, name ≠ "" → ∀ (children : List (ChildRow α name)) (kind : DictKind)
        {entries : Entries},
        Value.findEntry (.str name) entries = some parent.row →
        ∃ (nettedChildren : List Value) (sum nettedSum net : Value),
          (children.map (·.row)).mapM (netRowWith α) = .ok nettedChildren ∧
          sum = parent.row.withKeys (totalOf parent.amounts children.reverse).fields ∧
          rollUpFieldsWith adding .apart balanceFields (.list (children.map (·.row)))
            (.dict kind entries) =
              .ok (.dict kind (Value.putEntry (.str name) sum entries), none) ∧
          rollUpFieldsWith adding .apart balanceFields (.list nettedChildren)
            (.dict kind entries) =
              .ok (.dict kind (Value.putEntry (.str name) nettedSum entries), none) ∧
          netRowWith α sum = .ok net ∧ netRowWith α nettedSum = .ok net := by
  constructor
  · refine ⟨parent.netted.row, parent.netted.amounts, parent.netRowWith_row, parent.row_netted,
      parent.netted.amountsOf_row, opening_net _ _, closing_net _ _, Amounts.netted_net _ _, ?_⟩
    rw [parent.netted.netRowWith_row, parent.netted_netted]
  · intro adding exact name named children kind entries found
    let sum := parent.withAmounts (totalOf parent.amounts children.reverse)
    let nettedSum :=
      parent.withAmounts (totalOf parent.amounts (children.map ChildRow.netted).reverse)
    have nettedChildren : (children.map (·.row)).mapM (netRowWith α) =
        .ok ((children.map ChildRow.netted).map (·.row)) := by
      rw [List.mapM_map, List.map_map]
      apply mapM_eq_ok
      intro child _
      exact child.netRowWith_row
    have sameNet : nettedSum.netted.row = sum.netted.row := by
      apply parent.netted_withAmounts_congr
      rw [← List.map_reverse]
      exact sameNet_totalOf_netted (Amounts.SameNet.refl _) _
    refine ⟨_, sum.row, nettedSum.row, sum.netted.row, nettedChildren, rfl,
      rollUpFieldsWith_children exact named children parent found kind,
      rollUpFieldsWith_children exact named _ parent found kind, sum.netRowWith_row, ?_⟩
    rw [nettedSum.netRowWith_row, sameNet]

def wholeRow (parent : String) (rootType : Value) (amounts : Amounts Int) :
    ChildRow Int parent where
  row := .ofRecord ([("root_type", rootType), ("parent_account", .str parent)] ++ amounts.fields)
  rootType := rootType
  amounts := amounts
  isDict := ⟨_, _, rfl⟩
  typed := Value.findEntry_fields _ _
  booked := by
    simp only [Amounts.fields, forall_mem_cons]
    refine ⟨?_, ?_, ?_, ?_, ?_, ?_, by simp⟩
    all_goals exact Value.findEntry_fields _ _
  isRecord := ⟨_, rfl⟩
  below := Value.findEntry_fields _ _

def groupRow : TrialRow Int :=
  (wholeRow "" (.str "Income") ⟨1, 0, 0, 0, 1, 0⟩).toTrialRow

def mixedRows : List (ChildRow Int "Group") :=
  [wholeRow "Group" (.str "Asset") ⟨2, 9, 1, 0, 3, 9⟩,
    wholeRow "Group" (.str "Liability") ⟨8, 3, 0, 4, 8, 7⟩,
    wholeRow "Group" .null ⟨5, 5, 2, 2, 7, 7⟩]

theorem netRow_commutes_with_adding_of_mixedRows :
    (∃ netted, netRowWith Int groupRow.row = .ok netted ∧
      netRowWith Int netted = .ok netted) ∧
    ∃ (nettedRows : List Value) (sum nettedSum net : Value),
      (mixedRows.map (·.row)).mapM (netRowWith Int) = .ok nettedRows ∧
      rollUpFieldsWith {} .apart balanceFields (.list (mixedRows.map (·.row)))
        (.dict .plain [(.str "Group", groupRow.row)]) =
          .ok (.dict .plain (Value.putEntry (.str "Group") sum
            [(.str "Group", groupRow.row)]), none) ∧
      rollUpFieldsWith {} .apart balanceFields (.list nettedRows)
        (.dict .plain [(.str "Group", groupRow.row)]) =
          .ok (.dict .plain (Value.putEntry (.str "Group") nettedSum
            [(.str "Group", groupRow.row)]), none) ∧
      netRowWith Int sum = .ok net ∧ netRowWith Int nettedSum = .ok net ∧
      (amountsOf net).toOption = some (⟨0, 1, 3, 6, 0, 4⟩ : Amounts Int) := by
  have exact : Adding.Exact {} (FieldAmount.toValue : Int → Value) := fun _ _ => rfl
  have found : Value.findEntry (.str "Group") [(.str "Group", groupRow.row)] =
      some groupRow.row := by
    simp [Value.findEntry, Value.same_str]
  rcases netRow_commutes_with_adding groupRow with
    ⟨⟨netted, _, isNetted, _, _, _, _, _, again⟩, commutes⟩
  rcases commutes exact (by simp) mixedRows .plain found with
    ⟨nettedRows, sum, nettedSum, net, rowsNetted, sumEq, added, nettedAdded, sumNet, nettedSumNet⟩
  have amounts : ((netRowWith Int sum >>= amountsOf).toOption : Option (Amounts Int)) =
      some ⟨0, 1, 3, 6, 0, 4⟩ := by
    rw [sumEq]
    decide +kernel
  rw [sumNet, ok_bind] at amounts
  exact ⟨⟨netted, isNetted, again⟩, nettedRows, sum, nettedSum, net, rowsNetted, added, nettedAdded,
    sumNet, nettedSumNet, amounts⟩

end ErpLens.Accounts
