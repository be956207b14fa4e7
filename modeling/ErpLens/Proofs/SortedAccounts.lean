import Mathlib
import ErpLens.Proofs.AccountLinks
import ErpLens.Proofs.Outcomes
import ErpLens.Proofs.StableInsertion

/-!
# Sorted accounts

Which rule compares two accounts is up to the first of them, and two root accounts are never equal.
Still the comparison is that of a rank, and sorting is stable.
-/

namespace ErpLens.Accounts

/-! ## Comparing accounts -/

namespace SortKey

variable {a b : SortKey}

theorem compare_false (a b : SortKey) : a.compare false b = a.compareKeys b := by
  simp [compare]

theorem compareKeys_neg_iff : a.compareKeys b < 0 ↔ a.key < b.key := by
  rcases lt_trichotomy a.key b.key with before | same | after
  · simp [compareKeys, before, before.not_gt]
  · simp [compareKeys, same]
  · simp [compareKeys, after, after.not_gt]

theorem below_false_iff : a.below false b ↔ a.key < b.key := by
  rw [below, compare_false, decide_eq_true_iff, compareKeys_neg_iff]

theorem below_true_iff (unnumbered : a.isNumbered = false) : a.below true b ↔ a.rootBelow b := by
  cases below : a.rootBelow b <;> simp [SortKey.below, compare, unnumbered, below]

end SortKey

/-- The types of root accounts, in the order in which they are listed. -/
inductive RootType where
  | asset
  | liability
  | equity
  | income
  | expense

namespace RootType

def text : RootType → String
  | asset => "Asset"
  | liability => "Liability"
  | equity => "Equity"
  | income => "Income"
  | expense => "Expense"

/-- The types that a balance sheet has. -/
def onBalanceSheet : RootType → Bool
  | asset | liability | equity => true
  | income | expense => false

end RootType

theorem rootBelow_iff {a b : SortKey} {first second : RootType}
    (aRoot : a.rootType = .str first.text) (bRoot : b.rootType = .str second.text)
    (aReport : a.reportType = .str "Balance Sheet" ↔ first.onBalanceSheet)
    (bReport : b.reportType = .str "Balance Sheet" ↔ second.onBalanceSheet) :
    a.rootBelow b ↔ first.ctorIdx < second.ctorIdx := by
  have beq_str (left right : String) : (Value.str left == Value.str right) = (left == right) :=
    Value.same_str left right
  have isReport : (a.reportType == .str "Balance Sheet") = first.onBalanceSheet :=
    Bool.eq_iff_iff.mpr ((Value.same_str_iff _ _).trans aReport)
  have sameReport : (.str "Balance Sheet" == b.reportType) = second.onBalanceSheet :=
    Bool.eq_iff_iff.mpr ((Value.str_beq_iff _ _).trans bReport)
  have crosses : (a.reportType != b.reportType && a.reportType == .str "Balance Sheet") =
      (first.onBalanceSheet && !second.onBalanceSheet) := by
    rw [isReport, Bool.and_comm]
    cases onSheet : first.onBalanceSheet with
    | false => rfl
    | true => rw [bne, aReport.mpr onSheet, sameReport]
  rw [SortKey.rootBelow, crosses, aRoot, bRoot]
  simp only [bne, beq_str]
  cases first <;> cases second <;> decide

/-! ## Sorting rows -/

section

variable {rows : List Value} {key : Value} {name : Value → String} {type : Value → RootType}
  {β : Type} [LinearOrder β] {rank : Value → β} {isRoot : Bool}

/-- What a row is sorted by. -/
def keyOf (name : Value → String) (row : Value) : SortKey :=
  ⟨name row, row.fieldOr "report_type" .null, row.fieldOr "root_type" .null⟩

/-- The rows as they are sorted without faults. -/
def sortedRows (name : Value → String) (isRoot : Bool) (rows : List Value) : List Value :=
  (sortBelow (fun a b => a.1.below isRoot b.1) (rows.map fun row => (keyOf name row, row))).map
    Prod.snd

theorem sortRows_eq (named : ∀ row ∈ rows, row.item key = .ok (.str (name row))) (isRoot : Value) :
    sortRows (.list rows) isRoot key = .ok (.list (sortedRows name isRoot.truth rows)) := by
  have keyed : (rows.mapM fun row => return (← sortKeyOf key row, row) : Outcome _) =
      .ok (rows.map fun row => (keyOf name row, row)) := by
    refine mapM_eq_ok fun row rowMem => ?_
    rw [sortKeyOf, named row rowMem]
    rfl
  rw [sortRows]
  split
  · match rows with
    | [] | [_] => rfl
    | _ :: _ :: _ => simp at *
  · rw [keyed]
    rfl

theorem map_snd_keyed (rows : List Value) :
    (rows.map fun row => (keyOf name row, row)).map Prod.snd = rows := by
  simp [Function.comp_def]

theorem sortedRows_perm (rows : List Value) : (sortedRows name isRoot rows).Perm rows := by
  have perm := (sortBelow_perm (fun a b => a.1.below isRoot b.1)
    (rows.map fun row => (keyOf name row, row))).map Prod.snd
  rwa [map_snd_keyed] at perm

theorem sortedRows_stableOrder
    (agrees : Agrees (fun a b => (keyOf name a).below isRoot (keyOf name b)) rank rows) :
    StableOrder rank rows (sortedRows name isRoot rows) := by
  have agreesKeyed : Agrees (fun a b => a.1.below isRoot b.1) (rank ∘ Prod.snd)
      (rows.map fun row => (keyOf name row, row)) := by
    intro a aMem b bMem
    rcases List.mem_map.mp aMem with ⟨first, firstMem, rfl⟩
    rcases List.mem_map.mp bMem with ⟨second, secondMem, rfl⟩
    exact agrees first firstMem second secondMem
  have order := (sortBelow_stableOrder agreesKeyed).map
  rwa [map_snd_keyed] at order

/-- An account of a root type that is not numbered and stands in the report of its type. -/
structure PlainRoot (type : RootType) (name : String) (row : Value) : Prop where
  unnumbered : Text.isNumeral (Text.firstWord name) = false
  rootType : row.field? "root_type" = some (.str type.text)
  reportType : ∃ report, row.field? "report_type" = some report ∧
    (report = .str "Balance Sheet" ↔ type.onBalanceSheet)

theorem agrees_of_plainRoot (roots : ∀ row ∈ rows, PlainRoot (type row) (name row) row) :
    Agrees (fun a b => (keyOf name a).below true (keyOf name b)) (fun row => (type row).ctorIdx)
      rows := by
  intro a aMem b bMem
  rcases roots a aMem with ⟨unnumbered, aRoot, aReport, aReported, aSheet⟩
  rcases roots b bMem with ⟨_, bRoot, bReport, bReported, bSheet⟩
  refine (SortKey.below_true_iff ?_).trans (rootBelow_iff ?_ ?_ ?_ ?_)
  · rwa [SortKey.isNumbered, keyOf]
  · simp [keyOf, Value.fieldOr, aRoot]
  · simp [keyOf, Value.fieldOr, bRoot]
  · simpa [keyOf, Value.fieldOr, aReported] using aSheet
  · simpa [keyOf, Value.fieldOr, bReported] using bSheet

/-- Any two accounts with texts under the key can be compared, so that sorting ends with a
permutation of the accounts. The last two parts say which one: the only list that is stably ordered
by the keys, or by the root types. -/
theorem sortRows_orders_stably (named : ∀ row ∈ rows, row.item key = .ok (.str (name row)))
    (isRoot : Value) :
    ∃ sorted, sortRows (.list rows) isRoot key = .ok (.list sorted) ∧ sorted.Perm rows ∧
      (isRoot.truth = false →
        (∀ a b : SortKey, a.compare isRoot.truth b = a.compareKeys b) ∧
          ∀ other, StableOrder name rows other ↔ other = sorted) ∧
      (isRoot.truth = true → ∀ type : Value → RootType,
        (∀ row ∈ rows, PlainRoot (type row) (name row) row) →
          ∀ other, StableOrder (fun row => (type row).ctorIdx) rows other ↔ other = sorted) := by
  refine ⟨_, sortRows_eq named isRoot, sortedRows_perm rows, fun notRoot => ?_, ?_⟩
  · rw [notRoot]
    refine ⟨SortKey.compare_false, fun other => (sortedRows_stableOrder ?_).iff_eq⟩
    exact fun a _ b _ => SortKey.below_false_iff
  · intro root type roots other
    rw [root]
    exact (sortedRows_stableOrder (agrees_of_plainRoot roots)).iff_eq

end

def rootRow (name : String) (type : RootType) (report : String) : Value :=
  accountRecord name none [("root_type", .str type.text), ("report_type", .str report)]

theorem plainRoot_rootRow {name report : String} {type : RootType}
    (unnumbered : Text.isNumeral (Text.firstWord name) = false)
    (isReport : report = "Balance Sheet" ↔ type.onBalanceSheet) :
    PlainRoot type name (rootRow name type report) where
  unnumbered := unnumbered
  rootType := Value.findEntry_fields _ _
  reportType := ⟨.str report, Value.findEntry_fields _ _, by simpa using isReport⟩

theorem sortRows_orders_stably_of_rootRows :
    let rows := [rootRow "Main - Sales" .income "Profit and Loss",
      rootRow "Main - Cash" .asset "Balance Sheet", rootRow "Main - Bank" .asset "Balance Sheet"]
    let type row : RootType := if nameIn row = "Main - Sales" then .income else .asset
    (∀ row ∈ rows, row.item (.str "name") = .ok (.str (nameIn row))) ∧
      (∀ row ∈ rows, PlainRoot (type row) (nameIn row) row) ∧
      ∃ sorted, sortRows (.list rows) (.bool true) (.str "name") = .ok (.list sorted) ∧
        StableOrder (fun row => (type row).ctorIdx) rows sorted := by
  intro rows type
  have nameIn_rootRow (name type report) : nameIn (rootRow name type report) = name :=
    nameIn_accountRecord
  have item_rootRow (name type report) :
      (rootRow name type report).item (.str "name") = .ok (.str name) :=
    isAccountRecord_accountRecord.isDict.key_eq_ok_iff.mpr (Value.findEntry_fields _ _)
  have named : ∀ row ∈ rows, row.item (.str "name") = .ok (.str (nameIn row)) := by
    simp [rows, nameIn_rootRow, item_rootRow]
  have unnumbered : Text.isNumeral "Main" = false := by decide +kernel
  have roots : ∀ row ∈ rows, PlainRoot (type row) (nameIn row) row := by
    simp only [rows, type, List.forall_mem_cons, nameIn_rootRow]
    exact ⟨plainRoot_rootRow unnumbered (by decide), plainRoot_rootRow unnumbered (by decide),
      plainRoot_rootRow unnumbered (by decide), by simp⟩
  rcases sortRows_orders_stably named (.bool true) with ⟨sorted, result, -, -, byType⟩
  exact ⟨named, roots, sorted, result, (byType rfl type roots sorted).mpr rfl⟩

end ErpLens.Accounts
