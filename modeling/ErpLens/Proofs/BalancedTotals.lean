import Mathlib
import ErpLens.Accounts.TrialBalance
import ErpLens.Proofs.Fields
import ErpLens.Proofs.Outcomes

/-!
# A trial balance with its reserve balances

Sums add the differences of debit and credit and netting keeps them, so neither the sign of a
difference nor the side on which the reserve is netted matters. Amounts are exact here: the laws of
an ordered group do not hold of rounded numbers.
-/

open List

namespace ErpLens.Accounts

/-- Amounts that are added, subtracted and compared without rounding. -/
class ExactAmount (α : Type) extends FieldAmount α, AddCommGroup α, LinearOrder α where
  nil_eq_zero : (Amount.nil : α) = 0
  ofValue_toValue : ∀ amount : α, FieldAmount.ofValue (FieldAmount.toValue amount) = .ok amount

instance intExactAmount : ExactAmount Int where
  nil_eq_zero := rfl
  ofValue_toValue _ := rfl

/-! ## Differences of debit and credit -/

namespace Amounts

variable {α : Type} (amounts : Amounts α)

/-- What was open before, debit less credit. -/
def opening [Sub α] : α :=
  amounts.openingDebit - amounts.openingCredit

/-- What was booked, debit less credit. -/
def booked [Sub α] : α :=
  amounts.debit - amounts.credit

/-- What is left, debit less credit. -/
def closing [Sub α] : α :=
  amounts.closingDebit - amounts.closingCredit

/-- What is left is what was open and what was booked. -/
def Closes [Add α] [Sub α] : Prop :=
  amounts.closing = amounts.opening + amounts.booked

/-- Debit and credit agree in all three pairs. -/
structure Balanced (amounts : Amounts α) : Prop where
  opening : amounts.openingDebit = amounts.openingCredit
  booked : amounts.debit = amounts.credit
  closing : amounts.closingDebit = amounts.closingCredit

variable [ExactAmount α] (left right : Amounts α)

theorem opening_add :
    (left + right).opening = left.opening + right.opening :=
  add_sub_add_comm _ _ _ _

theorem booked_add :
    (left + right).booked = left.booked + right.booked :=
  add_sub_add_comm _ _ _ _

theorem closing_add :
    (left + right).closing = left.closing + right.closing :=
  add_sub_add_comm _ _ _ _

theorem Closes.nil : (Amounts.nil : Amounts α).Closes := by
  have none_left (amount : α) : amount - amount = 0 := sub_self amount
  simp [Closes, closing, opening, booked, Amounts.nil]

theorem Closes.add {left right : Amounts α} (leftCloses : left.Closes)
    (rightCloses : right.Closes) : (left + right).Closes := by
  rw [Closes, closing_add, opening_add, booked_add, leftCloses, rightCloses]
  exact add_add_add_comm _ _ _ _

theorem balanced_of_eq_zero {amounts : Amounts α} (noneOpen : amounts.opening = 0)
    (noneBooked : amounts.booked = 0) (noneLeft : amounts.closing = 0) : amounts.Balanced where
  opening := sub_eq_zero.mp noneOpen
  booked := sub_eq_zero.mp noneBooked
  closing := sub_eq_zero.mp noneLeft

end Amounts

section Differences

variable {α : Type} [ExactAmount α]

theorem nil_eq_zero : (Amount.nil : α) = 0 :=
  ExactAmount.nil_eq_zero

theorem net_sub (side other : α) : (net side other).1 - (net side other).2 = side - other := by
  simp only [net, nil_eq_zero]
  split
  · simp
  · simp

variable (onDebit : Bool)

theorem netPair_sub (debit credit : α) :
    (netPair onDebit debit credit).1 - (netPair onDebit debit credit).2 = debit - credit := by
  cases onDebit with
  | true => exact net_sub debit credit
  | false =>
    have opposite := congrArg Neg.neg (net_sub credit debit)
    rw [neg_sub, neg_sub] at opposite
    exact opposite

theorem balancing_sub (debit credit : α) :
    (balancing debit credit).1 - (balancing debit credit).2 = -(debit - credit) := by
  simp only [balancing, nil_eq_zero]
  split
  · simp
  · rename_i notBelow
    split
    · simp
    · rename_i notAbove
      have none_left : debit - credit = 0 := le_antisymm (not_lt.mp notAbove) (not_lt.mp notBelow)
      simp [none_left]

theorem opening_net (amounts : Amounts α) :
    (amounts.net onDebit).opening = amounts.opening :=
  netPair_sub onDebit _ _

theorem closing_net (amounts : Amounts α) :
    (amounts.net onDebit).closing = amounts.closing :=
  netPair_sub onDebit _ _

theorem opening_reserve (total : Amounts α) :
    (reserveAmounts onDebit total).opening = -total.opening := by
  rw [reserveAmounts, opening_net]
  exact balancing_sub _ _

theorem booked_reserve (total : Amounts α) :
    (reserveAmounts onDebit total).booked = -total.booked :=
  balancing_sub _ _

theorem closing_reserve (total : Amounts α) :
    (reserveAmounts onDebit total).closing = -(total.opening + total.booked) := by
  rw [reserveAmounts, closing_net, neg_add]
  refine (add_sub_add_comm _ _ _ _).trans ?_
  rw [balancing_sub, balancing_sub]
  rfl

/-- The reserve takes up all that a total lacks. -/
theorem balanced_add_reserve {total : Amounts α} (closes : total.Closes) (onDebit : Bool) :
    (total + reserveAmounts onDebit total).Balanced := by
  refine Amounts.balanced_of_eq_zero ?_ ?_ ?_
  · rw [Amounts.opening_add, opening_reserve, add_neg_cancel]
  · rw [Amounts.booked_add, booked_reserve, add_neg_cancel]
  · rw [Amounts.closing_add, closing_reserve, closes, add_neg_cancel]

end Differences

/-! ## Rows and their fields -/

/-- A row without a parent. -/
def IsRoot (row : Value) : Prop :=
  ∃ parent, row.get "parent_account" = .ok parent ∧ parent.truth = false

/-- A row with a whole indentation and amounts, which close if no account is above it. -/
structure IsAccountRow (α : Type) [FieldAmount α] (row : Value) : Prop where
  indented : ∃ indent : Int, row.get "indent" = .ok (.int indent)
  booked : ∃ amounts : Amounts α, amountsOf row = .ok amounts ∧ (IsRoot row → amounts.Closes)

theorem IsAccountRow.exists_get {α : Type} [FieldAmount α] {row : Value}
    (isRow : IsAccountRow α row) (name : String) : ∃ held, row.get name = .ok held := by
  rcases isRow.indented with ⟨indent, found⟩
  exact ⟨_, (Value.isDict_of_get found).get name⟩

section Exact

variable {α : Type} [ExactAmount α]

theorem amountsOf_eq {row : Value} {amounts : Amounts α}
    (held : ∀ field ∈ amounts.fields, row.key field.1 = .ok field.2) :
    amountsOf row = .ok amounts := by
  simp only [Amounts.fields, forall_mem_cons] at held
  rcases held with ⟨openingDebit, openingCredit, debit, credit, closingDebit, closingCredit, -⟩
  simp only [amountsOf, amountAt, openingDebit, openingCredit, debit, credit, closingDebit,
    closingCredit, ok_bind, ExactAmount.ofValue_toValue]
  rfl

theorem amountsOf_ofFields {before : Fields} {amounts : Amounts α}
    (others : ∀ field ∈ amounts.fields, before.lookup field.1 = none) (after : Fields) :
    amountsOf (.ofFields (before ++ amounts.fields ++ after)) = .ok amounts := by
  have found : ∀ field ∈ amounts.fields, amounts.fields.lookup field.1 = some field.2 := by
    simp only [Amounts.fields, forall_mem_cons]
    exact ⟨rfl, rfl, rfl, rfl, rfl, rfl, by simp⟩
  refine amountsOf_eq fun field fieldMem => Value.key_ofFields ?_
  rw [lookup_append, lookup_append, others field fieldMem, found field fieldMem]
  rfl

theorem amountsOf_totalRow (amounts : Amounts α) (currency : Value) :
    amountsOf (totalRow amounts currency) = .ok amounts :=
  amountsOf_ofFields (by simp [Amounts.fields, List.lookup]) _

theorem exists_reserveRow {below : Value} (isRow : IsAccountRow α below) (amounts : Amounts α)
    (currency : Value) :
    ∃ reserve, reserveRow amounts below currency = .ok reserve ∧
      reserve.key "account_name" = .ok reserveName ∧ amountsOf reserve = .ok amounts := by
  rcases isRow.exists_get "root_type" with ⟨rootType, rootTypeHeld⟩
  rcases isRow.exists_get "account" with ⟨account, accountHeld⟩
  rcases isRow.indented with ⟨indent, indentHeld⟩
  have deeper : (Value.int indent).plus (.int 1) = .ok (.int (indent + 1)) := rfl
  simp only [reserveRow, rootTypeHeld, accountHeld, indentHeld, ok_bind, deeper]
  exact ⟨_, rfl, Value.key_ofFields rfl,
    amountsOf_ofFields (by simp [Amounts.fields, List.lookup]) _⟩

/-! ## The sum of the roots -/

theorem exists_rootTotal {rows : List Value} (areRows : ∀ row ∈ rows, IsAccountRow α row) :
    ∃ total : Amounts α, rootTotal rows = .ok total ∧ total.Closes := by
  refine exists_foldlM (motive := fun _ (total : Amounts α) => total.Closes) Amounts.Closes.nil ?_
  intro before row after total split closes
  have isRow : IsAccountRow α row := areRows row (by simp [split])
  rcases isRow.exists_get "parent_account" with ⟨parent, parentHeld⟩
  rcases isRow.booked with ⟨amounts, amountsHeld, closesIfRoot⟩
  rw [parentHeld, ok_bind]
  cases above : parent.truth with
  | true => exact ⟨total, rfl, closes⟩
  | false =>
    rw [amountsHeld]
    exact ⟨total + amounts, rfl, closes.add (closesIfRoot ⟨parent, parentHeld, above⟩)⟩

end Exact

/-! ## The place of the reserve -/

theorem firstOfType_lt {rootType : String} {types : List Value} {position : Nat}
    (found : firstOfType rootType types = some position) : position < types.length :=
  (findIdx?_eq_some_iff_findIdx_eq.mp found).1

theorem reservePosition_cases (types : List Value) :
    reservePosition types = -1 ∨ ∃ position : Nat, position < types.length ∧
      reservePosition types = position := by
  unfold reservePosition
  cases equity : firstOfType "Equity" types with
  | some position => exact .inr ⟨position, firstOfType_lt equity, rfl⟩
  | none =>
    cases liability : firstOfType "Liability" types with
    | some position => exact .inr ⟨position, firstOfType_lt liability, rfl⟩
    | none => exact .inl rfl

theorem exists_item_reservePosition {items types : List Value} (nonempty : items ≠ [])
    (sameLength : types.length = items.length) :
    ∃ below ∈ items, (Value.list items).item (.int (reservePosition types)) = .ok below := by
  have length_pos := length_pos_iff.mpr nonempty
  have itemAt_eq {index : Int} {position : Nat} (inside : position < items.length)
      (located : Value.position? items.length index = some position) :
      (Value.list items).item (.int index) = .ok items[position] := by
    simp [Value.item, Value.itemAt, Value.index?, located, getElem?_eq_getElem inside]
  rcases reservePosition_cases types with missing | ⟨position, inside, found⟩
  · have last : items.length - 1 < items.length := by omega
    refine ⟨_, getElem_mem last, itemAt_eq last ?_⟩
    rw [missing, Value.position?, if_neg (by omega), if_pos (by omega)]
    congr 1
    omega
  · rw [sameLength] at inside
    refine ⟨_, getElem_mem inside, itemAt_eq inside ?_⟩
    rw [found, Value.position?, if_pos (by omega), if_pos (by omega), Int.toNat_natCast]

/--
For rows with exact amounts of which those without a parent close, the total of a trial balance is
there and balances in all three pairs. It is the sum of the rows without a parent and of one reserve
row, which was put in between the rows; all other rows are as they were.
-/
theorem balancedTotal_balances {α : Type} [ExactAmount α] {items : List Value}
    (nonempty : items ≠ []) (areRows : ∀ row ∈ items, IsAccountRow α row) (currency : Value) :
    ∃ (total reserve : Value) (before after : List Value) (sum added : Amounts α),
      balancedTotal α (.list items) currency =
        .ok (total, .list (before ++ reserve :: after)) ∧
      items = before ++ after ∧
      reserve.key "account_name" = .ok reserveName ∧
      rootTotal items = .ok sum ∧ amountsOf reserve = .ok added ∧
      amountsOf total = .ok (sum + added) ∧ (sum + added).Balanced := by
  rcases exists_rootTotal areRows with ⟨sum, summed, closes⟩
  obtain ⟨types, typesRead, sameLength⟩ : ∃ types : List Value,
      items.mapM (·.get "root_type") = .ok types ∧ types.length = items.length := by
    refine ⟨items.map fun row => (row.get "root_type").toOption.getD .null, ?_, by simp⟩
    refine mapM_eq_ok fun row rowMem => ?_
    rcases (areRows row rowMem).exists_get "root_type" with ⟨rootType, held⟩
    rw [held]
    rfl
  rcases exists_item_reservePosition nonempty sameLength with ⟨below, belowMem, found⟩
  have belowRow := areRows below belowMem
  rcases belowRow.exists_get "root_type" with ⟨rootType, rootTypeHeld⟩
  rcases exists_reserveRow belowRow (reserveAmounts (isOnDebit rootType) sum) currency with
    ⟨reserve, made, named, reserveHolds⟩
  let place := (reservePosition types + 1).toNat
  refine ⟨_, reserve, items.take place, items.drop place, sum, _, ?_,
    (List.take_append_drop place items).symm, named, summed, reserveHolds,
    amountsOf_totalRow _ currency, balanced_add_reserve closes _⟩
  have filled : items.isEmpty = false := by simpa using nonempty
  simp only [balancedTotal, Value.items, ok_bind, summed, filled, typesRead, found, rootTypeHeld,
    made]
  rfl

def accountRow (account parent rootType : Value) (indent : Int) (amounts : Amounts Int) : Value :=
  .ofFields ([("account", account), ("account_name", account), ("parent_account", parent),
    ("root_type", rootType)] ++ amounts.fields ++ [("indent", .int indent)])

theorem isAccountRow_accountRow (account parent rootType : Value) (indent : Int)
    {amounts : Amounts Int} (closes : amounts.Closes) :
    IsAccountRow Int (accountRow account parent rootType indent amounts) where
  indented := ⟨indent, Value.get_ofFields rfl⟩
  booked := ⟨amounts, amountsOf_ofFields (by simp [Amounts.fields, List.lookup]) _, fun _ => closes⟩

def unbalancedRows : List Value :=
  [accountRow (.str "Assets") .null (.str "Asset") 0 ⟨100, 0, 50, 20, 130, 0⟩,
    accountRow (.str "Cash") (.str "Assets") (.str "Asset") 1 ⟨100, 0, 50, 20, 130, 0⟩,
    accountRow (.str "Equity") .null (.str "Equity") 0 ⟨0, 70, 0, 65, 0, 135⟩]

theorem balancedTotal_balances_unbalancedRows :
    (∀ row ∈ unbalancedRows, IsAccountRow Int row) ∧
      (rootTotal unbalancedRows).toOption = some (⟨100, 70, 50, 85, 130, 135⟩ : Amounts Int) ∧
      ∃ (total reserve : Value) (before after : List Value) (amounts : Amounts Int),
        balancedTotal Int (.list unbalancedRows) (.str "EUR") =
          .ok (total, .list (before ++ reserve :: after)) ∧
        unbalancedRows = before ++ after ∧ amountsOf total = .ok amounts ∧ amounts.Balanced := by
  have areRows : ∀ row ∈ unbalancedRows, IsAccountRow Int row := by
    simp only [unbalancedRows, List.forall_mem_cons]
    refine ⟨?_, ?_, ?_, by simp⟩
    all_goals exact isAccountRow_accountRow _ _ _ _ (by rfl)
  rcases balancedTotal_balances (List.cons_ne_nil _ _) areRows (.str "EUR") with
    ⟨total, reserve, before, after, sum, added, given, parts, _, _, _, held, balanced⟩
  exact ⟨areRows, by decide +kernel, total, reserve, before, after, sum + added, given, parts, held,
    balanced⟩

end ErpLens.Accounts
