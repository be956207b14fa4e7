import ErpLens.Accounts.Amount
import ErpLens.Accounts.RollUp

/-!
# Trial balances

Every account has debits and credits for what was open, what was booked and what is left. Trial
balances of several companies are put together by account name, and a reserve row takes up what
translating currencies leaves over.
-/

namespace ErpLens.Accounts

structure Amounts (α : Type) where
  openingDebit : α
  openingCredit : α
  debit : α
  credit : α
  closingDebit : α
  closingCredit : α
deriving DecidableEq

namespace Amounts

variable {α : Type}

def add [Add α] (a b : Amounts α) : Amounts α where
  openingDebit := a.openingDebit + b.openingDebit
  openingCredit := a.openingCredit + b.openingCredit
  debit := a.debit + b.debit
  credit := a.credit + b.credit
  closingDebit := a.closingDebit + b.closingDebit
  closingCredit := a.closingCredit + b.closingCredit

instance [Add α] : Add (Amounts α) := ⟨add⟩

def nil [Amount α] : Amounts α :=
  ⟨Amount.nil, Amount.nil, Amount.nil, Amount.nil, Amount.nil, Amount.nil⟩

end Amounts

/-! ## Netting -/

section Net

variable {α : Type} [Amount α]

/-- Nets an amount against the other side: what is left stays on its side, or goes to the other side
if that was larger. -/
def net (side other : α) : α × α :=
  let left := side - other
  if left < Amount.nil then (Amount.nil, -left) else (left, Amount.nil)

def netPair (onDebit : Bool) (debit credit : α) : α × α :=
  if onDebit then net debit credit
  else
    let (credit, debit) := net credit debit
    (debit, credit)

def Amounts.net (onDebit : Bool) (amounts : Amounts α) : Amounts α :=
  let opening := netPair onDebit amounts.openingDebit amounts.openingCredit
  let closing := netPair onDebit amounts.closingDebit amounts.closingCredit
  { amounts with
    openingDebit := opening.1
    openingCredit := opening.2
    closingDebit := closing.1
    closingCredit := closing.2 }

end Net

def isOnDebit (rootType : Value) : Bool :=
  rootType.isAmong ["Asset", "Equity", "Expense"]

/-! ## Rows of reports -/

section Fields

variable {α : Type} [FieldAmount α]

def amountAt (row : Value) (name : String) : Outcome α := do
  FieldAmount.ofValue (← row.key name)

def amountsOf (row : Value) : Outcome (Amounts α) := do
  return ⟨← amountAt row "opening_debit", ← amountAt row "opening_credit", ← amountAt row "debit",
    ← amountAt row "credit", ← amountAt row "closing_debit", ← amountAt row "closing_credit"⟩

def Amounts.fields (amounts : Amounts α) : Fields :=
  [("opening_debit", FieldAmount.toValue amounts.openingDebit),
    ("opening_credit", FieldAmount.toValue amounts.openingCredit),
    ("debit", FieldAmount.toValue amounts.debit), ("credit", FieldAmount.toValue amounts.credit),
    ("closing_debit", FieldAmount.toValue amounts.closingDebit),
    ("closing_credit", FieldAmount.toValue amounts.closingCredit)]

def totalRow (amounts : Amounts α) (currency : Value) : Value :=
  .ofFields ([("account", .str "'Total'"), ("account_name", .str "'Total'"),
    ("warn_if_negative", .bool true)] ++ amounts.fields ++
    [("parent_account", .null), ("indent", .int 0), ("has_value", .bool true),
      ("currency", currency)])

variable (α) in
def netRowWith (row : Value) : Outcome Value := do
  let onDebit := isOnDebit (← row.key "root_type")
  let opening : α × α :=
    netPair onDebit (← amountAt row "opening_debit") (← amountAt row "opening_credit")
  let closing : α × α :=
    netPair onDebit (← amountAt row "closing_debit") (← amountAt row "closing_credit")
  row.setKeys [("opening_debit", FieldAmount.toValue opening.1),
    ("opening_credit", FieldAmount.toValue opening.2),
    ("closing_debit", FieldAmount.toValue closing.1),
    ("closing_credit", FieldAmount.toValue closing.2)]

end Fields

def netRow : Value → Outcome Value :=
  netRowWith Num

def totalOfRows (rows currency : Value) : Outcome Value := do
  let roots ← (← rows.items).filterM fun row => return !(← row.field "parent_account").truth
  let amounts : List (Amounts Num) ← roots.mapM amountsOf
  return totalRow (amounts.foldl (· + ·) .nil) currency

def withoutGroups (rows : Value) : Outcome (Value × Value) := do
  let all ← (← rows.items).mapM fun row => do
    if (← row.get "is_group_account").truth then return (row, false)
    return (← row.setKey "indent" (.int 0), true)
  return (.list ((all.filter Prod.snd).map Prod.fst), .list (all.map Prod.fst))

/-! ## The translation reserve -/

def firstOfType (rootType : String) (types : List Value) : Option Nat :=
  types.findIdx? (· == .str rootType)

/-- The row below which the reserve stands: the first of equity, or else of liabilities; −1 if there
is neither. -/
def reservePosition (types : List Value) : Int :=
  match firstOfType "Equity" types with
  | some position => position
  | none =>
    match firstOfType "Liability" types with
    | some position => position
    | none => -1

def reserveRowPosition (rows : Value) : Outcome Value := do
  let types ← (← rows.items).mapM (·.get "root_type")
  return .int (reservePosition types)

def reserveName : Value := .str "Foreign Currency Translation Reserve"

section Reserve

variable {α : Type}

def balancing [Amount α] (debit credit : α) : α × α :=
  let difference := debit - credit
  if difference < Amount.nil then (-difference, Amount.nil)
  else if Amount.nil < difference then (Amount.nil, difference)
  else (Amount.nil, Amount.nil)

def reserveAmounts [Amount α] (onDebit : Bool) (total : Amounts α) : Amounts α :=
  let opening := balancing total.openingDebit total.openingCredit
  let booked := balancing total.debit total.credit
  Amounts.net onDebit ⟨opening.1, opening.2, booked.1, booked.2, opening.1 + booked.1,
    opening.2 + booked.2⟩

variable [FieldAmount α]

def rootTotal (rows : List Value) : Outcome (Amounts α) :=
  rows.foldlM (fun total row => do
    if (← row.get "parent_account").truth then return total
    return total + (← amountsOf row)) .nil

def reserveRow (amounts : Amounts α) (below currency : Value) : Outcome Value := do
  let rootType ← below.get "root_type"
  let parent ← below.get "account"
  let indent ← (← below.get "indent").plus (.int 1)
  return .ofFields ([("account", reserveName), ("account_name", reserveName),
    ("warn_if_negative", .bool true)] ++ amounts.fields ++
    [("root_type", rootType), ("account_type", .str "Equity"), ("parent_account", parent),
      ("indent", indent), ("has_value", .bool true), ("currency", currency)])

variable (α) in
/-- The total of a trial balance that is put together from companies, and its rows with the reserve
row put in. The reserve makes the total balance. Amounts of `α` are exact: the sums start from the
zero of `α`, where a report starts from the floating-point `0.0`. -/
def balancedTotal (rows currency : Value) : Outcome (Value × Value) := do
  let items ← rows.items
  let total : Amounts α ← rootTotal items
  if items.isEmpty then return (totalRow total currency, rows)
  let position := reservePosition (← items.mapM (·.get "root_type"))
  let below ← rows.item (.int position)
  let amounts := reserveAmounts (isOnDebit (← below.get "root_type")) total
  let reserve ← reserveRow amounts below currency
  let place := (position + 1).toNat
  return (totalRow (total + amounts) currency,
    .list (items.take place ++ reserve :: items.drop place))

end Reserve

/-! ## Putting companies together -/

structure PlacedRow where
  row : Value
  place : Option Nat := none

namespace PlacedRow

def below (parent : Value) (entry : PlacedRow) : Outcome PlacedRow := do
  let account ← parent.get "account"
  let indent ← ((← parent.get "indent").orElse (.int 0)).plus (.int 1)
  return { entry with row := ← entry.row.setKeys [("parent_account", account), ("indent", indent)] }

def atTop (entry : PlacedRow) : Outcome PlacedRow := do
  return { entry with
    row := ← entry.row.setKeys [("parent_account", .null), ("indent", .int 0)] }

end PlacedRow

def joinedFields : List String :=
  ["closing_credit", "closing_debit", "credit", "debit", "opening_credit", "opening_debit"]

def joinRow (entry row : Value) : Outcome Value := do
  let sums ← joinedFields.foldlM (fun row name => do row.addKey name (← entry.key name)) row
  sums.setKey "has_value" (.int 1)

def sameAccount (entry row : Value) : Outcome Bool := do
  if !row.truth then return false
  return (← row.key "account_name") == (← entry.key "account_name")

def hasName (name row : Value) : Outcome Bool := do
  if !row.truth then return false
  return (← row.get "account_name") == name

def joinIfSame (entry : Value) (placed : PlacedRow) : Outcome (PlacedRow × Bool) := do
  if ← sameAccount entry placed.row then
    return ({ placed with row := ← joinRow entry placed.row }, true)
  return (placed, false)

def parentEntry (company : List Value) (entry : Value) : Outcome (Option Value) :=
  company.findM? fun row => return (← row.get "account") == (← entry.get "parent_account")

def insertBelow (name : Value) (entry : PlacedRow) :
    List PlacedRow → Outcome (Option (List PlacedRow))
  | [] => return none
  | first :: rest => do
    if ← hasName name first.row then return some (first :: (← entry.below first.row) :: rest)
    return (← insertBelow name entry rest).map (first :: ·)

def insertEntry (company : List Value) (rows : List PlacedRow) (entry : PlacedRow) :
    Outcome (List PlacedRow) := do
  let inserted ← match ← parentEntry company entry.row with
    | some parent =>
      if parent.truth then insertBelow (← parent.get "account_name") entry rows else pure none
    | none => pure none
  match inserted with
  | some rows => return rows
  | none => return rows ++ [← entry.atTop]

def consolidateEntry (company : List Value) (rows : List PlacedRow) (entry : PlacedRow) :
    Outcome (List PlacedRow) := do
  let joined ← rows.mapM (joinIfSame entry.row)
  if joined.any Prod.snd then return joined.map Prod.fst
  insertEntry company rows entry

def consolidateRows (rows company : Value) : Outcome (Value × Value) := do
  let items ← company.items
  if !rows.truth then return (.list items, company)
  let old := (← rows.items).map fun row => ({ row } : PlacedRow)
  let entries := items.zipIdx.map fun (row, place) => ({ row, place := some place } : PlacedRow)
  let new ← (entries.filter (·.row.truth)).foldlM (consolidateEntry items) old
  let taken := new.foldl (fun items placed =>
    match placed.place with
    | some place => items.set place placed.row
    | none => items) items
  return (.list (new.map (·.row)), .list taken)

def consolidateAll (companies : List Value) : Outcome Value :=
  companies.foldlM (fun rows company => do return (← consolidateRows rows company).1) (.list [])

end ErpLens.Accounts
