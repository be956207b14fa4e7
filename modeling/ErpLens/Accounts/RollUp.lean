import ErpLens.Value.Arithmetic

/-!
# Adding accounts up into their parents

Each row is added to the row of its parent, the last row first. Adding stops at the first fault, and
what was added by then stays.
-/

namespace ErpLens.Accounts

/-- How the rows of a list stand to those of a table. -/
inductive Sharing where
  /-- The rows are copies: what is added in the table does not show in them. -/
  | apart
  /-- As in the reports, the table holds the rows themselves by their names. -/
  | byName

def Sharing.current (table : Entries) (row : Value) : Sharing → Value
  | .apart => row
  | .byName => (Value.findEntry (row.fieldOr "name" .null) table).getD row

def changeUntilFault (changes : List (Value → Outcome Value)) (value : Value) :
    Value × Option Fault :=
  match changes with
  | [] => (value, none)
  | change :: rest =>
    match change value with
    | .ok changed => changeUntilFault rest changed
    | .error fault => (value, some fault)

structure RollUp where
  sharing : Sharing
  parent : Value → Option Value
  changes : Value → List (Value → Outcome Value)

namespace RollUp

def addAll (rule : RollUp) : List Value → Entries → Entries × Option Fault
  | [], table => (table, none)
  | row :: rest, table =>
    let current := rule.sharing.current table row
    match rule.parent current with
    | none => addAll rule rest table
    | some key =>
      match Value.findEntry key table with
      | none => (table, some (.missingKey key))
      | some target =>
        match changeUntilFault (rule.changes current) target with
        | (sum, none) => addAll rule rest (Value.putEntry key sum table)
        | (sum, some fault) => (Value.putEntry key sum table, some fault)

def run (rule : RollUp) (rows table : Value) : Outcome (Value × Option Fault) := do
  let rows ← rows.items
  let _ ← rows.mapM (·.field "parent_account")
  match table with
  | .dict kind entries =>
    let (entries, fault) := rule.addAll rows.reverse entries
    return (.dict kind entries, fault)
  | other => throw other.notSubscriptable

end RollUp

/-! ## Amounts -/

/-- How amounts in rows are added. Rows may hold any values, and where an amount is missing it is
taken to be a floating-point zero. -/
structure Adding where
  nothing : Value := .float 0
  plus : Value → Value → Outcome Value := Value.plus

namespace Adding

def add (adding : Adding) (read : Value → Value → Outcome Value) (key row target : Value) :
    Outcome Value := do
  let sum ← adding.plus (← read target key) (← read row key)
  target.setItem key sum

def optional (adding : Adding) (row key : Value) : Outcome Value :=
  row.getD key adding.nothing

end Adding

def parentAccount (row : Value) : Option Value :=
  (row.field? "parent_account").filter Value.truth

def rollUpPeriodsWith (adding : Adding) (sharing : Sharing) (rows table periods : Value) :
    Outcome (Value × Option Fault) := do
  let keys ← (← periods.items).mapM (·.field "key")
  let rule : RollUp := {
    sharing
    parent := parentAccount
    changes row := (keys ++ [Value.str "opening_balance"]).map (adding.add adding.optional · row) }
  rule.run rows table

def rollUpFieldsWith (adding : Adding) (sharing : Sharing) (fields : List String)
    (rows table : Value) : Outcome (Value × Option Fault) :=
  let rule : RollUp := {
    sharing
    parent := parentAccount
    changes row := fields.map fun field => adding.add Value.item (.str field) row }
  rule.run rows table

def rollUpPeriods (sharing : Sharing := .apart) :
    Value → Value → Value → Outcome (Value × Option Fault) :=
  rollUpPeriodsWith {} sharing

def rollUpFields (fields : List String) (rows table : Value) (sharing : Sharing := .apart) :
    Outcome (Value × Option Fault) :=
  rollUpFieldsWith {} sharing fields rows table

def balanceFields : List String :=
  ["opening_debit", "opening_credit", "debit", "credit", "closing_debit", "closing_credit"]

def profitFields : List String :=
  ["income", "expense", "gross_profit_loss"]

def addCompanyOpening (company row target : Value) : Outcome Value := do
  let balances ← target.key "company_wise_opening_bal"
  let own ← row.getD (.str "company_wise_opening_bal") (.dict .plain [])
  let sum ← Value.plus (← balances.item company) (← own.getD company (.float 0))
  target.setKey "company_wise_opening_bal" (← balances.setItem company sum)

def rollUpCompanies (rows table companies : Value) : Outcome (Value × Option Fault) := do
  let companies ← companies.items
  let adding : Adding := {}
  let rule : RollUp := {
    sharing := .apart
    parent row := (parentAccount row).map fun _ => row.fieldOr "parent_account_name" .null
    changes row := (companies.flatMap fun company =>
      [adding.add adding.optional company row, addCompanyOpening company row]) ++
      [adding.add adding.optional (.str "opening_balance") row] }
  rule.run rows table

end ErpLens.Accounts
