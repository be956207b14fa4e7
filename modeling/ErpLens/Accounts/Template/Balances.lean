import ErpLens.Value.Arithmetic

/-!
# Balances of accounts by period

An account has, for each period, its balance when the period opens, when it closes, and the movement
between. Each period opens with what the one before closed with.
-/

namespace ErpLens.Accounts.Template

def periodBalance (key opening closing movement : Value) : Value :=
  .object "PeriodValue" [("period_key", key), ("opening", opening), ("closing", closing),
    ("movement", movement)]

def accountBalances (account name number periods : Value) : Value :=
  .object "AccountData" [("account", account), ("account_name", name), ("account_number", number),
    ("period_values", periods)]

def amountField? (kind : Value) : Option String :=
  match kind with
  | .str "Opening Balance" => some "opening"
  | .str "Closing Balance" => some "closing"
  | .str "Period Movement (Debits - Credits)" => some "movement"
  | _ => none

def amount (period kind : Value) : Outcome Value :=
  match amountField? kind with
  | some name => period.field name
  | none => .ok (.float 0)

def amounts (account kind : Value) : Outcome Value := do
  return .list (← (← (← account.field "period_values").values).mapM (amount · kind))

def amountsOf (account keys kind : Value) : Outcome Value := do
  let periods ← account.field "period_values"
  return .list (← (← keys.items).mapM fun key => do
    if ← periods.contains key then amount (← periods.item key) kind else return .float 0)

def period (account key : Value) : Outcome Value := do
  (← account.field "period_values").getD key .null

def hasPeriods (account : Value) : Outcome Bool := do
  return (← (← account.field "period_values").size) != 0

def mapPeriods (account : Value) (change : Value → Outcome Value) : Outcome Value := do
  match ← account.field "period_values" with
  | .dict kind entries =>
    let entries ← entries.mapM fun (key, period) => return (key, ← change period)
    account.setField "period_values" (.dict kind entries)
  | other => throw (other.noField "values")

def accumulate (account : Value) : Outcome Value :=
  mapPeriods account fun period => do period.addField "movement" (← period.field "opening")

def unaccumulate (account : Value) : Outcome Value :=
  mapPeriods account fun period => do
    period.setField "closing" (← Value.minus (← period.field "closing") (← period.field "opening"))

def opposite (amount : Value) : Outcome Value :=
  if amount.truth then amount.negated else .ok (.float 0)

def reverse (account : Value) : Outcome Value :=
  mapPeriods account fun period => do
    let opening ← opposite (← period.field "opening")
    let closing ← opposite (← period.field "closing")
    let movement ← opposite (← period.field "movement")
    period.setFields [("opening", opening), ("closing", closing), ("movement", movement)]

def copyAccount (account : Value) : Outcome Value := do
  let periods ← (← account.field "period_values").entries
  let periods ← periods.mapM fun (key, period) => do
    return (key, periodBalance (← period.field "period_key") (← period.field "opening")
      (← period.field "closing") (← period.field "movement"))
  return accountBalances (← account.field "account") (← account.field "account_name")
    (← account.field "account_number") (.dict .plain periods)

def addPeriod (account period : Value) : Outcome Value := do
  account.setField "period_values"
    (← (← account.field "period_values").setItem (← period.field "period_key") period)

def periodKeys (report : Value) : Outcome (List Value) := do
  (← (← report.field "periods").items).mapM (·.key "key")

def openingAmount (keys : List Value) (account : Value) : Outcome Value := do
  if !(← hasPeriods account) then return .float 0
  match keys with
  | [] => throw (.outOfRange "list index out of range")
  | first :: _ =>
    let found ← period account first
    if found.truth then amount found (.str "Opening Balance") else return .float 0

def newAccount (report account : Value) : Outcome Value := do
  let known ← (← report.field "account_meta").getD account (.dict .plain [])
  return accountBalances account (← known.getD (.str "account_name") (.str ""))
    (← known.getD (.str "account_number") (.str "")) (.dict .plain [])

def runAccount (keys : List Value) (account movements : Value) : Outcome Value := do
  let start ← openingAmount keys account
  let (account, _) ← keys.foldlM (fun (account, balance) key => do
    let movement ← movements.getD key (.float 0)
    let closing ← Value.plus balance movement
    return (← addPeriod account (periodBalance key balance closing movement), closing))
    (account, start)
  return account

def fillPeriods (keys : List Value) (account : Value) : Outcome Value :=
  keys.foldlM (fun account key => do
    if ← (← account.field "period_values").contains key then return account
    addPeriod account (periodBalance key (.float 0) (.float 0) (.float 0))) account

def runBalances (report balances movements : Value) : Outcome Value := do
  let rows ← movements.items
  let balances ← rows.foldlM (fun (balances : Value) row => do
    let name ← row.key "account"
    let account ← if ← balances.contains name then balances.item name else newAccount report name
    balances.setItem name (← runAccount (← periodKeys report) account row)) balances
  match balances with
  | .dict kind entries =>
    return .dict kind (← entries.mapM fun (name, account) => do
      return (name, ← fillPeriods (← periodKeys report) account))
  | other => throw (other.noField "values")

end ErpLens.Accounts.Template
