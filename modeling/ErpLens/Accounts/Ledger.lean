import ErpLens.Value.Arithmetic

/-!
# Ledger entries

Which entries are merged, how far debit and credit may differ, and the running balance of a list of
entries.
-/

namespace ErpLens.Accounts.Ledger

def mergeFields : List String :=
  ["account", "cost_center", "party", "party_type", "voucher_detail_no", "against_voucher",
    "against_voucher_type", "project", "finance_book", "voucher_no", "advance_voucher_type",
    "advance_voucher_no"]

def mergeFieldsWith (dimensions : Value) : Outcome Value := do
  let more ← if dimensions.truth then dimensions.items else pure []
  return .list (mergeFields.map .str ++ more)

def mergeKey (entry fields : Value) : Outcome Value := do
  return .tuple (← (← fields.items).mapM (entry.getD · (.str "")))

/-- Ten to a power; to a negative one as a fraction. -/
def powerOfTen (exponent : Value) : Outcome Value :=
  match exponent.num? with
  | some (.int n) =>
    if 0 ≤ n then .ok (.int (Int.ofNat (Nat.pow 10 n.toNat))) else .ok (.float (Float.pow 10 (Float.ofInt n)))
  | some (.float x) => .ok (.float (Float.pow 10 x))
  | none => .error (Value.noOperation "** or pow()" (.int 10) exponent)

/-- How far debit and credit may differ: five units after the last place for entries made by hand,
else half a unit. -/
def allowance (voucher places : Value) : Outcome Value := do
  if voucher.isAmong ["Journal Entry", "Payment Entry"] then
    Value.dividedBy (.float 5) (← powerOfTen places)
  else return .float 0.5

def hasOpening (entries : Value) : Outcome Bool := do
  (← entries.items).anyM fun entry => return (← entry.field "is_opening").isText "Yes"

def groupField (grouping : Value) : String :=
  if grouping.isText "Categorize by Party" then "party"
  else if grouping.isAmong ["Categorize by Voucher (Consolidated)", "Categorize by Account"] then
    "account"
  else "voucher_no"

def runBalance (filters : Value) : Value → List Value → Outcome (List Value)
  | _, [] => .ok []
  | balance, entry :: rest => do
    let before := if (← entry.get "posting_date").truth then balance else .int 0
    let change ← Value.minus (← entry.getD (.str "debit") (.int 0))
      (← entry.getD (.str "credit") (.int 0))
    let balance ← Value.plus before change
    let entry ← entry.setKeys [("balance", balance),
      ("account_currency", ← filters.field "account_currency"),
      ("presentation_currency", ← filters.field "presentation_currency")]
    return entry :: (← runBalance filters balance rest)

def withBalance (entries filters : Value) : Outcome Value := do
  return .list (← runBalance filters (.int 0) (← entries.items))

def numberEntries (entries start receivable : Value) : Outcome Value := do
  let numbered ← (← entries.items).zipIdx.mapM fun (entry, i) => do
    let isReceivable ← receivable.contains (← entry.field "account")
    let kind := if isReceivable then "Receivable" else "Payable"
    let amount (suffix : String) : Outcome Value := do
      let debit ← entry.field ("debit" ++ suffix)
      let credit ← entry.field ("credit" ++ suffix)
      if isReceivable then Value.minus debit credit else Value.minus credit debit
    entry.setFields [("name", ← Value.plus start (.nat i)), ("account_type", .str kind),
      ("amount", ← amount ""), ("amount_in_account_currency", ← amount "_in_account_currency")]
  return .list numbered

def columnValues (columns row : Value) : Outcome Value := do
  if !columns.truth then return .ofFields []
  return .ofEntries (← (← columns.items).mapM fun column => do
    let name ← column.key "fieldname"
    return (name, ← row.getD name .null))

def incomeAccount (row : Value) : Outcome Value := do
  if (← row.field "enable_deferred_revenue").truth then row.field "deferred_revenue_account"
  else if (← row.field "is_internal_customer") == .int 1 then
    row.field "unrealized_profit_loss_account"
  else row.field "income_account"

def partyDetails (details party kind : Value) : Outcome Value := do
  let isCustomer := kind.isText "Customer"
  let copied := ["tax_withholding_category", "tax_withholding_group", "language"] ++
    if isCustomer then ["customer_name", "customer_group", "territory"]
    else ["supplier_name", "supplier_group"]
  let details ← copied.foldlM (fun (details : Value) name => do
    details.setKey name (← party.get name)) details
  let defaults := ["currency"] ++ if isCustomer then ["sales_partner", "commission_rate"] else []
  defaults.foldlM (fun (details : Value) name => do
    let value ← party.get ("default_" ++ name)
    if value.truth then details.setKey name value else return details) details

def nameParents (accounts : Value) : Outcome Value := do
  let keyed ← (← accounts.items).mapM fun account => do
    let number ← account.field "account_number"
    let name ← account.field "account_name"
    let key ← if number.truth then Value.plus (← Value.plus number (.str " - ")) name else pure name
    return (← account.field "name", ← account.setField "account_key" key, key)
  let keys := Value.ofEntries (keyed.map fun (name, _, key) => (name, key))
  return .list (← keyed.mapM fun (_, account, _) => do
    let parent ← account.field "parent_account"
    if parent.truth then account.setKey "parent_account_name" (← keys.getD parent .null)
    else return account)

def sumLabels : Value :=
  .ofFields ([("opening", "Opening"), ("total", "Total"), ("closing", "Closing (Opening + Total)")].map
    fun (name, label) => (name, .str ("'" ++ label ++ "'")))

/-- The filters of a ledger with the currency that it is shown in. Filters on neither an account nor
a single party leave that open. -/
def currencyFilters (filters : Value) : Outcome Value := do
  let account ← filters.get "account"
  let party ← filters.get "party"
  let isSingle ← if account.truth || !party.truth then pure false
    else pure ((← (← filters.field "party").size) == 1)
  if account.truth || isSingle then
    throw (.failed "the currency of the account is not known here")
  return filters

end ErpLens.Accounts.Ledger
