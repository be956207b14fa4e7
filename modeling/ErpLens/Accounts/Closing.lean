import ErpLens.Value.Arithmetic

/-!
# Budgets, exchange rates and closing a period

At the end of a period the entries of profit and loss are turned round, and all entries are marked
with the voucher that closes the period.
-/

namespace ErpLens.Accounts

def budgetActions (request budget : Value) : Outcome (Value × Value) := do
  let yearly ← budget.field "action_if_annual_budget_exceeded"
  let monthly ← budget.field "action_if_accumulated_monthly_budget_exceeded"
  let kind ← request.get "doctype"
  let isFor (name : String) : Outcome Bool := return (← budget.field name).truth
  if kind.isText "Material Request" then
    if ← isFor "for_material_request" then
      return (← budget.field "action_if_annual_budget_exceeded_on_mr",
        ← budget.field "action_if_accumulated_monthly_budget_exceeded_on_mr")
  if kind.isText "Purchase Order" then
    if ← isFor "for_purchase_order" then
      return (← budget.field "action_if_annual_budget_exceeded_on_po",
        ← budget.field "action_if_accumulated_monthly_budget_exceeded_on_po")
  return (yearly, monthly)

def exchangeServices : List (String × String) := [
  ("exchangerate.host", "api.exchangerate.host/convert"),
  ("frankfurter.app", "api.frankfurter.app/\x7btransaction_date\x7d"),
  ("frankfurter.dev", "api.frankfurter.dev/v1/\x7btransaction_date\x7d")]

def exchangeAddress (service unencrypted : Value) : Option String :=
  match service with
  | .str name =>
    (exchangeServices.lookup name).map ((if unencrypted.truth then "http://" else "https://") ++ ·)
  | _ => none

end ErpLens.Accounts

namespace ErpLens.Accounts.Closing

def reversed (voucher entry : Value) : Outcome Value := do
  entry.setFields [
    ("debit", ← entry.field "credit"), ("credit", ← entry.field "debit"),
    ("debit_in_account_currency", ← entry.field "credit_in_account_currency"),
    ("credit_in_account_currency", ← entry.field "debit_in_account_currency"),
    ("is_period_closing_voucher_entry", .int 0), ("period_closing_voucher", ← voucher.field "name")]

def withReversals (entries voucher : Value) : Outcome Value := do
  let rows ← entries.items
  return .list (rows ++ (← rows.mapM (reversed voucher)))

def marked (entries voucher : Value) : Outcome Value :=
  entries.mapItems fun entry => do
    entry.setField "period_closing_voucher" (← voucher.field "name")

def profitEntries (voucher : Value) : Outcome Value := do
  withReversals (← voucher.field "pl_accounts_reverse_gle") voucher

def accountEntries (voucher : Value) : Outcome Value := do
  marked (← voucher.field "closing_account_gle") voucher

def keysAsText (balances : Value) : Outcome Value := do
  return .ofEntries (← (← balances.entries).mapM fun (key, value) => do
    return (.str (",".intercalate ((← key.items).map Value.text)), value))

end ErpLens.Accounts.Closing
