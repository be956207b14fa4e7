import ErpLens.Value.Arithmetic

/-!
# Charts of accounts

A chart of accounts is a tree. In its written form the accounts below an account and the details of
the account itself stand side by side, so the fields of details are the names that no account has.
-/

namespace ErpLens.Accounts

def detailFields : List String :=
  ["account_name", "account_number", "account_type", "account_category", "root_type", "is_group",
    "tax_rate", "account_currency"]

def groupMark (account : Value) : Outcome Value := do
  let mark ← account.get "is_group"
  if mark.truth then return mark
  let hasAccounts := (← account.entries).any fun (key, _) => !detailFields.any key.isText
  return .int (if hasAccounts then 1 else 0)

def rootKinds : List String :=
  ["Asset", "Liability", "Expense", "Income", "Equity"]

def neededKinds : List (String × String) := [
  ("Cost of Goods Sold", "Expense"), ("Depreciation", "Expense"), ("Fixed Asset", "Asset"),
  ("Payable", "Liability"), ("Receivable", "Asset"), ("Stock Adjustment", "Expense"),
  ("Bank", "Asset"), ("Cash", "Asset"), ("Stock", "Asset")]

def neededKindRows : List Value :=
  neededKinds.map fun (kind, root) =>
    .ofFields [("account_type", .str kind), ("root_type", .str root)]

def usualAccounts : List (String × String) := [
  ("default_bank_account", "Default Bank Account"),
  ("default_cash_account", "Default Cash Account"),
  ("default_receivable_account", "Default Receivable Account"),
  ("default_payable_account", "Default Payable Account"),
  ("default_expense_account", "Default Expense Account"),
  ("default_income_account", "Default Income Account"),
  ("stock_received_but_not_billed", "Stock Received But Not Billed Account"),
  ("stock_adjustment_account", "Stock Adjustment Account"),
  ("write_off_account", "Write Off Account"),
  ("default_discount_account", "Default Payment Discount Account"),
  ("unrealized_profit_loss_account", "Unrealized Profit / Loss Account"),
  ("exchange_gain_loss_account", "Exchange Gain / Loss Account"),
  ("unrealized_exchange_gain_loss_account", "Unrealized Exchange Gain / Loss Account"),
  ("round_off_account", "Round Off Account"),
  ("default_deferred_revenue_account", "Default Deferred Revenue Account"),
  ("default_deferred_expense_account", "Default Deferred Expense Account"),
  ("accumulated_depreciation_account", "Accumulated Depreciation Account"),
  ("depreciation_expense_account", "Depreciation Expense Account"),
  ("disposal_account", "Gain/Loss Account on Asset Disposal")]

def ofTexts (texts : List (String × String)) : Value :=
  .ofFields (texts.map fun (name, text) => (name, .str text))

structure AccountDetails where
  kind : String := ""
  category : String := ""
  root : String := ""
  isGroup : Bool := false
  /-- Whether the account is only in charts with numbers. -/
  isExtra : Bool := false

inductive ChartAccount where
  | account (name number : String) (details : AccountDetails) (below : List ChartAccount)

namespace AccountDetails

def entries (details : AccountDetails) : Fields :=
  let texts := [("account_type", details.kind), ("account_category", details.category),
    ("root_type", details.root)]
  (texts.filter fun (_, text) => !text.isEmpty).map (fun (name, text) => (name, .str text)) ++
    if details.isGroup then [("is_group", .int 1)] else []

end AccountDetails

namespace ChartAccount

def leaf (name number category : String) (kind : String := "") : ChartAccount :=
  .account name number { kind, category } []

def group (name number : String) (below : List ChartAccount) : ChartAccount :=
  .account name number {} below

mutual

def write (numbered : Bool) : ChartAccount → Fields
  | .account name number details below =>
    if details.isExtra && !numbered then []
    else [(name, .ofFields (writeAll numbered below ++ details.entries ++
      if numbered then [("account_number", .str number)] else []))]

def writeAll (numbered : Bool) : List ChartAccount → Fields
  | [] => []
  | first :: rest => first.write numbered ++ writeAll numbered rest

end

end ChartAccount

def chartValue (numbered : Bool) (accounts : List ChartAccount) : Value :=
  .ofFields (ChartAccount.writeAll numbered accounts)

end ErpLens.Accounts
