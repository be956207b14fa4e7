import ErpLens.Reports.Column
import ErpLens.Value.Arithmetic

/-!
# Registers

The registers of items bought and sold leave out the columns that say the same in all rows of a
group. The register of a point of sale has a row of sums after each group.
-/

namespace ErpLens.Accounts

open Reports

def unlessGrouped (grouping : Value) (groups : List String) (columns : List Column) : List Column :=
  if groups.any grouping.isText then [] else columns

def itemColumns (grouping : Value) (invoice : String) : List Column :=
  unlessGrouped grouping ["Item"] [
    .link "item_code" "Item" 120, .data "item_name" 120] ++
  unlessGrouped grouping ["Item", "Item Group"] [
    .document "item_group" 120] ++ [
  .data "description" 150, .of "invoice" "Invoice" (.link invoice) 150, .date "posting_date" 120]

def priceColumns (grouping : Value) : List Column := [
  .number "stock_qty" 100, .of "stock_uom" "Stock UOM" (.link "UOM") 100,
  .titled "rate" (.numberIn "currency") 100, .titled "amount" (.amountIn "currency") 100] ++
  if grouping.truth then [.of "percent_gt" "% Of Grand Total" .number 80] else []

def register (columns : List Column) (asked : Value) (more : List Column) : Outcome Value := do
  let between ← if asked.truth then asked.items else pure []
  let shown := fun (column : Column) => column.toValue .full
  return .list (columns.map shown ++ between ++ more.map shown)

def purchaseRegister (asked filters : Value) : Outcome Value := do
  let grouping ← filters.get "group_by"
  register
    (itemColumns grouping "Purchase Invoice" ++ unlessGrouped grouping ["Supplier"] [
      .document "supplier" 120, .data "supplier_name" 120])
    asked
    ([.of "credit_to" "Payable Account" (.link "Account") 80,
      .link "mode_of_payment" "Mode of Payment" 120, .document "project" 80, .document "company" 80,
      .document "purchase_order" 100, .document "purchase_receipt" 100,
      .link "expense_account" "Account" 100] ++ priceColumns grouping)

def salesRegister (asked filters : Value) : Outcome Value := do
  let grouping ← filters.get "group_by"
  register
    (itemColumns grouping "Sales Invoice" ++
      unlessGrouped grouping ["Customer"] [
        .document "customer_group" 120] ++
      unlessGrouped grouping ["Customer", "Customer Group"] [
        .document "customer" 120, .data "customer_name" 120])
    asked
    ([.of "debit_to" "Receivable Account" (.link "Account") 80,
      .data "mode_of_payment" 120] ++
      unlessGrouped grouping ["Territory"] [
        .document "territory" 80] ++
      [.document "project" 80,
        .document "company" 80, .document "sales_order" 100, .document "delivery_note" 100,
        .link "income_account" "Account" 100, .document "cost_center" 100] ++ priceColumns grouping)

/-! ## The register of a point of sale -/

def counterGroupField (grouping : Value) : String :=
  match grouping with
  | .str "POS Profile" => "pos_profile"
  | .str "Cashier" => "owner"
  | .str "Customer" => "customer"
  | .str "Payment Method" => "mode_of_payment"
  | _ => ""

def addGroupSum (rows invoices field value : Value) : Outcome Value := do
  let invoices ← invoices.items
  let total ← Value.total (← invoices.mapM (·.field "grand_total"))
  let paid ← Value.total (← invoices.mapM (·.field "paid_amount"))
  let sum := Value.ofEntries [(field, value), (.str "grand_total", total),
    (.str "paid_amount", paid), (.str "bold", .int 1)]
  return .list ((← rows.items) ++ [sum, .ofFields []])

end ErpLens.Accounts
