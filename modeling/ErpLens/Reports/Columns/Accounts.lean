import ErpLens.Reports.Column
import ErpLens.Value.Arithmetic

/-!
# Columns of accounts

The columns of reports on accounts, payments, shares and taxes.
-/

namespace ErpLens.Reports.Columns

def accountBalance : Report := .fixed "Account Balance" [
  .document "account" 200,
  Column.hide (.document "currency" 100),
  .titled "balance" .ownAmount 100]

def assetDepreciationLedger : Report := .fixed "Asset Depreciation Ledger" [
  .document "asset" 120, .data "asset_name" 140, .date "depreciation_date" 120,
  .of "net_purchase_amount" "Purchase Amount" .amount 120,
  .amount "opening_accumulated_depreciation" 140, .amount "depreciation_amount" 140,
  .amount "accumulated_depreciation_amount" 210, .amount "value_after_depreciation" 180,
  .link "depreciation_entry" "Journal Entry" 140, .document "asset_category" 120,
  .document "cost_center" 100, .of "status" "Current Status" .data 120, .date "purchase_date" 120]

def bankClearanceSummary : Report := .fixed "Bank Clearance Summary" [
  .data "payment_document_type" 130, .linkBy "payment_entry" "payment_document_type" 140,
  .date "posting_date" 120, .of "cheque_no" "Cheque/Reference No" .untyped 120,
  .date "clearance_date" 120, .of "against" "Against Account" (.link "Account") 200,
  .amount "amount" 120]

def bankReconciliationStatement : Report := .fixed "Bank Reconciliation Statement" [
  .date "posting_date" 90, .of "payment_document" "Payment Document Type" .data 220,
  .of "payment_entry" "Payment Document" (.linkBy "payment_document") 220,
  .titled "debit" (.amountIn "account_currency") 120,
  .titled "credit" (.amountIn "account_currency") 120, .link "against_account" "Account" 200,
  .of "reference_no" "Reference" .data 100, .date "ref_date" 110, .date "clearance_date" 110,
  .ofKind "account_currency" "Currency" 100]

def billedItemsToBeReceived : Report := .fixed "Billed Items To Be Received" [
  .ofKind "name" "Purchase Invoice" 170, .document "supplier" 120, .date "posting_date" 100,
  .item 100, .data "item_name" 100, .ofKind "uom" "UOM" 100, .of "qty" "Invoiced Qty" .number 100,
  .number "received_qty" 100, .amount "rate" 100, .amount "amount" 100]

def calculatedDiscountMismatch : Report := .fixed "Calculated Discount Mismatch" [
  .of "doctype" "Transaction Type" (.link "DocType") 120,
  .of "docname" "Transaction Name" (.linkBy "doctype") 150,
  .of "actual_discount_percentage" "Discount Percentage in Transaction" .percent 180,
  .of "actual_discount_amount" "Discount Amount in Transaction" .amount 180,
  .amount "suspected_discount_amount" 180]

def chequesAndDepositsIncorrectlyCleared : Report :=
  .fixed "Cheques and Deposits Incorrectly cleared" [
  .of "payment_document" "Payment Document Type" .data 220,
  .of "payment_entry" "Payment Document" (.linkBy "payment_document") 220,
  .titled "debit" (.amountIn "account_currency") 120,
  .titled "credit" (.amountIn "account_currency") 120, .date "posting_date" 110,
  .date "clearance_date" 110]

def consolidatedTrialBalance : Report := .fixed "Consolidated Trial Balance" [
  .of "account_name" "Account" .data 300,
  Column.hide (.of "acc_name" "Account Name" .data 250),
  Column.hide (.of "acc_number" "Account Number" .data 120),
  Column.hide (.document "currency"),
  .of "opening_debit" "Opening (Dr)" .ownAmount 120,
  .of "opening_credit" "Opening (Cr)" .ownAmount 120, .titled "debit" .ownAmount 120,
  .titled "credit" .ownAmount 120, .of "closing_debit" "Closing (Dr)" .ownAmount 120,
  .of "closing_credit" "Closing (Cr)" .ownAmount 120]

def deliveredItemsToBeBilled : Report := .fixed "Delivered Items To Be Billed" [
  .ofKind "name" "Delivery Note" 160, .date "date" 100, .document "customer" 120,
  .data "customer_name" 120, .item 120, .titled "amount" .companyAmount 100,
  .titled "billed_amount" .companyAmount 100, .titled "returned_amount" .companyAmount 120,
  .titled "pending_amount" .companyAmount 120, .data "item_name" 120, .data "description" 120,
  .document "project" 120]

def inactiveSalesItems : Report := .fixed "Inactive Sales Items" [
  .document "territory" 100, .document "item_group" 150, .document "item" 150,
  .data "item_name" 150, .document "customer" 100, .date "last_order_date" 100,
  .of "qty" "Quantity" .number 100, .titled "days_since_last_order" .whole 100]

def invalidLedgerEntries : Report := .fixed "Invalid Ledger Entries" [
  .link "voucher_type" "DocType", .voucher]

def paymentPeriodBasedOnInvoiceDate : Report :=
  .filtered "Payment Period Based On Invoice Date" fun filters => do
  let outgoing := (← filters.get "payment_type").isText "Outgoing"
  let invoice : Value := .str (if outgoing then "Purchase Invoice" else "Sales Invoice")
  return [
    .of "payment_document" "Payment Document Type" .data 100,
    .of "payment_entry" "Payment Document" (.linkBy "payment_document") 160, .data "party_type" 100,
    .linkBy "party" "party_type" 160, .date "posting_date" 100, .told [("options", invoice)]
      (.link "invoice" "" 160),
    .date "invoice_posting_date" 100, .of "due_date" "Payment Due Date" .date 100,
    .amount "amount" 140, .data "remarks" 200, .titled "age" .whole 50,
    .of "range1" "0-30" .amount 140, .of "range2" "30-60" .amount 140,
    .of "range3" "60-90" .amount 140, .of "range4" "90 Above" .amount 140,
    .of "delay_in_payment" "Delay in payment (Days)" .whole 100]

def posRegister : Report := .fixed "POS Register" [
  .date "posting_date" 90, .ofKind "pos_invoice" "POS Invoice" 120, .document "customer" 120,
  .ofKind "pos_profile" "POS Profile" 160, .of "owner" "Cashier" (.link "User") 140,
  .titled "grand_total" .companyAmount 120, .titled "paid_amount" .companyAmount 120,
  .of "mode_of_payment" "Payment Method" .data 150, .data "is_return" 80, .document "company" 120]

def profitabilityAnalysis : Report := .filtered "Profitability Analysis" fun filters => do
  let basis ← filters.get "based_on"
  return [
    .told [("label", basis), ("options", basis)]
      (.ofKind "account" "" 300),
    Column.hide (.document "currency"),
    .titled "income" .ownAmount 305, .titled "expense" .ownAmount 305,
    .of "gross_profit_loss" "Gross Profit / Loss" .ownAmount 307]

def receivedItemsToBeBilled : Report := .fixed "Received Items To Be Billed" [
  .ofKind "name" "Purchase Receipt" 160, .date "date" 100, .document "supplier" 120,
  .data "supplier_name" 120, .item 120, .titled "amount" .companyAmount 100,
  .titled "billed_amount" .companyAmount 100, .titled "returned_amount" .companyAmount 120,
  .titled "pending_amount" .companyAmount 120, .data "item_name" 120, .data "description" 120,
  .document "project" 120]

def paymentColumns : List Column := [
  .of "" "Date" .date 80, .of "" "Owner" .data 200, .of "" "Payment Mode" .data 240,
  .of "" "Sales and Returns" .ownAmount 120, .of "" "Taxes" .ownAmount 120,
  .of "" "Payments" .ownAmount 120]

def shopPaymentColumns : List Column := paymentColumns ++ [
  .of "" "Warehouse" .data 200, .of "" "Cost Center" .data 200]

def shopPaymentSummary : Report := .fixed "Shop Payment Summary" shopPaymentColumns .brief

def salesPaymentSummary : Report := .filtered "Sales Payment Summary" (fun filters => do
  return if (← filters.get "is_pos").truth then shopPaymentColumns else paymentColumns) .brief

def shareBalance : Report := .fixed "Share Balance" [
  .ofKind "" "Shareholder" 150, .untyped "Share Type" 90, .untyped "No of Shares" 90,
  .of "" "Average Rate" .amount 90, .of "" "Amount" .amount 90] .brief

def shareLedger : Report := .fixed "Share Ledger" [
  .ofKind "" "Shareholder" 150, .of "" "Date" .date 100, .untyped "Transfer Type" 140,
  .untyped "Share Type" 90, .untyped "No of Shares" 90, .of "" "Rate" .amount 90,
  .of "" "Amount" .amount 90, .untyped "Company" 150, .ofKind "" "Share Transfer" 90] .brief

def taxWithholdingDetails : Report := .filtered "Tax Withholding Details" fun filters => do
  let party ← filters.getD (.str "party_type") (.str "Party")
  let nameLabel : Value := .str (party.text ++ " Name")
  return [
    .link "section_code" "Tax Withholding Category" 90, .data "tax_id" 60,
    .told [("label", nameLabel)]
      (.of "party_name" "" .data 180),
    .told [("label", party)]
      (.of "party" "" (.linkBy "party_type") 180),
    .data "entity_type" 100, .data "supplier_invoice_no" 120, .date "supplier_invoice_date" 120,
    .of "rate" "Tax Rate %" .percent 60, .amount "total_amount" 120, .amount "base_total" 120,
    .amount "tax_amount" 120, .amount "grand_total" 120,
    .of "taxable_date" "Reference Date" .date 100, .data "transaction_type" 130,
    .of "ref_no" "Reference No." (.linkBy "transaction_type") 180,
    .of "transaction_date" "Date of Transaction" .date 100,
    .of "withholding_name" "Withholding Document" (.linkBy "withholding_doctype") 150]

def tdsComputationSummary : Report := .filtered "TDS Computation Summary" fun filters => do
  let partyKind ← filters.get "party_type"
  let party ← filters.getD (.str "party_type") (.str "Party")
  let nameLabel : Value := .str (party.text ++ " Name")
  return [
    .data "tax_id" 90, .told [("label", partyKind)]
      (.of "party" "" (.linkBy "party_type") 180),
    .told [("label", nameLabel)]
      (.of "party_name" "" .data 180),
    .link "section_code" "Tax Withholding Category" 180, .data "entity_type" 180,
    .of "rate" "Tax Rate %" .percent 120, .number "total_amount" 120, .number "tax_amount" 120]

def trialBalance : Report := .fixed "Trial Balance" [
  .document "account" 300,
  Column.hide (.of "acc_name" "Account Name" .data 250),
  Column.hide (.of "acc_number" "Account Number" .data 120),
  Column.hide (.document "currency"),
  .of "opening_debit" "Opening (Dr)" .ownAmount 120,
  .of "opening_credit" "Opening (Cr)" .ownAmount 120, .titled "debit" .ownAmount 120,
  .titled "credit" .ownAmount 120, .of "closing_debit" "Closing (Dr)" .ownAmount 120,
  .of "closing_credit" "Closing (Cr)" .ownAmount 120]

def voucherWiseBalance : Report := .fixed "Voucher-wise Balance" [
  .titled "voucher_type" .untyped 300, .voucher 300, .titled "debit" .ownAmount 300,
  .titled "credit" .ownAmount 300]

def accountReports : List Report := [
  accountBalance, assetDepreciationLedger, bankClearanceSummary,
  bankReconciliationStatement, billedItemsToBeReceived, calculatedDiscountMismatch,
  chequesAndDepositsIncorrectlyCleared, consolidatedTrialBalance, deliveredItemsToBeBilled,
  inactiveSalesItems, invalidLedgerEntries, paymentPeriodBasedOnInvoiceDate,
  posRegister, profitabilityAnalysis, receivedItemsToBeBilled,
  salesPaymentSummary, shareBalance, shareLedger,
  taxWithholdingDetails, tdsComputationSummary, trialBalance,
  voucherWiseBalance]

end ErpLens.Reports.Columns
