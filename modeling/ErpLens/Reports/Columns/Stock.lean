import ErpLens.Reports.Column
import ErpLens.Value.Arithmetic

/-!
# Columns of stock

The columns of reports on items, batches, serial numbers and warehouses.
-/

namespace ErpLens.Reports.Columns

def availableBatchReport : Report := .filtered "Available Batch Report" fun filters => do
  let named := (← filters.field "show_item_name").truth
  return List.flatten [[
    .item 200], (if named then [
    .link "item_name" "Item" 200] else []), [
    .document "warehouse" 200, .link "batch_no" "Batch" 150, .date "expiry_date" 120,
    .number "balance_qty" 150]]

def availableSerialNo : Report := .filtered "Available Serial No" fun filters => do
  let kind ← filters.field "valuation_field_type"
  let currency : Value :=
    if kind.isText "Currency" then .str "Company:company:default_currency" else .null
  return [
    .titled "date" .moment 150, .ofKind "item_code" "Item" 100, .titled "item_name" .untyped 100,
    .ofKind "stock_uom" "UOM" 60, .quantity "in_qty" "In Qty" 80, .quantity "out_qty" "Out Qty" 80,
    .quantity "qty_after_transaction" "Balance Qty" 100, .document "warehouse" 150,
    .of "serial_no" "Serial No (In/Out)" .untyped 150, .titled "balance_serial_no" .untyped 150,
    .rate "incoming_rate" "Incoming Rate" 110, .told [("fieldtype", kind), ("options", currency)]
      (.rate "valuation_rate" "Avg Rate (Balance Stock)" 180),
    .told [("fieldtype", kind), ("options", currency)]
      (.rate "in_out_rate" "Valuation Rate" 140),
    .of "stock_value" "Balance Value" .companyAmount 110,
    .of "stock_value_difference" "Value Change" .companyAmount 110,
    .ofKind "serial_and_batch_bundle" "Serial and Batch Bundle" 100,
    .titled "voucher_type" .untyped 110, .of "voucher_no" "Voucher #" (.linkBy "voucher_type") 100,
    .document "company" 110]

def batchItemExpiryStatus : Report := .fixed "Batch Item Expiry Status" [
  .ofKind "" "Item" 150, .untyped "Item Name" 150, .ofKind "" "Batch" 150,
  .of "" "Stock UOM" (.link "UOM") 100, .of "" "Quantity" .number 100,
  .of "" "Expires On" .date 100, .of "" "Expiry (In Days)" .whole 130] .brief

def batchWiseBalanceHistory : Report := .fixed "Batch-Wise Balance History" [
  .ofKind "" "Item" 100, .untyped "Item Name" 120, .untyped "Description" 90,
  .ofKind "" "Warehouse" 100, .ofKind "" "Batch" 100, .of "" "Opening Qty" .number 90,
  .of "" "In Qty" .number 80, .of "" "Out Qty" .number 80, .of "" "Balance Qty" .number 120,
  .of "" "Valuation Rate" .number 120, .of "" "Balance Value" .amount 120, .untyped "UOM" 90] .brief

def cogsByItemGroup : Report := .fixed "COGS By Item Group" [
  .data "item_group" 200, .of "cogs_debit" "COGS Debit" .amount 200] .textWidths

def fifoQueueVsQtyAfterTransactionComparison : Report :=
  .fixed "FIFO Queue vs Qty After Transaction Comparison" [
  .ofKind "name" "Stock Ledger Entry", .item, .document "warehouse", .data "posting_date",
  .data "posting_time", .data "creation", .link "voucher_type" "DocType", .voucher,
  .ofKind "batch_no" "Batch", .of "use_batchwise_valuation" "Batchwise Valuation" .check,
  .of "actual_qty" "Qty Change" .number,
  .of "qty_after_transaction" "(A) Qty After Transaction" .number,
  .of "stock_queue" "FIFO/LIFO Queue" .data, .of "fifo_queue_qty" "(C) Total qty in queue" .number,
  .of "fifo_qty_diff" "A - C" .number, .of "stock_value" "(D) Balance Stock Value" .number,
  .of "fifo_stock_value" "(E) Balance Stock Value in Queue" .number,
  .of "fifo_value_diff" "D - E" .number, .of "valuation_rate" "(H) Valuation Rate" .number]

def incorrectBalanceQtyAfterTransaction : Report :=
  .fixed "Incorrect Balance Qty After Transaction" [
  .of "name" "Id" (.link "Stock Ledger Entry") 120, .date "posting_date" 110,
  .link "voucher_type" "DocType" 120, .voucher 120, .item 120, .document "warehouse" 120,
  .number "expected_balance_qty" 170, .of "qty_after_transaction" "Actual Balance Qty" .number 150,
  .of "differnce" "Difference" .number 110]

def incorrectSerialAndBatchBundle : Report := .fixed "Incorrect Serial and Batch Bundle" [
  .ofKind "name" "Serial and Batch Bundle" 200, .data "voucher_type" 200, .voucher 200,
  .data "voucher_detail_no" 200, .titled "is_cancelled" .check 200]

def incorrectSerialNoValuation : Report := .fixed "Incorrect Serial No Valuation" [
  .document "company" 120, .of "name" "Id" (.link "Stock Ledger Entry") 120,
  .date "posting_date" 90, .titled "posting_time" .time 90, .link "voucher_type" "DocType" 100,
  .voucher 110, .item 120, .document "warehouse" 120, .document "serial_no" 100, .number "qty" 80,
  .of "valuation_rate" "Valuation Rate (In / Out)" .amount 110]

def incorrectStockValueReport : Report := .fixed "Incorrect Stock Value Report" [
  .of "name" "Stock Ledger ID" (.link "Stock Ledger Entry") 80, .date "posting_date",
  .titled "posting_time" .time, .titled "voucher_type" .untyped 110, .voucher 110, .item 110,
  .document "warehouse" 110, .amount "expected_stock_value" 150, .amount "stock_value" 120,
  .amount "difference_value" 150] .textWidths

def itemPriceStock : Report := .fixed "Item Price Stock" [
  .item 120, .data "item_name" 120, .data "brand" 100, .document "warehouse" 120,
  .number "stock_available" 120, .link "buying_price_list" "Price List" 120,
  .amount "buying_rate" 120, .link "selling_price_list" "Price List" 120,
  .amount "selling_rate" 120]

def itemPrices : Report := .fixed "Item Prices" [
  .ofKind "" "Item" 100, .untyped "Item Name" 150, .ofKind "" "Item Group" 125,
  .untyped "Brand" 100, .untyped "Description" 150, .ofKind "" "UOM" 80,
  .of "" "Last Purchase Rate" .amount 90, .of "" "Valuation Rate" .amount 80,
  .untyped "Sales Price List" 180, .untyped "Purchase Price List" 180,
  .of "" "BOM Rate" .amount 90] .brief

def itemShortageReport : Report := .fixed "Item Shortage Report" [
  .document "warehouse" 150, .ofKind "item_code" "Item" 150,
  .quantity "actual_qty" "Actual Quantity" 120, .quantity "ordered_qty" "Ordered Quantity" 120,
  .quantity "planned_qty" "Planned Quantity" 120, .quantity "reserved_qty" "Reserved Quantity" 120,
  .quantity "reserved_qty_for_production" "Reserved Quantity for Production" 120,
  .quantity "projected_qty" "Projected Quantity" 120, .document "company" 120,
  .data "item_name" 100, .data "description" 120]

def itemwiseRecommendedReorderLevel : Report := .fixed "Itemwise Recommended Reorder Level" [
  .ofKind "" "Item" 120, .of "" "Item Name" .data 120, .ofKind "" "Item Group" 100,
  .ofKind "" "Brand" 100, .untyped "Description" 160, .of "" "Safety Stock" .number 160,
  .of "" "Lead Time Days" .number 120, .of "" "Consumed" .number 120,
  .of "" "Delivered" .number 120, .of "" "Total Outgoing" .number 120,
  .of "" "Avg Daily Outgoing" .number 160, .of "" "Reorder Level" .number 120] .brief

def landedCostReport : Report := .fixed "Landed Cost Report" [
  .of "name" "Landed Cost Id" (.link "Landed Cost Voucher"),
  .of "landed_cost" "Total Landed Cost" .amount,
  .of "voucher_type" "Purchase Voucher Type" .data 200,
  .of "voucher_no" "Purchase Voucher No" (.linkBy "voucher_type") 220,
  .link "vendor_invoice" "Purchase Invoice" 200]

def productBundleBalance : Report := .fixed "Product Bundle Balance" [
  .ofKind "item_code" "Item" 300, .document "warehouse" 100, .ofKind "uom" "UOM" 70,
  .number "bundle_qty" 100, .number "actual_qty" 100, .number "minimum_qty" 100,
  .document "item_group" 100, .document "brand" 100, .titled "description" .untyped 140,
  .document "company" 100]

def reservedStock : Report := .fixed "Reserved Stock" [
  .titled "date" .moment 150, .document "warehouse" 150, .ofKind "item_code" "Item" 100,
  .of "stock_uom" "Stock UOM" (.link "UOM") 100, .quantity "voucher_qty" "Voucher Qty" 110,
  .quantity "reserved_qty" "Reserved Qty" 110, .quantity "delivered_qty" "Delivered Qty" 110,
  .quantity "available_qty" "Available Qty to Reserve" 120, .data "voucher_type" 110, .voucher 120,
  .data "from_voucher_type" 110, .linkBy "from_voucher_no" "from_voucher_type" 120,
  .document "stock_reservation_entry" 150, .data "status" 120, .document "project" 100,
  .document "company" 110]

def serialNoLedger : Report := .fixed "Serial No Ledger" [
  .date "posting_date" 120, .titled "posting_time" .time 90, .data "voucher_type" 160, .voucher 230,
  .document "company" 120, .document "warehouse" 120, .data "status" 90, .document "serial_no" 130,
  .number "valuation_rate" 130, .number "qty" 150, .data "party_type" 90,
  .linkBy "party" "party_type" 120]

def stockAndAccountValueComparison : Report := .fixed "Stock and Account Value Comparison" [
  .of "name" "Stock Ledger ID" (.link "Stock Ledger Entry") 80, .date "posting_date",
  .titled "posting_time" .time, .titled "voucher_type" .untyped 110, .voucher 110,
  .amount "stock_value" 120, .amount "account_value" 120,
  .amount "difference_value" 120] .textWidths

def ledgerCheckColumns : List Column := [
  .of "use_batchwise_valuation" "Batchwise Valuation" .check, .of "actual_qty" "Qty Change" .number,
  .number "incoming_rate", .number "consumption_rate",
  .of "qty_after_transaction" "(A) Qty After Transaction" .number,
  .of "expected_qty_after_transaction" "(B) Expected Qty After Transaction" .number,
  .of "difference_in_qty" "A - B" .number, .of "stock_queue" "FIFO/LIFO Queue" .data,
  .of "fifo_queue_qty" "(C) Total Qty in Queue" .number, .of "fifo_qty_diff" "A - C" .number,
  .of "stock_value" "(D) Balance Stock Value" .number,
  .of "fifo_stock_value" "(E) Balance Stock Value in Queue" .number,
  .of "fifo_value_diff" "D - E" .number,
  .of "stock_value_difference" "(F) Change in Stock Value" .number,
  .of "stock_value_from_diff" "(G) Sum of Change in Stock Value" .number,
  .of "diff_value_diff" "G - D" .number,
  .of "fifo_stock_diff" "(H) Change in Stock Value (FIFO Queue)" .number,
  .of "fifo_difference_diff" "H - F" .number, .of "valuation_rate" "(I) Valuation Rate" .number,
  .of "fifo_valuation_rate" "(J) Valuation Rate as per FIFO" .number,
  .of "fifo_valuation_diff" "I - J" .number,
  .of "balance_value_by_qty" "(K) Valuation = Value (D) ÷ Qty (A)" .number,
  .of "valuation_diff" "I - K" .number]

def stockLedgerInvariantCheck : Report := .fixed "Stock Ledger Invariant Check" ([
  .ofKind "name" "Stock Ledger Entry", .data "posting_date", .data "posting_time", .data "creation",
  .link "voucher_type" "DocType", .voucher, .ofKind "batch_no" "Batch",
  .ofKind "serial_and_batch_bundle" "Serial and Batch Bundle"] ++ ledgerCheckColumns)

def stockLedgerVariance : Report := .fixed "Stock Ledger Variance" ([
  .ofKind "name" "Stock Ledger Entry", .data "posting_date", .data "posting_time", .data "creation",
  .ofKind "item_code" "Item", .document "warehouse", .data "valuation_method",
  .link "voucher_type" "DocType", .voucher, .ofKind "batch_no" "Batch"] ++ ledgerCheckColumns)

def stockProjectedQty : Report := .fixed "Stock Projected Qty" [
  .item 140, .titled "item_name" .untyped 100, .titled "description" .untyped 200,
  .document "item_group" 100, .document "brand" 100, .document "warehouse" 120,
  .ofKind "stock_uom" "UOM" 100, .quantity "actual_qty" "Actual Qty" 100,
  .quantity "planned_qty" "Planned Qty" 100, .quantity "indented_qty" "Requested Qty" 110,
  .quantity "ordered_qty" "Ordered Qty" 100, .quantity "reserved_qty" "Reserved Qty" 100,
  .quantity "reserved_qty_for_production" "Reserved for Production" 100,
  .quantity "reserved_qty_for_production_plan" "Reserved for Production Plan" 100,
  .quantity "reserved_qty_for_sub_contract" "Reserved for Sub Contracting" 100,
  .quantity "reserved_qty_for_pos" "Reserved for POS Transactions" 100,
  .quantity "projected_qty" "Projected Qty" 100, .quantity "re_order_level" "Reorder Level" 100,
  .quantity "re_order_qty" "Reorder Qty" 100, .quantity "shortage_qty" "Shortage Qty" 100]

def stockQtyVsBatchQty : Report := .fixed "Stock Qty vs Batch Qty" [
  .item 200, .data "item_name" 200, .document "batch" 200, .number "batch_qty" 150,
  .number "stock_qty" 150, .number "difference" 150]

def stockQtyVsSerialNoCount : Report := .fixed "Stock Qty vs Serial No Count" [
  .item 200, .data "item_name" 200, .of "total" "Serial No Count" .number 150,
  .number "stock_qty" 150, .number "difference" 150]

def supplierWiseSalesAnalytics : Report := .fixed "Supplier-Wise Sales Analytics" [
  .ofKind "" "Item" 100, .untyped "Item Name" 100, .untyped "Description" 150, .ofKind "" "UOM" 90,
  .of "" "Consumed Qty" .number 110, .of "" "Consumed Amount" .amount 130,
  .of "" "Delivered Qty" .number 110, .of "" "Delivered Amount" .amount 130,
  .of "" "Total Qty" .number 110, .of "" "Total Amount" .amount 130,
  .untyped "Supplier(s)" 250] .brief

def totalStockSummary : Report := .filtered "Total Stock Summary" (fun filters => do
  let first : Column := if (← filters.get "group_by").isText "Warehouse"
    then .ofKind "" "Warehouse" 150
    else .ofKind "" "Company" 250
  return [
    first,
    .ofKind "" "Item" 150, .untyped "Description" 300, .of "" "Current Qty" .number 100]) .brief

def warehouseWiseItemBalanceAgeAndValue : Report :=
  .fixed "Warehouse wise Item Balance Age and Value" [
  .ofKind "" "Item" 150, .of "" "Item Name" (.link "Item") 150, .untyped "Item Group" 120,
  .ofKind "" "Brand" 120, .of "" "Value" .amount 120, .of "" "Age" .number 120] .brief

def warehouseWiseStockBalance : Report := .filtered "Warehouse Wise Stock Balance" fun filters => do
  let withDisabled := (← filters.get "show_disabled_warehouses").truth
  return List.flatten [[
    .ofKind "name" "Warehouse" 200, .number "stock_balance" 150], if withDisabled then [
    .of "disabled" "Warehouse Disabled?" .check 200] else []]

def stockReports : List Report := [
  availableBatchReport, availableSerialNo, batchItemExpiryStatus,
  batchWiseBalanceHistory, cogsByItemGroup, fifoQueueVsQtyAfterTransactionComparison,
  incorrectBalanceQtyAfterTransaction, incorrectSerialAndBatchBundle, incorrectSerialNoValuation,
  incorrectStockValueReport, itemPriceStock, itemPrices,
  itemShortageReport, itemwiseRecommendedReorderLevel, landedCostReport,
  productBundleBalance, reservedStock, serialNoLedger,
  stockAndAccountValueComparison, stockLedgerInvariantCheck, stockLedgerVariance,
  stockProjectedQty, stockQtyVsBatchQty, stockQtyVsSerialNoCount,
  supplierWiseSalesAnalytics, totalStockSummary, warehouseWiseItemBalanceAgeAndValue,
  warehouseWiseStockBalance]

end ErpLens.Reports.Columns
