import ErpLens.Reports.Column
import ErpLens.Value.Arithmetic

/-!
# Columns of buying and selling

The columns of reports on leads, orders, suppliers and customers.
-/

namespace ErpLens.Reports.Columns

def itemWisePurchaseHistory : Report := .fixed "Item-wise Purchase History" [
  .item 120, .data "item_name" 140, .document "item_group" 120, .data "description" 140,
  .number "quantity" 120, .ofKind "uom" "UOM" 90, .titled "rate" .ownAmount 120,
  .titled "amount" .ownAmount 120, .document "purchase_order" 160, .date "transaction_date" 110,
  .document "supplier" 100, .data "supplier_name" 140, .document "supplier_group" 120,
  .document "project" 100, .of "received_qty" "Received Quantity" .number 150,
  .of "billed_amt" "Billed Amount" .ownAmount 120, .document "company" 100,
  Column.hide (.document "currency")]

def procurementTracker : Report := .fixed "Procurement Tracker" [
  .date "material_request_date" 140, .link "material_request_no" "Material Request" 140,
  .document "cost_center" 140, .document "project" 140, .link "requesting_site" "Warehouse" 140,
  .link "requestor" "User" 140, .ofKind "item_code" "Item" 150, .number "quantity" 140,
  .of "unit_of_measurement" "Unit of Measure" (.link "UOM") 140, .titled "status" .lowerData 140,
  .date "purchase_order_date" 140, .document "purchase_order" 140, .document "supplier" 140,
  .number "estimated_cost" 140, .number "actual_cost" 140,
  .of "purchase_order_amt" "Purchase Order Amount" .number 140,
  .of "purchase_order_amt_in_company_currency" "Purchase Order Amount(Company Currency)" .number 140,
  .date "expected_delivery_date" 140, .date "actual_delivery_date" 140]

def purchaseOrderAnalysis : Report := .filtered "Purchase Order Analysis" fun filters => do
  let grouped := (← filters.get "group_by_po").truth
  return List.flatten [[
    .date "date" 90, .of "required_date" "Required By" .date 90, .document "purchase_order" 160,
    .data "status" 130, .document "supplier" 130,
    .document "project" 130], (if grouped then [] else [
    .item 100]), [
    .quantity "qty" "Qty" 120, .quantity "received_qty" "Received Qty" 120,
    .quantity "pending_qty" "Pending Qty" 80, .quantity "billed_qty" "Billed Qty" 80,
    .quantity "qty_to_bill" "Qty to Bill" 80, .rate "amount" "Amount" 110,
    .rate "billed_amount" "Billed Amount" 110, .rate "pending_amount" "Pending Amount" 130,
    .rate "received_qty_amount" "Received Qty Amount" 130, .document "warehouse" 100,
    .document "company" 100]]

def requestedItemsToOrderAndReceive : Report :=
  .filtered "Requested Items to Order and Receive" fun filters => do
  let grouped := (← filters.get "group_by_mr").truth
  return List.flatten [[
    .document "material_request" 150, .date "date" 90,
    .of "required_date" "Required By" .date 100], (if grouped then [] else [
    .item 100, .data "item_name" 100, .data "description" 200, .of "uom" "UOM" .data 100,
    .of "stock_uom" "Stock UOM" .data 100]), [
    .quantity "qty" "Qty" 140, .quantity "stock_qty" "Qty in Stock UOM" 140,
    .quantity "ordered_qty" "Ordered Qty" 120, .quantity "received_qty" "Received Qty" 120,
    .quantity "qty_to_receive" "Qty to Receive" 120, .quantity "qty_to_order" "Qty to Order" 120,
    .document "company" 100]]

def subcontractOrderSummary : Report := .filtered "Subcontract Order Summary" fun filters => do
  let order ← filters.field "order_type"
  return [
    .told [("options", order)]
      (.of "order_id" "Subcontract Order" (.link "") 100),
    .data "status" 80, .of "item_code" "Subcontracted Item" (.link "Item") 160,
    .of "qty" "Order Qty" .number 90, .number "received_qty" 110,
    .of "rm_item_code" "Supplied Item" (.link "Item") 160, .number "required_qty" 110,
    .number "supplied_qty" 110, .number "consumed_qty" 120, .number "returned_qty" 110]

def subcontractedItemToBeReceived : Report :=
  .filtered "Subcontracted Item To Be Received" fun filters => do
  let order ← filters.field "order_type"
  return [
    .told [("options", order)]
      (.link "subcontract_order" "" 150),
    Column.hide (.date "date" 150),
    .document "supplier" 150, .of "fg_item_code" "Finished Good Item Code" .data 100,
    .of "item_name" "Item name" .data 100, .of "required_qty" "Required Quantity" .number 100,
    .of "received_qty" "Received Quantity" .number 100,
    .of "pending_qty" "Pending Quantity" .number 100]

def subcontractedRawMaterialsToBeTransferred : Report :=
  .filtered "Subcontracted Raw Materials To Be Transferred" fun filters => do
  let order ← filters.field "order_type"
  return [
    .told [("options", order)]
      (.link "subcontract_order" "" 200),
    .date "date" 150, .document "supplier" 150, .of "rm_item_code" "Item Code" .data 150,
    .of "reqd_qty" "Required Quantity" .number 150,
    .of "transferred_qty" "Transferred Quantity" .number 200,
    .of "p_qty" "Pending Quantity" .number 150]

def leadConversionTime : Report := .fixed "Lead Conversion Time" [
  .document "customer" 120, .of "interactions" "No of Interactions" .number 120,
  .of "duration" "Duration in Days" .number 120, .number "support_tickets" 120]

def leadDetails : Report := .fixed "Lead Details" [
  .ofKind "name" "Lead" 150, .data "lead_name" 120, .data "status" 100,
  .link "lead_owner" "User" 100, .document "territory" 100, .of "utm_source" "Source" .data 120,
  .of "email_id" "Email" .data 120, .of "mobile_no" "Mobile" .data 120, .data "phone" 120,
  .link "owner" "user" 120, .document "company" 120, .data "address" 130,
  .of "pincode" "Postal Code" .data 90, .data "city" 100, .of "state" "State/Province" .data 100,
  .document "country" 100]

def leadOwnerEfficiency : Report := .fixed "Lead Owner Efficiency" [
  .link "lead_owner" "User" 130, .titled "lead_count" .whole 80, .titled "opp_count" .whole 80,
  .titled "quot_count" .whole 80, .titled "order_count" .whole 100, .number "order_value" 100,
  .of "opp_lead" "Opp/Lead %" .number 100, .of "quot_lead" "Quot/Lead %" .number 100,
  .of "order_quot" "Order/Quot %" .number 100] .textWidths

def lostOpportunity : Report := .fixed "Lost Opportunity" [
  .ofKind "name" "Opportunity" 170, .link "opportunity_from" "DocType" 130,
  .of "party_name" "Party" (.linkBy "opportunity_from") 160,
  .of "customer_name" "Customer/Lead Name" .data 150, .data "opportunity_type" 130,
  .of "lost_reason" "Lost Reasons" .data 220, .document "sales_stage" 150,
  .document "territory" 150]

def prospectsEngagedButNotConverted : Report := .fixed "Prospects Engaged But Not Converted" [
  .document "lead" 130, .titled "name" .untyped 120, .titled "organization" .untyped 120,
  .link "reference_document_type" "Doctype" 100,
  .linkBy "reference_name" "reference_document_type" 140, .data "last_communication" 200,
  .date "last_communication_date" 100]

def availableStockForPackingItems : Report := .fixed "Available Stock for Packing Items" [
  .of "" "Item Code" (.link "Item") 100, .untyped "Item Name" 100, .untyped "Description" 120,
  .ofKind "" "UOM" 80, .ofKind "" "Warehouse" 100, .untyped "Quantity" 100] .brief

def customerWiseItemPrice : Report := .fixed "Customer-wise Item Price" [
  .item 150, .data "item_name" 200, .amount "selling_rate", .number "available_stock" 150,
  .document "price_list" 120]

def inactiveCustomers : Report := .fixed "Inactive Customers" [
  .ofKind "" "Customer" 120, .of "" "Customer Name" .data 120, .untyped "Territory" 120,
  .untyped "Customer Group" 120, .untyped "Number of Order" 120,
  .of "" "Total Order Value" .amount 120, .of "" "Total Order Considered" .amount 160,
  .of "" "Last Order Amount" .amount 160, .of "" "Last Order Date" .date 160,
  .untyped "Days Since Last Order" 160] .brief

def itemWiseSalesHistory : Report := .fixed "Item-wise Sales History" [
  .item 120, .data "item_name" 140, .document "item_group" 120, .data "description" 150,
  .number "quantity" 150, .ofKind "uom" "UOM" 100, .titled "rate" .ownAmount 120,
  .titled "amount" .ownAmount 120, .document "sales_order" 100, .date "transaction_date" 90,
  .document "customer" 100, .data "customer_name" 140, .document "customer_group" 120,
  .document "territory" 100, .document "project" 100, .number "delivered_quantity" 150,
  .titled "billed_amount" .ownAmount 120, .document "company" 100,
  Column.hide (.document "currency")]

def paymentTermsStatusForSalesOrder : Report := .fixed "Payment Terms Status for Sales Order" [
  .ofKind "name" "Sales Order", .document "customer", .of "submitted" "Posting Date" .date,
  .data "payment_term", .data "description", .date "due_date", .titled "invoice_portion" .percent,
  .of "base_payment_amount" "Payment Amount" .ownAmount, .titled "paid_amount" .ownAmount,
  .link "invoices" "Sales Invoice", .data "status",
  Column.hide (.amount "currency")]

def pendingSoItemsForPurchaseRequest : Report := .fixed "Pending SO Items For Purchase Request" [
  .item 200, .data "item_name" 200, .data "description" 140,
  .of "sales_order_no" "S.O. No." (.link "Sales Order") 140, .date "date" 140,
  .data "material_request" 140, .data "customer" 140, .data "territory" 140,
  .of "so_qty" "SO Qty" .number 140, .number "requested_qty" 140, .number "pending_qty" 140,
  .data "company" 140]

def salesOrderAnalysis : Report := .filtered "Sales Order Analysis" fun filters => do
  let grouped := (← filters.get "group_by_so").truth
  return List.flatten [[
    .date "date" 90, .document "sales_order" 160, .data "status" 130,
    .document "customer" 130], (if grouped then [] else [
    .item 100, .titled "description" .smallText 100]), [
    .quantity "qty" "Qty" 120, .quantity "delivered_qty" "Delivered Qty" 120,
    .quantity "pending_qty" "Qty to Deliver" 120, .quantity "billed_qty" "Billed Qty" 80,
    .quantity "qty_to_bill" "Qty to Bill" 80, .rate "amount" "Amount" 110,
    .rate "billed_amount" "Billed Amount" 110, .rate "pending_amount" "Pending Amount" 130,
    .rate "delivered_qty_amount" "Amount Delivered" 100, .date "delivery_date" 120,
    .of "delay" "Delay (in Days)" .data 100,
    .of "time_taken_to_deliver" "Time Taken to Deliver" .duration 100], (if grouped then [] else [
    .document "warehouse" 100]), [
    .document "company" 100]]

def salesPartnerCommissionSummary : Report :=
  .filtered "Sales Partner Commission Summary" fun filters => do
  let document ← filters.key "doctype"
  return [
    .told [("label", document), ("options", document)]
      (.ofKind "name" "" 140),
    .document "customer" 140, .data "currency" 80, .document "territory" 100,
    .date "posting_date" 100, .titled "amount" .ownAmount 120, .document "sales_partner" 140,
    .of "commission_rate" "Commission Rate %" .data 100,
    .titled "total_commission" .ownAmount 120]

def salesPartnerTransactionSummary : Report :=
  .filtered "Sales Partner Transaction Summary" fun filters => do
  let document ← filters.key "doctype"
  return [
    .told [("label", document), ("options", document)]
      (.ofKind "name" "" 140),
    .document "customer" 140, .document "territory" 100, .date "posting_date" 100, .item 100,
    .document "item_group" 100, .document "brand" 100, .of "qty" "Quantity" .number 120,
    .amount "rate" 120, .amount "amount" 120, .document "sales_partner" 140,
    .of "commission_rate" "Commission Rate %" .data 100, .amount "commission" 120,
    .document "currency" 120]

def salesPersonCommissionSummary : Report :=
  .filtered "Sales Person Commission Summary" fun filters => do
  let document ← filters.key "doc_type"
  return [
    .told [("label", document), ("options", document), ("fieldname", document)]
      (.ofKind "" "" 140),
    .document "customer" 140, .document "territory" 100, .date "posting_date" 100,
    .amount "amount" 120, .document "sales_person" 140,
    .of "contribution_percentage" "Contribution %" .data 110,
    .of "commission_rate" "Commission Rate %" .data 100, .amount "contribution_amount" 120,
    .amount "incentives" 120]

def tradeReports : List Report := [
  itemWisePurchaseHistory, procurementTracker, purchaseOrderAnalysis,
  requestedItemsToOrderAndReceive, subcontractOrderSummary, subcontractedItemToBeReceived,
  subcontractedRawMaterialsToBeTransferred, leadConversionTime, leadDetails,
  leadOwnerEfficiency, lostOpportunity, prospectsEngagedButNotConverted,
  availableStockForPackingItems, customerWiseItemPrice, inactiveCustomers,
  itemWiseSalesHistory, paymentTermsStatusForSalesOrder, pendingSoItemsForPurchaseRequest,
  salesOrderAnalysis, salesPartnerCommissionSummary, salesPartnerTransactionSummary,
  salesPersonCommissionSummary]

end ErpLens.Reports.Columns
