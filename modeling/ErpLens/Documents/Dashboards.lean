import ErpLens.Documents.Dashboard

/-!
# Dashboards of all documents
-/

namespace ErpLens.Documents

def accountDashboards : List Dashboard := [
  .of "Bank" [("Bank Details", ["Bank Account", "Bank Guarantee"])],
  { document := "Cost Center"
    reports := [("Reports", ["Budget Variance Report", "General Ledger"])] },
  { document := "Exchange Rate Revaluation"
    field := some "reference_name"
    groups := [("", ["Journal Entry"])] },
  .of "Finance Book" [
    ("Assets", ["Asset", "Asset Value Adjustment"]), ("", ["Company"]), ("", ["Journal Entry"])] [
    ("Asset", "default_finance_book"), ("Company", "default_finance_book")],
  .of "Fiscal Year" [
    ("Budgets", ["Budget"]), ("References", ["Period Closing Voucher"]),
    ("Target Details", ["Sales Person", "Sales Partner", "Territory", "Monthly Distribution"])] [
    ("Budget", "from_fiscal_year")],
  { document := "Invoice Discounting"
    field := some "reference_name"
    groups := [
      ("Reference", ["Sales Invoice"]), ("Payment", ["Payment Entry", "Journal Entry"])]
    inner := [("Sales Invoice", ["invoices", "sales_invoice"])] },
  .of "Item Tax Template" [
    ("Pre Sales", ["Quotation", "Supplier Quotation"]),
    ("Sales", ["Sales Invoice", "Sales Order", "Delivery Note"]),
    ("Purchase", ["Purchase Invoice", "Purchase Order", "Purchase Receipt"]),
    ("Stock", ["Item Groups", "Item"])],
  .of "Loyalty Program" [("", ["Sales Invoice", "Customer"])],
  .of "Monthly Distribution" [
    ("Target Details", ["Sales Person", "Territory", "Sales Partner"])] [
    ("Sales Person", "distribution_id"), ("Territory", "distribution_id"),
    ("Sales Partner", "distribution_id")],
  .of "Payment Gateway Account" [("", ["Payment Request"]), ("", ["Subscription Plan"])]
    [("Subscription Plan", "payment_gateway")],
  .of "Payment Order" [("", ["Payment Entry", "Journal Entry"])],
  { document := "Payment Request"
    groups := [("Payment", ["Payment Entry", "Payment Order"])]
    inner := [
      ("Payment Entry", ["references", "payment_request"]),
      ("Payment Order", ["references", "payment_order"])] },
  .of "Payment Term" [
    ("Sales", ["Sales Invoice", "Sales Order", "Quotation"]),
    ("Purchase", ["Purchase Invoice", "Purchase Order"]), ("", ["Payment Terms Template"])],
  .of "Payment Terms Template" [
    ("Sales", ["Sales Invoice", "Sales Order", "Quotation"]),
    ("Purchase", ["Purchase Invoice", "Purchase Order"]), ("Party", ["Customer", "Supplier"]),
    ("Group", ["Customer Group", "Supplier Group"])] [
    ("Customer Group", "payment_terms"), ("Supplier Group", "payment_terms"),
    ("Supplier", "payment_terms"), ("Customer", "payment_terms")],
  { document := "Process Payment Reconciliation"
    field := some "process_pr"
    groups := [("Reconciliation Logs", ["Process Payment Reconciliation Log"])] },
  .of "Promotional Scheme" [("Reference", ["Pricing Rule"])],
  { document := "Purchase Invoice"
    groups := [
      ("Payment", ["Payment Entry", "Payment Request", "Journal Entry"]),
      ("Reference", ["Purchase Order", "Purchase Receipt", "Asset", "Landed Cost Voucher"]),
      ("Returns", ["Purchase Invoice"]), ("Subscription", ["Auto Repeat"])]
    fields := [
      ("Journal Entry", "reference_name"), ("Payment Entry", "reference_name"),
      ("Payment Request", "reference_name"), ("Landed Cost Voucher", "receipt_document"),
      ("Purchase Invoice", "return_against"), ("Auto Repeat", "reference_document")]
    inner := [
      ("Purchase Order", ["items", "purchase_order"]),
      ("Purchase Receipt", ["items", "purchase_receipt"])] },
  { document := "Purchase Taxes and Charges Template"
    field := some "taxes_and_charges"
    groups := [
      ("Transactions", ["Purchase Invoice", "Purchase Order", "Purchase Receipt"]),
      ("References", ["Supplier Quotation", "Tax Rule"])]
    fields := [("Tax Rule", "purchase_tax_template")] },
  { document := "Sales Invoice"
    groups := [
      ("Payment", ["Payment Entry", "Payment Request", "Journal Entry", "Invoice Discounting",
        "Dunning"]),
      ("Reference", ["Timesheet", "Delivery Note", "Sales Order"]), ("Returns", ["Sales Invoice"]),
      ("Subscription", ["Auto Repeat"]), ("Internal Transfers", ["Purchase Invoice"])]
    fields := [
      ("Delivery Note", "against_sales_invoice"), ("Journal Entry", "reference_name"),
      ("Payment Entry", "reference_name"), ("Payment Request", "reference_name"),
      ("Sales Invoice", "return_against"), ("Auto Repeat", "reference_document"),
      ("Purchase Invoice", "inter_company_invoice_reference")]
    inner := [
      ("Sales Order", ["items", "sales_order"]), ("Timesheet", ["timesheets", "time_sheet"])]
    innerAndOuter := [("Delivery Note", ["items", "delivery_note"])] },
  { document := "Sales Taxes and Charges Template"
    field := some "taxes_and_charges"
    groups := [
      ("Transactions", ["Sales Invoice", "Sales Order", "Delivery Note"]),
      ("References", ["POS Profile", "Subscription", "Restaurant", "Tax Rule"])]
    fields := [
      ("Tax Rule", "sales_tax_template"), ("Subscription", "sales_tax_template"),
      ("Restaurant", "default_tax_template")] },
  .of "Share Type" [("References", ["Share Transfer", "Shareholder"])],
  .of "Shareholder" [("", ["Share Transfer"])] [("Share Transfer", "to_shareholder")],
  .of "Shipping Rule" [
    ("Pre Sales", ["Quotation", "Supplier Quotation"]),
    ("Sales", ["Sales Order", "Delivery Note", "Sales Invoice"]),
    ("Purchase", ["Purchase Invoice", "Purchase Order", "Purchase Receipt"])] [
    ("Payment Entry", "party_name")],
  .of "Subscription Plan" [("References", ["Payment Request", "Subscription"])]
    [("Payment Request", "plan"), ("Subscription", "plan")],
  .of "Tax Category" [
    ("Pre Sales", ["Quotation", "Supplier Quotation"]),
    ("Sales", ["Sales Invoice", "Delivery Note", "Sales Order"]),
    ("Purchase", ["Purchase Invoice", "Purchase Receipt"]), ("Party", ["Customer", "Supplier"]),
    ("Taxes", ["Item", "Tax Rule"])],
  .of "Tax Withholding Category" [("", ["Supplier"])]]

def manufacturingDashboards : List Dashboard := [
  .of "Blanket Order" [("", ["Purchase Order", "Sales Order", "Quotation"])],
  { document := "BOM"
    field := some "bom_no"
    groups := [
      ("Stock", ["Item", "Stock Entry", "Quality Inspection"]),
      ("Manufacture", ["BOM", "Work Order", "Job Card"]),
      ("Subcontract", ["Purchase Order", "Purchase Receipt", "Purchase Invoice"])]
    fields := [
      ("Item", "default_bom"), ("Purchase Order", "bom"), ("Purchase Receipt", "bom"),
      ("Purchase Invoice", "bom")]
    notMade := ["Item", "Purchase Order", "Purchase Receipt", "Purchase Invoice", "Job Card",
      "Stock Entry", "BOM"] },
  .of "Job Card" [
    ("Transactions", ["Material Request", "Stock Entry"]),
    ("Subcontracting", ["Purchase Order", "Subcontracting Order"]),
    ("Reference", ["Quality Inspection"])] [
    ("Quality Inspection", "reference_name")],
  .of "Operation" [("Manufacture", ["BOM", "Work Order", "Job Card"])],
  .of "Production Plan" [
    ("Transactions", ["Work Order", "Material Request"]), ("Subcontract", ["Purchase Order"]),
    ("Reservation", ["Stock Reservation Entry"])] [
    ("Stock Reservation Entry", "voucher_no")],
  .of "Routing" [("", ["BOM"])],
  { document := "Sales Forecast"
    field := some "demand_planning"
    groups := [("MPS", ["Master Production Schedule"])] },
  .of "Work Order" [
    ("Transactions", ["Stock Entry", "Job Card", "Pick List"]),
    ("Reference", ["Serial No", "Batch", "Material Request"]),
    ("Stock Reservation", ["Stock Reservation Entry"])] [
    ("Batch", "reference_name"), ("Stock Reservation Entry", "voucher_no")],
  { document := "Workstation"
    groups := [
      ("Master", ["BOM", "Routing", "Operation"]), ("Transaction", ["Work Order", "Job Card"])]
    notMade := ["BOM", "Routing", "Operation", "Work Order", "Job Card"] }]

def stockDashboards : List Dashboard := [
  { document := "Batch"
    field := some "batch_no"
    groups := [
      ("Buy", ["Purchase Invoice", "Purchase Receipt"]),
      ("Sell", ["Sales Invoice", "Delivery Note"]), ("Move", ["Serial and Batch Bundle"]),
      ("Quality", ["Quality Inspection"])] },
  { document := "Delivery Note"
    groups := [
      ("Related", ["Sales Invoice", "Packing Slip", "Delivery Trip"]),
      ("Reference", ["Sales Order", "Shipment", "Quality Inspection"]),
      ("Returns", ["Stock Entry"]), ("Subscription", ["Auto Repeat"]),
      ("Internal Transfer", ["Material Request", "Purchase Order", "Purchase Receipt"])]
    fields := [
      ("Stock Entry", "delivery_note_no"), ("Quality Inspection", "reference_name"),
      ("Auto Repeat", "reference_document"), ("Purchase Receipt", "inter_company_reference")]
    inner := [
      ("Sales Order", ["items", "against_sales_order"]),
      ("Material Request", ["items", "material_request"]),
      ("Purchase Order", ["items", "purchase_order"])]
    innerAndOuter := [("Sales Invoice", ["items", "against_sales_invoice"])] },
  { document := "Item"
    field := some "item_code"
    groups := [
      ("Groups", ["BOM", "Product Bundle", "Item Alternative"]),
      ("Pricing", ["Item Price", "Pricing Rule"]),
      ("Sell", ["Quotation", "Sales Order", "Delivery Note", "Sales Invoice"]),
      ("Buy", ["Material Request", "Supplier Quotation", "Request for Quotation",
        "Purchase Order", "Purchase Receipt", "Purchase Invoice"]),
      ("Manufacture", ["Production Plan", "Work Order", "Item Manufacturer"]),
      ("Traceability", ["Serial No", "Batch"]),
      ("Stock Movement", ["Stock Entry", "Stock Reconciliation"]),
      ("Lead Time", ["Item Lead Time"])]
    fields := [
      ("Work Order", "production_item"), ("Product Bundle", "new_item_code"), ("BOM", "item"),
      ("Batch", "item")]
    heatmap := some (
      "This is based on stock movement. See <a href=\"/app/query-report/Stock " ++
      "Ledger\">Stock Ledger</a> for details") },
  { document := "Material Request"
    groups := [
      ("Reference", ["Sales Order", "Request for Quotation", "Supplier Quotation",
        "Purchase Order"]),
      ("Stock", ["Stock Entry", "Purchase Receipt", "Pick List"]),
      ("Manufacturing", ["Work Order"]), ("Internal Transfer", ["Sales Order"]),
      ("Accounting Dimensions", ["Project", "Cost Center"])]
    inner := [
      ("Sales Order", ["items", "sales_order"]), ("Project", ["items", "project"]),
      ("Cost Center", ["items", "cost_center"])] },
  { document := "Pick List"
    groups := [
      ("", ["Stock Entry", "Sales Order", "Delivery Note", "Stock Reservation Entry"])]
    fields := [
      ("Stock Reservation Entry", "from_voucher_no"), ("Delivery Note", "against_pick_list")]
    inner := [("Sales Order", ["locations", "sales_order"])] },
  { document := "Purchase Receipt"
    field := some "purchase_receipt_no"
    groups := [
      ("Related", ["Purchase Invoice", "Landed Cost Voucher", "Asset", "Stock Reservation Entry"]),
      ("Reference", ["Material Request", "Purchase Order", "Quality Inspection", "Project"]),
      ("Returns", ["Purchase Receipt"]), ("Subscription", ["Auto Repeat"])]
    fields := [
      ("Purchase Invoice", "purchase_receipt"), ("Asset", "purchase_receipt"),
      ("Landed Cost Voucher", "receipt_document"), ("Auto Repeat", "reference_document"),
      ("Purchase Receipt", "return_against"), ("Stock Reservation Entry", "from_voucher_no"),
      ("Quality Inspection", "reference_name")]
    inner := [
      ("Material Request", ["items", "material_request"]),
      ("Purchase Order", ["items", "purchase_order"]), ("Project", ["items", "project"])]
    innerAndOuter := [("Purchase Invoice", ["items", "purchase_invoice"])] },
  .of "Stock Closing Entry" [("Stock Closing Log", ["Stock Closing Balance"])],
  .of "Stock Entry" [("Stock Reservation", ["Stock Reservation Entry"])]
    [("Stock Reservation Entry", "from_voucher_no")]]

def tradeDashboards : List Dashboard := [
  { document := "Purchase Order"
    groups := [
      ("Related", ["Purchase Receipt", "Purchase Invoice", "Sales Order"]),
      ("Payment", ["Payment Entry", "Journal Entry", "Payment Request"]),
      ("Reference", ["Supplier Quotation", "Project", "Auto Repeat"]),
      ("Manufacturing", ["Material Request", "BOM", "Production Plan", "Blanket Order"]),
      ("Sub-contracting", ["Subcontracting Order", "Subcontracting Receipt", "Stock Entry"])]
    fields := [
      ("Journal Entry", "reference_name"), ("Payment Entry", "reference_name"),
      ("Payment Request", "reference_name"), ("Auto Repeat", "reference_document")]
    inner := [
      ("Material Request", ["items", "material_request"]),
      ("Supplier Quotation", ["items", "supplier_quotation"]), ("Project", ["items", "project"]),
      ("Sales Order", ["items", "sales_order"]), ("BOM", ["items", "bom"]),
      ("Production Plan", ["items", "production_plan"]),
      ("Blanket Order", ["items", "blanket_order"])] },
  { document := "Request for Quotation"
    groups := [("", ["Supplier Quotation"])]
    more := [("docstatus", .int 1)] },
  { document := "Supplier"
    groups := [
      ("Procurement", ["Request for Quotation", "Supplier Quotation"]),
      ("Orders", ["Purchase Order", "Purchase Receipt", "Purchase Invoice"]),
      ("Payments", ["Payment Entry", "Bank Account"]), ("Pricing", ["Pricing Rule"])]
    fields := [("Payment Entry", "party"), ("Bank Account", "party")]
    dynamic := [("party", ["Supplier", "party_type"])] },
  { document := "Supplier Quotation"
    groups := [
      ("Related", ["Purchase Order", "Quotation"]),
      ("Reference", ["Material Request", "Request for Quotation", "Project"]),
      ("Subscription", ["Auto Repeat"])]
    fields := [("Auto Repeat", "reference_document")]
    inner := [
      ("Material Request", ["items", "material_request"]),
      ("Request for Quotation", ["items", "request_for_quotation"]),
      ("Project", ["items", "project"])] },
  { document := "Supplier Scorecard"
    field := some "supplier"
    groups := [("Scorecards", ["Supplier Scorecard Period"])]
    heatmap := some "This covers all scorecards tied to this Setup"
    more := [
      ("method",
        .str "erpnext.buying.doctype.supplier_scorecard.supplier_scorecard.get_timeline_data")] },
  { document := "Lead"
    groups := [("", ["Opportunity", "Quotation", "Prospect"])]
    fields := [("Quotation", "party_name"), ("Opportunity", "party_name")]
    dynamic := [("party_name", ["Lead", "quotation_to"])] },
  .of "Opportunity" [("", ["Quotation", "Request for Quotation", "Supplier Quotation"])],
  { document := "Customer"
    groups := [
      ("Pre Sales", ["Opportunity", "Quotation"]),
      ("Orders", ["Sales Order", "Delivery Note", "Sales Invoice"]),
      ("Payments", ["Payment Entry", "Bank Account", "Dunning"]),
      ("Support", ["Issue", "Maintenance Visit", "Installation Note", "Warranty Claim"]),
      ("Projects", ["Project"]), ("Pricing", ["Pricing Rule"]), ("Subscriptions", ["Subscription"])]
    fields := [
      ("Payment Entry", "party"), ("Quotation", "party_name"), ("Opportunity", "party_name"),
      ("Bank Account", "party"), ("Subscription", "party")]
    dynamic := [
      ("party_name", ["Customer", "quotation_to"]), ("party", ["Customer", "party_type"])] },
  { document := "Quotation"
    field := some "prevdoc_docname"
    groups := [("Sales Order", ["Sales Order"]), ("Subscription", ["Auto Repeat"])]
    fields := [("Auto Repeat", "reference_document")] },
  { document := "Sales Order"
    groups := [
      ("Fulfillment", ["Sales Invoice", "Pick List", "Delivery Note", "Maintenance Visit"]),
      ("Purchasing", ["Material Request", "Purchase Order"]), ("Projects", ["Project"]),
      ("Manufacturing", ["Work Order", "BOM", "Blanket Order"]),
      ("Reference", ["Quotation", "Auto Repeat", "Stock Reservation Entry"]),
      ("Payment", ["Payment Entry", "Payment Request", "Journal Entry"]),
      ("Schedule", ["Delivery Schedule Item"]),
      ("Subcontracting Inward", ["Subcontracting Inward Order"])]
    fields := [
      ("Delivery Note", "against_sales_order"), ("Journal Entry", "reference_name"),
      ("Payment Entry", "reference_name"), ("Payment Request", "reference_name"),
      ("Auto Repeat", "reference_document"), ("Maintenance Visit", "prevdoc_docname"),
      ("Stock Reservation Entry", "voucher_no")]
    inner := [
      ("Quotation", ["items", "prevdoc_docname"]), ("BOM", ["items", "bom_no"]),
      ("Blanket Order", ["items", "blanket_order"]),
      ("Purchase Order", ["items", "purchase_order"])] },
  .of "Subcontracting Inward Order" [
    ("Transactions", ["Stock Entry"]), ("Manufacturing", ["Work Order"])],
  .of "Subcontracting Order" [
    ("Reference", ["Subcontracting Receipt", "Stock Entry"]),
    ("Stock Reservation", ["Stock Reservation Entry"])] [
    ("Stock Reservation Entry", "voucher_no")],
  { document := "Subcontracting Receipt"
    groups := [
      ("Reference", ["Purchase Order", "Purchase Receipt", "Subcontracting Order",
        "Quality Inspection", "Project"]),
      ("Returns", ["Subcontracting Receipt"])]
    fields := [("Subcontracting Receipt", "return_against")]
    inner := [
      ("Subcontracting Order", ["items", "subcontracting_order"]),
      ("Purchase Order", ["items", "purchase_order"]), ("Project", ["items", "project"]),
      ("Quality Inspection", ["items", "quality_inspection"])] }]

def workDashboards : List Dashboard := [
  { document := "Asset"
    field := none
    groups := [("Movement", ["Asset Movement"])]
    fields := [("Asset Movement", "asset")] },
  { document := "Project"
    groups := [
      ("Project", ["Task", "Timesheet", "Issue", "Project Update"]),
      ("Material", ["Material Request", "BOM", "Stock Entry"]),
      ("Sales", ["Sales Order", "Delivery Note", "Sales Invoice"]),
      ("Purchase", ["Purchase Order", "Purchase Receipt", "Purchase Invoice"]),
      ("Manufacture", ["Work Order"])]
    heatmap := some "This is based on the Time Sheets created against this project" },
  .of "Project Template" [("", ["Project"])], .of "Task" [("Activity", ["Timesheet"])],
  { document := "Timesheet"
    field := some "time_sheet"
    groups := [("References", ["Sales Invoice"])] },
  { document := "Company"
    groups := [
      ("Pre Sales", ["Quotation"]), ("Orders", ["Sales Order", "Delivery Note", "Sales Invoice"]),
      ("Support", ["Issue"]), ("Projects", ["Project"])]
    more := [
      ("graph", .bool true), ("graph_method", .str "frappe.utils.goal.get_monthly_goal_graph_data"),
      ("graph_method_args", .ofFields [
        ("title", .str "Sales"), ("goal_value_field", .str "monthly_sales_target"),
        ("goal_total_field", .str "total_monthly_sales"),
        ("goal_history_field", .str "sales_monthly_history"),
        ("goal_doctype", .str "Sales Invoice"), ("goal_doctype_link", .str "company"),
        ("goal_field", .str "base_grand_total"), ("date_field", .str "posting_date"),
        ("filters", .ofFields [
          ("docstatus", .int 1), ("is_opening", .tuple [.str "!=", .str "Yes"])]),
        ("aggregation", .str "sum")])] },
  .of "Holiday List" [
    ("", ["Company", "Employee", "Workstation"]), ("", ["Service Level Agreement"])] [
    ("Company", "default_holiday_list")],
  { document := "Sales Person"
    groups := [("Sales", ["Sales Order", "Delivery Note", "Sales Invoice"])]
    heatmap := some (
      "This is based on transactions against this Sales Person. See timeline below " ++
      "for details") },
  { document := "Vehicle"
    field := some "license_plate"
    groups := [("", ["Vehicle Log"]), ("", ["Delivery Trip"])]
    fields := [("Delivery Trip", "vehicle")] },
  .of "Issue" [("Activity", ["Task"])]]

end ErpLens.Documents
