import ErpLens.Json.Read
import ErpLens.Value.Arithmetic

/-!
# Conditions

Reports take filters. Each filter that is set adds a clause to the condition of the query behind
the report, as a text or as a row of field, sign and value.
-/

namespace ErpLens.Reports

structure Clause where
  filter : String
  text : String

def isSet (filters : Value) (name : String) : Outcome Bool :=
  return (← filters.get name).truth

def condition (start : String) (clauses : List Clause) (filters : Value) : Outcome String :=
  clauses.foldlM (fun text clause => do
    return if ← isSet filters clause.filter then text ++ clause.text else text) start

def setFilters (names : List String) (filters : Value) : Outcome Value := do
  let chosen ← names.filterMapM fun name => do
    let value ← filters.field name
    return if value.truth then some (name, value) else none
  return .ofFields chosen

def clauseRow (document field sign : String) (value : Value) : Value :=
  .list [.str document, .str field, .str sign, value]

/-! ## Accounts -/

def paymentSummaryCondition : Value → Outcome String :=
  condition "1=1" [
    ⟨"from_date", " and a.posting_date >= %(from_date)s"⟩,
    ⟨"to_date", " and a.posting_date <= %(to_date)s"⟩, ⟨"company", " and a.company=%(company)s"⟩,
    ⟨"customer", " and a.customer = %(customer)s"⟩, ⟨"owner", " and a.owner = %(owner)s"⟩,
    ⟨"is_pos", " and a.is_pos = %(is_pos)s"⟩]

def counterRegisterCondition : Value → Outcome String :=
  condition "company = %(company)s AND posting_date >= %(from_date)s AND posting_date <= %(to_date)s" [
    ⟨"pos_profile", " AND pos_profile = %(pos_profile)s"⟩, ⟨"owner", " AND owner = %(owner)s"⟩,
    ⟨"customer", " AND customer = %(customer)s"⟩, ⟨"is_return", " AND is_return = %(is_return)s"⟩,
    ⟨"mode_of_payment", "\n\t\t\tAND EXISTS(\n" ++
      "\t\t\t\t\tSELECT name FROM `tabSales Invoice Payment` sip\n" ++
      "\t\t\t\t\tWHERE parent=p.name AND ifnull(sip.mode_of_payment, '') = %(mode_of_payment)s\n" ++
      "\t\t\t\t)"⟩]

def clearanceCondition : Value → Outcome String :=
  condition "" [
    ⟨"from_date", " and posting_date>=%(from_date)s"⟩,
    ⟨"to_date", " and posting_date<=%(to_date)s"⟩]

def accountBalanceFilters : Value → Outcome Value :=
  setFilters ["account_type", "company", "root_type"]

def billedNotReceived (filters : Value) : Outcome Value := do
  let row := clauseRow "Purchase Invoice"
  let rows := [
    row "company" "=" (← filters.get "company"),
    row "posting_date" "<=" (← filters.get "posting_date"),
    row "docstatus" "=" (.int 1),
    row "per_received" "<" (.int 100),
    row "update_stock" "=" (.int 0),
    row "is_opening" "!=" (.str "Yes")]
  let invoice ← filters.get "purchase_invoice"
  return .list (rows ++ if invoice.truth then [row "per_received" "in" (.list [invoice])] else [])

def billedNotReceivedFields : List String :=
  (["name", "supplier", "company", "posting_date", "currency"].map
    fun name => s!"`tabPurchase Invoice`.`{name}`") ++
  (["item_code", "item_name", "uom", "qty", "received_qty", "rate", "amount"].map
    fun name => s!"`tabPurchase Invoice Item`.`{name}`")

/-! ## Selling and buying -/

def orderAnalysisCondition (filters : Value) : Outcome String := do
  let inTime := (← isSet filters "from_date") && (← isSet filters "to_date")
  condition (if inTime then " and so.transaction_date between %(from_date)s and %(to_date)s" else "") [
    ⟨"company", " and so.company = %(company)s"⟩,
    ⟨"sales_order", " and so.name in %(sales_order)s"⟩, ⟨"status", " and so.status in %(status)s"⟩,
    ⟨"warehouse", " and soi.warehouse = %(warehouse)s"⟩] filters

def commissionCondition (filters dateField : Value) : Outcome String :=
  condition "1=1" [
    ⟨"company", " and company = %(company)s"⟩, ⟨"customer", " and customer = %(customer)s"⟩,
    ⟨"territory", " and territory = %(territory)s"⟩,
    ⟨"sales_partner", " and sales_partner = %(sales_partner)s"⟩,
    ⟨"from_date", " and " ++ dateField.text ++ " >= %(from_date)s"⟩,
    ⟨"to_date", " and " ++ dateField.text ++ " <= %(to_date)s"⟩] filters

def subcontractOrders (filters : Value) : Outcome Value := do
  let kind ← filters.field "order_type"
  let row (field sign : String) (value : Value) : Value := .list [kind, .str field, .str sign, value]
  let dates : Value := .tuple [← filters.field "from_date", ← filters.field "to_date"]
  let rows := [row "docstatus" "=" (.int 1), row "transaction_date" "between" dates] ++
    if kind.isText "Purchase Order" then [row "is_old_subcontracting_flow" "=" (.int 1)] else []
  let chosen ← ["name", "company"].filterMapM fun name => do
    let value ← filters.get name
    return if value.truth then some (row name "=" value) else none
  return .list (rows ++ chosen)

/-! ## Customer relations -/

def campaignCondition (filters : Value) : Outcome String := do
  let start := if (← filters.field "from_date").truth then
    " and date(creation) >= %(from_date)s" else ""
  return start ++ if (← filters.field "to_date").truth then
    " and date(creation) <= %(to_date)s" else ""

def lostReasonJoin (filters : Value) : Outcome String := do
  let on := "JOIN `tabOpportunity Lost Reason Detail`\n" ++
    "\t\t\tON `tabOpportunity Lost Reason Detail`.parenttype = 'Opportunity' and\n" ++
    "\t\t\t`tabOpportunity Lost Reason Detail`.parent = `tabOpportunity`.name"
  let reason ← filters.get "lost_reason"
  return if reason.truth then
      on ++ " and\n\t\t\t`tabOpportunity Lost Reason Detail`.lost_reason = '" ++ reason.text ++
        "'\n\t\t\t"
    else "LEFT " ++ on

def lostOpportunityCondition (filters : Value) : Outcome String := do
  let clauses ← ["territory", "opportunity_from", "party_name"].filterMapM fun name => do
    return if ← isSet filters name then some s!" and `tabOpportunity`.{name}=%({name})s" else none
  return " ".intercalate clauses

def prospectDefaults (filters : Value) : Outcome Value := do
  let filters ← if ← isSet filters "no_of_interaction" then pure filters
    else filters.setKey "no_of_interaction" (.int 1)
  if ← isSet filters "lead_age" then return filters else filters.setKey "lead_age" (.int 60)

/-! ## Taxes of a country -/

def taxCondition : Value → Outcome String :=
  condition "" [
    ⟨"company", " and company=%(company)s"⟩, ⟨"from_date", " and posting_date>=%(from_date)s"⟩,
    ⟨"to_date", " and posting_date<=%(to_date)s"⟩]

def joinedTaxCondition : Value → Outcome String :=
  condition "" [
    ⟨"company", " and p.company=%(company)s"⟩, ⟨"from_date", " and p.posting_date>=%(from_date)s"⟩,
    ⟨"to_date", " and p.posting_date<=%(to_date)s"⟩]

def emirates : List String :=
  ["Abu Dhabi", "Dubai", "Sharjah", "Ajman", "Umm Al Quwain", "Ras Al Khaimah", "Fujairah"]

def salesOfPeriod (filters : Value) : Outcome Value := do
  let row (field sign : String) (value : Value) : Value := .list [.str field, .str sign, value]
  let company ← if ← isSet filters "company" then
    pure [row "company" "=" (← filters.key "company")] else pure []
  let period ← if ← isSet filters "from_date" then
    pure [row "posting_date" ">=" (← filters.key "from_date"),
      row "posting_date" "<=" (← filters.key "to_date")] else pure []
  return .list (company ++ period)

def electronicInvoiceFilters (asked : Value) : Outcome Value := do
  let filters ← Json.loadValue asked
  let found : Value := .ofFields [("docstatus", .int 1),
    ("company_tax_id", .tuple [.str "!=", .str ""])]
  let found ← ["company", "customer"].foldlM (fun (found : Value) name => do
    let value ← filters.get name
    if value.truth then found.setKey name value else return found) found
  let start ← filters.get "from_date"
  let stop ← filters.get "to_date"
  match start.truth, stop.truth with
  | true, true => found.setKey "posting_date" (.tuple [.str "between", .list [start, stop]])
  | true, false => found.setKey "posting_date" (.tuple [.str ">=", start])
  | false, true => found.setKey "posting_date" (.tuple [.str "<=", stop])
  | false, false => return found

/-! ## Point of sale -/

def partlyPaid : Value :=
  .list [.str "in", .strs ["Partly Paid", "Overdue", "Unpaid"]]

def counterInvoiceFilters (kind state name : Value) : Value :=
  let named : Fields :=
    if name.truth then [("name", .list [.str "like", .str ("%" ++ name.text ++ "%")])] else []
  let found : Fields :=
    if kind.isText "POS Invoice" then
      [("status", if state.isText "Partly Paid" then partlyPaid else state)]
    else if kind.isText "Sales Invoice" then
      [("is_created_using_pos", .int 1), ("is_consolidated", .int 0),
        ("pos_closing_entry", .strs ["is", if state.isText "Consolidated" then "set" else "not set"])] ++
      if state.isText "Consolidated" then []
      else if state.isText "Draft" then [("docstatus", .int 0)]
      else if state.isText "Partly Paid" then [("status", partlyPaid)]
      else [("docstatus", .int 1)] ++
        if state.isText "Paid" then [("is_return", .int 0)]
        else if state.isText "Return" then [("is_return", .int 1)]
        else []
    else []
  .ofFields (named ++ found)

/-! ## Stock and manufacturing -/

def workOrderFilters (filters : Value) : Outcome Value := do
  let found : Value := .ofFields [("docstatus", .int 1),
    ("status", .tuple [.str "in", .strs ["In Process", "Completed", "Stopped"]]),
    ("creation", .tuple [.str "between",
      .list [← filters.field "from_date", ← filters.field "to_date"]])]
  ["name", "production_item", "company", "status"].foldlM (fun (found : Value) name => do
    let value ← filters.get name
    if value.truth then found.setKey name value else return found) found

def usedMaterialFields : List String :=
  let item (name : String) : String := s!"`tabWork Order Item`.`{name}`"
  [item "parent", item "item_code" ++ " as raw_material_item_code",
    item "item_name" ++ " as raw_material_name"] ++
  ["required_qty", "transferred_qty", "consumed_qty", "is_additional_item"].map item ++
  ["status", "name", "production_item", "qty", "produced_qty"].map
    fun name => s!"`tabWork Order`.`{name}`"

def bundlesOf (item state voucher name row : Value) : Outcome Value := do
  let bundle := clauseRow "Serial and Batch Bundle"
  let isReturn ← if !name.truth && row.truth then (← row.get "qty").lessThan (.int 0) else pure false
  if isReturn then throw (.failed "the bundle of a returned row is not known here")
  let states := if state.truth then state else .list [.int 0, .int 1]
  let sign (value : Value) : String := match value with
    | .list _ => "in"
    | _ => "="
  return .list ([bundle "is_cancelled" "=" (.int 0)] ++
    (if item.truth then [bundle "item_code" "=" item] else []) ++
    [bundle "docstatus" (sign states) states] ++
    (if voucher.truth then [bundle "voucher_no" "=" voucher] else []) ++
    if name.truth then [clauseRow "Serial and Batch Entry" "parent" (sign name) name] else [])

def bundleRows (filters : Value) : Outcome Value := do
  let row := clauseRow "Serial and Batch Bundle"
  let chosen ← ["voucher_type", "voucher_no", "item_code", "warehouse", "company"].filterMapM
    fun name => do
      let value ← filters.get name
      return if value.truth then some (row name (if name == "voucher_no" then "in" else "=") value)
        else none
  let start ← filters.get "from_date"
  let stop ← filters.get "to_date"
  let inTime := if start.truth && stop.truth then
    [row "posting_datetime" "between" (.list [start, stop])] else []
  let numbers ← ["serial_no", "batch_no"].filterMapM fun name => do
    let value ← filters.get name
    return if value.truth then some (clauseRow "Serial and Batch Entry" name "=" value) else none
  return .list ([row "docstatus" "=" (.int 1), row "is_cancelled" "=" (.int 0)] ++ chosen ++ inTime ++
    numbers)

end ErpLens.Reports
