import ErpLens.Value.Access

/-!
# The desk

What the desk of a business offers at the start: sections with links, boards of charts and numbers,
lists of the best, and what is said after a document is submitted.
-/

namespace ErpLens.Setup

/-! ## Sections -/

structure DeskLink where
  kind : String
  name : String
  description : String := ""
  route : String := ""
  document : String := ""
  forStart : Bool := false
  isQuery : Bool := false
  needs : List String := []

structure DeskSection where
  label : String
  icon : String := ""
  links : List DeskLink

def textEntry (key text : String) : Fields :=
  if text.isEmpty then [] else [(key, .str text)]

def DeskLink.toValue (link : DeskLink) : Value :=
  .ofFields (List.flatten [
    [("type", .str link.kind), ("name", .str link.name)],
    textEntry "description" link.description, textEntry "route" link.route,
    textEntry "doctype" link.document,
    if link.forStart then [("onboard", .int 1)] else [],
    if link.isQuery then [("is_query_report", .bool true)] else [],
    if link.needs.isEmpty then [] else [("dependencies", .strs link.needs)]])

def DeskSection.toValue (part : DeskSection) : Value :=
  .ofFields ([("label", .str part.label)] ++ textEntry "icon" part.icon ++
    [("items", .list (part.links.map DeskLink.toValue))])

def projectSections : List DeskSection := [
  { label := "Projects"
    icon := "fa fa-star"
    links := [
      { kind := "doctype", name := "Project", description := "Project master.", forStart := true },
      { kind := "doctype", name := "Task", route := "/app/List/Task",
        description := "Project activity / task.", forStart := true },
      { kind := "report", name := "Gantt Chart", route := "/app/List/Task/Gantt", document := "Task",
        description := "Gantt chart of all tasks.", forStart := true },
      { kind := "doctype", name := "Project Template",
        description := "Make project from a template." },
      { kind := "doctype", name := "Project Type", description := "Define Project type." },
      { kind := "doctype", name := "Project Update", description := "Project Update.",
        needs := ["Project"] }] },
  { label := "Time Tracking"
    links := [
      { kind := "doctype", name := "Timesheet", description := "Timesheet for tasks.",
        forStart := true },
      { kind := "doctype", name := "Activity Type",
        description := "Types of activities for Time Logs", forStart := true },
      { kind := "doctype", name := "Activity Cost", description := "Cost of various activities",
        needs := ["Activity Type"] }] },
  { label := "Reports"
    icon := "fa fa-list"
    links := [
      { kind := "report", name := "Daily Timesheet Summary", document := "Timesheet",
        forStart := true, isQuery := true, needs := ["Timesheet"] },
      { kind := "report", name := "Project wise Stock Tracking", document := "Project",
        isQuery := true, needs := ["Project"] },
      { kind := "report", name := "Project Billing Summary", document := "Project",
        isQuery := true, needs := ["Project"] }] }]

def projectDesk : List Value := projectSections.map DeskSection.toValue

/-! ## Boards -/

inductive ChartWidth where
  | full
  | half
deriving Repr, DecidableEq

structure Board where
  name : String
  charts : List (String × ChartWidth)
  cards : List String

def ChartWidth.text : ChartWidth → String
  | full => "Full"
  | half => "Half"

def Board.toValue (board : Board) : Value :=
  .ofFields [
    ("name", .str board.name), ("dashboard_name", .str board.name),
    ("charts", .list (board.charts.map fun (chart, width) =>
      .ofFields [("chart", .str chart), ("width", .str width.text)])),
    ("cards", .list (board.cards.map fun card => .ofFields [("card", .str card)]))]

def assetBoards : List Board := [
  { name := "Asset"
    charts := [("Asset Value Analytics", .full), ("Category-wise Asset Value", .half),
      ("Location-wise Asset Value", .half)]
    cards := ["Total Assets", "New Assets (This Year)", "Asset Value"] }]

def manufacturingBoards : List Board := [
  { name := "Manufacturing"
    charts := [("Produced Quantity", .half), ("Completed Operation", .half),
      ("Work Order Analysis", .half), ("Quality Inspection Analysis", .half),
      ("Pending Work Order", .half), ("Last Month Downtime Analysis", .half),
      ("Work Order Qty Analysis", .full), ("Job Card Analysis", .full)]
    cards := ["Monthly Total Work Order", "Monthly Completed Work Order", "Ongoing Job Card",
      "Monthly Quality Inspection"] }]

/-! ## Lists of the best -/

inductive Measure where
  | amount (name : String)
  | count (name : String)

structure Leaderboard where
  document : String
  measures : List Measure
  source : String
  icon : String

def Measure.toValue : Measure → Value
  | amount name => .ofFields [("fieldname", .str name), ("fieldtype", .str "Currency")]
  | count name => .str name

def Leaderboard.toEntry (board : Leaderboard) : String × Value :=
  (board.document, .ofFields [
    ("fields", .list (board.measures.map Measure.toValue)),
    ("method", .str ("erpnext.startup.leaderboard." ++ board.source)), ("icon", .str board.icon)])

def leaderboards : List Leaderboard := [
  { document := "Customer"
    measures := [.amount "total_sales_amount", .count "total_qty_sold", .amount "outstanding_amount"]
    source := "get_all_customers"
    icon := "customer" },
  { document := "Item"
    measures := [.amount "total_sales_amount", .count "total_qty_sold",
      .amount "total_purchase_amount", .count "total_qty_purchased", .count "available_stock_qty",
      .amount "available_stock_value"]
    source := "get_all_items"
    icon := "stock" },
  { document := "Supplier"
    measures := [.amount "total_purchase_amount", .count "total_qty_purchased",
      .amount "outstanding_amount"]
    source := "get_all_suppliers"
    icon := "buying" },
  { document := "Sales Partner"
    measures := [.amount "total_sales_amount", .amount "total_commission"]
    source := "get_all_sales_partner"
    icon := "hr" },
  { document := "Sales Person"
    measures := [.amount "total_sales_amount"]
    source := "get_all_sales_person"
    icon := "customer" }]

def leaderboardTable : Value := .ofFields (leaderboards.map Leaderboard.toEntry)

/-! ## Filters and actions -/

def dateFilters : Value :=
  .ofFields [("fiscal year", .ofFields [
    ("label", .str "Fiscal Year"),
    ("get_field", .str "erpnext.accounts.utils.get_fiscal_year_filter_field"),
    ("valid_for_fieldtypes", .strs ["Date", "Datetime", "DateRange"]),
    ("depends_on", .str "company")])]

def submittedKinds : List String :=
  ["Purchase Receipt", "Purchase Invoice", "Quotation", "Sales Order", "Delivery Note",
    "Sales Invoice"]

def successAction (document : String) : Value :=
  let message : Value := .str (document ++ " has been submitted successfully")
  .ofFields [
    ("doctype", .str "Success Action"), ("ref_doctype", .str document), ("message", message),
    ("first_success_message", message), ("next_actions", .str "new\nprint\nemail")]

def successActions : List Value := submittedKinds.map successAction

end ErpLens.Setup
