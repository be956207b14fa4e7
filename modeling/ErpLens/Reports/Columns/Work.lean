import ErpLens.Reports.Column
import ErpLens.Value.Arithmetic

/-!
# Columns of projects, assets and support

The columns of reports on assets, projects, time sheets and support.
-/

namespace ErpLens.Reports.Columns

def fixedAssetRegister : Report := .filtered "Fixed Asset Register" fun filters => do
  let group ← filters.get "group_by"
  if group.isText "Asset Category" || group.isText "Location" then
    let field : Value := .str (addressOf group.text)
    return [
      .told [("label", group), ("fieldname", field), ("options", group)]
      (.ofKind "" "" 216), .titled "net_purchase_amount" .companyAmount 250,
      .titled "opening_accumulated_depreciation" .companyAmount 250,
      .titled "depreciated_amount" .companyAmount 250, .titled "asset_value" .companyAmount 250,
      .document "company" 120]
  return [
    .of "asset_id" "Asset ID" (.link "Asset") 60, .data "asset_name" 140,
    .document "asset_category" 100, .data "status" 80, .date "purchase_date" 90,
    .date "available_for_use_date" 90, .titled "net_purchase_amount" .companyAmount 100,
    .titled "asset_value" .companyAmount 100,
    .titled "opening_accumulated_depreciation" .companyAmount 90,
    .titled "depreciated_amount" .companyAmount 100, .document "cost_center" 100,
    .document "department" 100, .data "vendor_name" 100, .document "location" 100,
    .document "company" 120]

def dailyTimesheetSummary : Report := .fixed "Daily Timesheet Summary" [
  .ofKind "" "Timesheet" 120, .untyped "Employee" 150, .untyped "Employee Name" 150,
  .untyped "From Datetime" 140, .untyped "To Datetime" 140, .untyped "Hours" 70,
  .untyped "Activity Type" 120, .ofKind "" "Task" 150, .ofKind "" "Project" 120,
  .untyped "Status" 70] .brief

def delayedTasksSummary : Report := .fixed "Delayed Tasks Summary" [
  .ofKind "name" "Task" 150, .data "subject" 200, .document "project" 150, .data "status" 100,
  .data "priority" 80, .of "progress" "Progress (%)" .data 120,
  .of "exp_start_date" "Expected Start Date" .date 150,
  .of "exp_end_date" "Expected End Date" .date 150, .of "completed_on" "Actual End Date" .date 130,
  .of "delay" "Delay (In Days)" .data 120]

def projectSummary : Report := .fixed "Project Summary" [
  .ofKind "name" "Project" 200, .titled "project_name" .untyped 200,
  .of "project_type" "Type" (.link "Project Type") 120, .data "status" 120, .data "total_tasks" 120,
  .of "completed_tasks" "Tasks Completed" .data 120, .of "overdue_tasks" "Tasks Overdue" .data 120,
  .of "percent_complete" "Completion" .data 120, .of "expected_start_date" "Start Date" .date 120,
  .of "expected_end_date" "End Date" .date 120]

def projectWiseStockTracking : Report := .fixed "Project wise Stock Tracking" [
  .of "" "Project Id" (.link "Project") 140, .of "" "Cost of Purchased Items" .amount 160,
  .of "" "Cost of Issued Items" .amount 160, .of "" "Cost of Delivered Items" .amount 160,
  .untyped "Project Name" 120, .untyped "Project Status" 120, .ofKind "" "Company" 100,
  .ofKind "" "Customer" 140, .of "" "Project Value" .amount 120,
  .of "" "Project Start Date" .date 120, .of "" "Completion Date" .date 120] .brief

def timesheetGroups (filters : Value) : Outcome (List Column) := do
  let under (name : String) (column : Column) : Outcome Column := do
    return column.told [("hidden", .int (if (← filters.get name).truth then 1 else 0))]
  return [
    .date "date" 150,
    ← under "project" (.document "project" 200),
    ← under "employee" (.of "employee" "Employee ID" (.link "Employee") 200)]

/-- The columns of time sheets under a group: its column first, if there is such a group, and the
others after it. A group that there is none of leaves an empty place. -/
def timesheetColumns (filters group : Value) : Outcome Value := do
  let groups ← timesheetGroups filters
  let shown := fun (column : Column) => column.toValue .full
  let isGroup := fun (column : Column) => group.isText column.name
  let first : List Value :=
    if group.truth then
      (((groups.find? isGroup).map shown).getD .null) ::
        (groups.filter fun column => !isGroup column).map shown
    else groups.map shown
  return .list (first ++ ([
    Column.hide (.titled "employee_name" .lowerData),
    .document "timesheet" 150, .of "hours" "Working Hours" .number 150, .number "billing_hours" 150,
    .amount "billing_amount" 150] : List Column).map shown)

def uaeVat201 : Report := .fixed "UAE VAT 201" [
  .data "no" 50, .data "legend" 300, .of "amount" "Amount (AED)" .amount 125,
  .of "vat_amount" "VAT Amount (AED)" .amount 150]

def supportHourDistribution : Report := .fixed "Support Hour Distribution"
  (.date "date" 100 ::
    ["12AM - 3AM", "3AM - 6AM", "6AM - 9AM", "9AM - 12PM", "12PM - 3PM", "3PM - 6PM", "6PM - 9PM",
      "9PM - 12AM"].map fun hours => .of hours hours .data 120)

def youtubeInteractions : Report := .fixed "YouTube Interactions" [
  .of "publish_date" "Published Date" .date 100, .data "title" 200,
  .titled "duration" .duration 100, .of "view_count" "Views" .number 200,
  .of "like_count" "Likes" .number 200, .of "dislike_count" "Dislikes" .number 100,
  .of "comment_count" "Comments" .number 100]

def workReports : List Report := [
  fixedAssetRegister, dailyTimesheetSummary, delayedTasksSummary,
  projectSummary, projectWiseStockTracking, uaeVat201,
  supportHourDistribution, youtubeInteractions]

end ErpLens.Reports.Columns
