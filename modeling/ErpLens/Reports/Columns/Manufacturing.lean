import ErpLens.Reports.Column
import ErpLens.Value.Arithmetic

/-!
# Columns of manufacturing

The columns of reports on bills of materials, work orders and inspections.
-/

namespace ErpLens.Reports.Columns

def bomExplorer : Report := .fixed "BOM Explorer" [
  .item 300, .titled "item_name" .lowerData 100, .ofKind "bom" "BOM" 150,
  .titled "is_phantom_item" .check, .titled "qty" .lowerData 100, .of "uom" "UOM" .lowerData 100,
  .of "bom_level" "BOM Level" .whole 100, .of "description" "Standard Description" .lowerData 150]

def bomOperationsTime : Report := .fixed "BOM Operations Time" [
  .of "name" "BOM ID" (.link "BOM") 220, .of "item" "Item Code" (.link "Item") 150,
  .data "item_name" 110, .ofKind "uom" "UOM" 100, .document "operation" 140,
  .document "workstation" 110, .of "time_in_mins" "Time (In Mins)" .number 120,
  .of "used_as_subassembly_items" "Sub-assembly BOM Count" .whole 200]

def bomStockCalculated : Report := .fixed "BOM Stock Calculated" [
  .document "item" 120, .data "description" 150, .of "from_bom_no" "From BOM No" (.link "BOM") 150,
  .data "manufacturer" 120, .data "manufacturer_part_number" 150, .number "qty_per_unit" 110,
  .number "available_qty" 120, .number "required_qty" 120, .number "difference_qty" 130,
  .number "last_purchase_rate" 160]

def bomStockReport : Report := .fixed "BOM Stock Report" [
  .ofKind "" "Item" 150, .untyped "Item Name" 240, .untyped "Description" 300,
  .untyped "From BOM No" 200, .of "" "BOM Qty" .number 160, .untyped "BOM UOM" 160,
  .of "" "Required Qty" .number 120, .of "" "In Stock Qty" .number 120,
  .of "" "Enough Parts to Build" .number 200] .brief

def bomVarianceReport : Report := .filtered "BOM Variance Report" fun filters => do
  let isChosen := (← filters.get "bom_no").truth
  return List.flatten [[
    .document "work_order" 120], (if isChosen then [] else [
    .of "bom_no" "BOM No" (.link "BOM") 180]), [
    .of "production_item" "Finished Good" (.link "Item") 120, .of "qty" "Ordered Qty" .number 120,
    .number "produced_qty" 120, .of "raw_material_code" "Raw Material" (.link "Item") 120,
    .number "required_qty" 120, .number "consumed_qty" 120]]

def costOfPoorQualityReport : Report := .fixed "Cost of Poor Quality Report" [
  .ofKind "name" "Job Card" 120, .document "work_order" 100, .item 100, .data "item_name" 100,
  .document "operation" 100, .data "serial_no" 100, .data "batch_no" 100,
  .document "workstation" 100, .amount "operating_cost" 150,
  .of "total_time_in_mins" "Total Time (in Mins)" .number 150] .textWidths

def downtimeAnalysis : Report := .fixed "Downtime Analysis" [
  .of "name" "ID" (.link "Downtime Entry") 100,
  .of "workstation" "Machine" (.link "Workstation") 100, .link "operator" "Employee" 130,
  .titled "from_time" .moment 160, .titled "to_time" .moment 160,
  .of "downtime" "Downtime (In Hours)" .number 150, .data "stop_reason" 220,
  .titled "remarks" .text 100]

def jobCardSummary : Report := .filtered "Job Card Summary" fun filters => do
  let isChosen := (← filters.get "status").truth
  return List.flatten [[
    .of "name" "Id" (.link "Job Card") 100, .date "posting_date" 100], (if isChosen then [] else [
    .titled "status" .untyped 100]), [
    .document "work_order" 100, .link "production_item" "Item" 110, .data "item_name" 100,
    .document "workstation" 110, .document "operation" 110, .number "total_completed_qty" 120,
    .titled "from_time" .moment 120, .titled "to_time" .moment 120,
    .of "total_time_in_mins" "Time Required (In Mins)" .number 100]]

def processLossReport : Report := .fixed "Process Loss Report" [
  .ofKind "name" "Work Order" 200, .ofKind "production_item" "Item" 100, .data "status" 100,
  .number "qty_to_manufacture" 150, .of "produced_qty" "Manufactured Qty" .number 150,
  .number "process_loss_qty" 150, .of "total_pl_value" "Process Loss Value" .number 150,
  .of "total_fg_value" "Finished Goods Value" .number 150,
  .of "total_rm_value" "Raw Material Value" .number 150] .textWidths

def productionPlanSummary : Report := .fixed "Production Plan Summary" [
  .of "item_code" "Finished Good" (.link "Item") 240, .titled "item_name" .lowerData 150,
  .document "sales_order" 100, .data "document_type" 150,
  .linkBy "document_name" "document_type" 180, .of "bom_level" "BOM Level" .whole 100,
  .of "qty" "Order Qty" .number 120, .of "produced_qty" "Produced / Received Qty" .number 200,
  .number "pending_qty" 110]

def qualityInspectionSummary : Report := .filtered "Quality Inspection Summary" fun filters => do
  let isChosen := (← filters.get "status").truth
  return List.flatten [[
    .of "name" "Id" (.link "Quality Inspection") 100,
    .date "report_date" 150], (if isChosen then [] else [
    .titled "status" .untyped 100]), [
    .item 130, .data "item_name" 130, .number "sample_size" 110, .data "inspection_type" 110,
    .of "reference_type" "Document Type" .data 90,
    .of "reference_name" "Document Name" (.linkBy "reference_type") 150,
    .link "inspected_by" "User" 150]]

def workOrderConsumedMaterials : Report := .fixed "Work Order Consumed Materials" [
  .of "name" "Id" (.link "Work Order") 80, .data "status" 80, .link "production_item" "Item" 130,
  .of "qty" "Qty to Produce" .number 120, .number "produced_qty" 110,
  .of "raw_material_item_code" "Raw Material Item" (.link "Item") 150,
  .of "raw_material_name" "Item Name" .untyped 130, .number "required_qty" 100,
  .number "transferred_qty" 100, .number "consumed_qty" 100, .number "extra_consumed_qty" 100,
  .number "returned_qty" 100]

def workOrderStockReport : Report := .fixed "Work Order Stock Report" [
  .document "work_order" 110, .ofKind "bom_no" "BOM" 120, .titled "description" .dataOfNone 230,
  .item 110, .link "source_warehouse" "Warehouse" 110, .of "qty" "Qty to Build" .dataOfNone 110,
  .titled "status" .dataOfNone 100, .of "req_items" "# Req'd Items" .dataOfNone 105,
  .of "instock" "# In Stock" .dataOfNone 105, .titled "buildable_qty" .dataOfNone 100,
  .of "ready_to_build" "Build All?" .dataOfNone 90]

def workOrderSummary : Report := .filtered "Work Order Summary" fun filters => do
  let status ← filters.get "status"
  return List.flatten [[
    .of "name" "Id" (.link "Work Order") 100], (if status.truth then [] else [
    .titled "status" .untyped 100]), [
    .link "production_item" "Item" 130, .of "qty" "Produce Qty" .number 110,
    .number "produced_qty" 110, .document "sales_order" 90, .of "creation" "Created On" .date 150,
    .date "planned_start_date" 150,
    .date "planned_end_date" 150], (if status.isText "Not Started" then [] else [
    .date "actual_start_date" 100, .date "actual_end_date" 100,
    .number "age" 110]), (if status.isText "Completed" then [
    .of "lead_time" "Lead Time (in mins)" .number 110] else [])]

def manufacturingReports : List Report := [
  bomExplorer, bomOperationsTime, bomStockCalculated,
  bomStockReport, bomVarianceReport, costOfPoorQualityReport,
  downtimeAnalysis, jobCardSummary, processLossReport,
  productionPlanSummary, qualityInspectionSummary, workOrderConsumedMaterials,
  workOrderStockReport, workOrderSummary]

end ErpLens.Reports.Columns
