import ErpLens.Reports.Chart

/-!
# Production plans and forecasts
-/

namespace ErpLens.Manufacturing

open Reports

def renameReferences (plan : Value) : Outcome Value := do
  let rows ← (← plan.field "po_items").items
  let renamed ← rows.filterMapM fun row => do
    let first ← row.field "temporary_name"
    if first.truth then return some (first, ← row.field "name") else return none
  let names ← rows.mapM (·.field "name")
  let newNames := Value.ofEntries renamed
  let parts ← (← plan.field "sub_assembly_items").mapItems fun part => do
    let reference ← part.field "production_plan_item"
    if Value.occursIn reference names then return part
    part.setField "production_plan_item" (← newNames.getD reference .null)
  plan.setField "sub_assembly_items" parts

def setPending (plan : Value) : Outcome Value := do
  if ← Value.greaterThan (← plan.field "docstatus") (.int 0) then return plan
  let rows ← (← plan.field "po_items").mapItems fun row => do
    if (← row.get "sales_order").truth && (← row.get "material_request").truth then return row
    row.setField "pending_qty" (← row.field "planned_qty")
  plan.setField "po_items" rows

def markOrdered (plan : Value) : Outcome Value := do
  let isOrdered ← (← (← plan.field "po_items").items).mapM fun row => do
    return (← row.field "planned_qty") == (← row.field "ordered_qty")
  if isOrdered.any id && !(← plan.field "status").isText "Completed" then
    plan.setField "status" (.str "In Process")
  else return plan

def markRequested (plan : Value) : Outcome Value := do
  let items ← plan.field "mr_items"
  if !items.truth then return plan
  let isRequested ← (← items.items).mapM fun row => do
    return (← row.field "quantity") == (← row.field "requested_qty")
  if isRequested.all id then plan.setField "status" (.str "Material Requested") else return plan

def distinctItems (rows : Value) : Outcome (List Value) := do
  return Value.distinct (← (← rows.items).mapM (·.field "item_code"))

/-! ## Forecasts -/

def addForecast (total row : Value) (period : Value) : Outcome Value := do
  let key ← period.field "key"
  let forecastKey ← Value.plus (.str "forecast_") key
  [forecastKey, key].foldlM (fun (total : Value) name => do
    let before ← total.getD name (.float 0)
    total.setItem name (← Value.plus before (← row.getD name (.float 0)))) total

def addForecastTotal (report : Value) : Outcome Value := do
  let data ← report.field "data"
  if !data.truth then return report
  let rows ← data.items
  let periods ← (← report.field "period_list").items
  let total ← rows.foldlM (fun total row =>
    periods.foldlM (fun total period => addForecast total row period) total)
    (.ofFields [("item_code", .str "Total Quantity")])
  report.setField "data" (.list (rows ++ [total]))

def collectForecast (report : Value) : Outcome Value := do
  let found ← report.field "period_wise_data"
  report.setField "data" (.list (← if found.truth then found.values else pure []))

/-! ## Weeks -/

def dayOf (value : Value) : Outcome Calendar.Date :=
  match value with
  | .date day => .ok day
  | .moment moment => .ok moment.date
  | .str text =>
    match Calendar.Date.parse text with
    | .ok day => .ok day
    | .error .noMatch =>
      .error (.badValue s!"time data {Text.quote text} does not match format '%Y-%m-%d'")
    | .error (.rest chars) =>
      .error (.badValue ("unconverted data remains: " ++ String.ofList chars))
    | .error .noSuchYear => .error (.badValue "year 0 is out of range")
    | .error .noSuchDay => .error (.badValue "day is out of range for month")
  | other => .error (other.noField "weekday")

def firstOfWeek (value : Value) : Outcome String := do
  let day ← dayOf value
  return (day.addDays (-(day.weekday : Int))).text

def lastOfWeek (value : Value) : Outcome String := do
  let day ← dayOf value
  return (day.addDays (6 - (day.weekday : Int))).text

/-! ## Charts -/

def workStates : List String :=
  ["Not Started", "Overdue", "Pending", "Completed", "Closed", "Stopped"]

def statesChart (counts columns : Value) : Outcome Value := do
  let labels ← ((← columns.items).drop 1).mapM (·.get "label")
  let series ← workStates.mapM fun state => do
    return ⟨.str state, ← labels.mapM fun label => do (← counts.get state).getD label .null⟩
  return Chart.toValue ⟨labels, series, [Chart.kind "line"]⟩

def countState (counts state period : Value) : Outcome Value := do
  let inState ← counts.getD state .null
  let before ← inState.getD period .null
  let count ← if before.truth then Value.plus before (.int 1) else pure (.int 1)
  counts.setItem state (← inState.setItem period count)

def ringChart (title : String) (counts : List (String × Nat)) : Value :=
  Chart.toValue ⟨counts.map fun (label, _) => .str label,
    [⟨.str title, counts.map fun (_, count) => .nat count⟩],
    [Chart.kind "donut", ("height", .int 300)]⟩

def inspectionChart (inspections : Value) : Outcome Value := do
  let states ← (← inspections.items).mapM fun inspection => do
    let state ← inspection.field "status"
    if state.isAmong ["Accepted", "Rejected"] then return state
    throw (.missingKey state)
  let count (name : String) : Nat := (states.filter (·.isText name)).length
  return ringChart "Qty Wise Chart" [("Rejected", count "Rejected"), ("Accepted", count "Accepted")]

def ageRange (age : Value) : Outcome Nat := do
  let within (low high : Int) : Outcome Bool := do
    if ← Value.greaterThan age (.int low) then Value.atMost age (.int high) else return false
  if ← within 0 30 then return 0
  if ← within 30 60 then return 1
  if ← within 60 90 then return 2
  return 3

def ageChart (orders : Value) : Outcome Value := do
  let ranges ← (← orders.items).mapM fun order => do ageRange (← order.field "age")
  let labels := ["0-30 Days", "30-60 Days", "60-90 Days", "90 Above"]
  return ringChart "Qty Wise Chart" (labels.zipIdx.map fun (label, i) => (label, ranges.count i))

def stateColors : Value :=
  .ofFields ([("Production", "green"), ("Off", "gray"), ("Idle", "gray"), ("Problem", "red"),
    ("Maintenance", "yellow"), ("Setup", "blue")].map fun (state, color) => (state, .str color))

end ErpLens.Manufacturing
