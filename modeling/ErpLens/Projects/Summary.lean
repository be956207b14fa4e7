import ErpLens.Reports.Chart

/-!
# Projects

Tasks, time sheets and what is told of projects.
-/

namespace ErpLens.Projects

open Reports

def hasTask (template task : Value) : Outcome Bool := do
  (← (← template.field "tasks").items).anyM fun row => return (← row.field "task") == task

def listDependencies (task : Value) : Outcome Value := do
  let text ← (← (← task.field "depends_on").items).foldlM (fun (text : Value) row => do
    let name ← row.field "task"
    if !name.truth then return text
    if ← text.contains name then return text
    Value.plus text (← Value.plus name (.str ","))) (.str "")
  task.setField "depends_on_tasks" text

def setBilledShare (sheet : Value) : Outcome Value := do
  let share (billed billable : String) : Outcome (Option Value) := do
    let done ← sheet.field billed
    if !(← Value.greaterThan done (.int 0)) then return none
    let whole ← sheet.field billable
    if !(← Value.greaterThan whole (.int 0)) then return none
    return some (← Value.dividedBy (← Value.times done (.int 100)) whole)
  let percent ← match ← share "total_billed_amount" "total_billable_amount" with
    | some percent => pure percent
    | none => pure ((← share "total_billed_hours" "total_billable_hours").getD (.int 0))
  sheet.setField "per_billed" percent

def chart (projects : Value) : Outcome Value := do
  let rows ← projects.items
  let column (name : String) : Outcome (List Value) := return (← rows.mapM (·.field name)).take 30
  return Chart.toValue ⟨← column "project_name",
    [⟨.str "Overdue", ← column "overdue_tasks"⟩, ⟨.str "Completed", ← column "completed_tasks"⟩,
      ⟨.str "Total Tasks", ← column "total_tasks"⟩],
    [Chart.kind "bar", Chart.colors ["#fc4f51", "#78d6ff", "#7575ff"],
      ("barOptions", .ofFields [("stacked", .bool true)])]⟩

def figure (value : Value) (indicator label datatype : String) : Value :=
  .ofFields [("value", value), ("indicator", .str indicator), ("label", .str label),
    ("datatype", .str datatype)]

def summary (projects : Value) : Outcome Value := do
  if !projects.truth then return .null
  let rows ← projects.items
  let sum (name : String) : Outcome Value := do Value.total (← rows.mapM (·.field name))
  let average ← Value.dividedBy (← sum "percent_complete") (.nat rows.length)
  let overdue ← sum "overdue_tasks"
  let isHalf ← Value.greaterThan average (.int 50)
  return .list [
    figure average (if isHalf then "Green" else "Red") "Average Completion" "Percent",
    figure (← sum "total_tasks") "Blue" "Total Tasks" "Int",
    figure (← sum "completed_tasks") "Green" "Completed Tasks" "Int",
    figure overdue (if overdue == .int 0 then "Green" else "Red") "Overdue Tasks" "Int"]

def groupRows (rows field : Value) : Outcome Value := do
  let keyed ← (← rows.items).mapM fun row => do return (← row.getD field .null, row)
  let groups ← Value.sortWith Value.lessThan (Value.distinct (keyed.map Prod.fst))
  let blocks ← groups.mapM fun group => do
    let members := (keyed.filter fun row => row.1 == group).map Prod.snd
    let sum (name : String) : Outcome Value := do Value.total (← members.mapM (·.get name))
    let names ← if field.isText "employee" then
        (members.take 1).mapM fun row => do
          return (Value.str "employee_name", ← row.get "employee_name")
      else pure []
    let head := Value.ofEntries ([(field, group), (.str "hours", ← sum "hours"),
      (.str "billing_hours", ← sum "billing_hours"),
      (.str "billing_amount", ← sum "billing_amount"), (.str "indent", .int 0),
      (.str "is_group", .int 1)] ++ names)
    let members ← members.mapM fun row => do
      (← row.setItem field .null).setKeys [("indent", .int 1), ("is_group", .int 0)]
    return head :: members
  return .list blocks.flatten

end ErpLens.Projects
