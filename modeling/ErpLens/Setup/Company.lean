import ErpLens.Value.Arithmetic

/-!
# Companies, digests and clean-up
-/

namespace ErpLens.Setup

def inheritAccounts (company : Value) : Outcome Value := do
  let parent ← company.field "parent_company"
  if !parent.truth then return company
  company.setFields [("create_chart_of_accounts_based_on", .str "Existing Company"),
    ("existing_company", parent)]

def setDigestStyle (context : Value) : Outcome Value :=
  context.setFields [
    ("text_muted", .str "#8D99A6"), ("text_color", .str "#36414C"),
    ("h1", .str "margin-bottom: 30px; margin-top: 40px; font-weight: 400; font-size: 30px;"),
    ("h2", .str "margin-bottom: 30px; margin-top: -20px; font-weight: 400; font-size: 20px;"),
    ("label_css", .str ("display: inline-block; color: #8D99A6;\n" ++
      "\t\t\tpadding: 3px 7px; margin-right: 7px;")),
    ("section_head", .str "margin-top: 60px; font-size: 16px;"),
    ("line_item", .str "padding: 5px 0px; margin: 0; border-bottom: 1px solid #d1d8dd;"),
    ("link_css", .str "color: #36414C; text-decoration: none;")]

def setDigestTitle (digest context : Value) : Outcome Value := do
  let titled (title subtitle : String) : Outcome Value :=
    context.setFields [("title", .str title), ("subtitle", .str subtitle)]
  match ← digest.field "frequency" with
  | .str "Daily" => titled "Daily Reminders" "Pending activities for today"
  | .str "Weekly" => titled "This Week's Summary" "Summary for this week and pending activities"
  | .str "Monthly" => titled "This Month's Summary" "Summary for this month and pending activities"
  | _ => return context

def jobNames (record : Value) : Outcome (List (Value × String)) := do
  (← (← record.field "task_to_internal_method_map").entries).mapM fun (task, method) => do
    return (task, (← record.field "name").text ++ "_" ++ method.text)

def allJobs (record : Value) : Outcome (List String) := do
  return (← jobNames record).map Prod.snd

def laterJobs (record task : Value) : Outcome (List String) := do
  let jobs ← jobNames record
  match jobs.findIdx? fun job => job.1 == task with
  | some i => return (jobs.drop (i + 1)).map Prod.snd
  | none => throw (.badValue (task.literal ++ " is not in list"))

def setReviewState (review : Value) : Outcome Value := do
  let reviews ← review.field "reviews"
  let states ← (← (reviews.orElse (.list [])).items).mapM (·.field "status")
  let state := if states.isEmpty || states.any (·.isText "Open") then "Open"
    else if states.any (·.isText "Failed") then "Failed" else "Passed"
  review.setField "status" (.str state)

def dateFilter (request : Value) : Outcome Value := do
  (← (← request.get "filters").items).foldlM (fun (found : Value) row =>
    match row with
    | .list cells =>
      if Value.occursIn (.str "date") cells then row.item (.int 3) else .ok found
    | _ => .ok found) .null

end ErpLens.Setup
