import ErpLens.Reports.Chart

/-!
# Support

Issues by state and by hour, agreements on the level of service, help topics and appointments.
-/

namespace ErpLens.Support

def repeated (values : Value) : Outcome String := do
  let (_, found) := (← values.items).foldl (fun (seen, found) value =>
    if !Value.occursIn value seen then (seen ++ [Value.str value.text], found)
    else if !Value.occursIn value found then (seen, found ++ [Value.str value.text])
    else (seen, found)) (([] : List Value), ([] : List Value))
  return " ".intercalate (found.map Value.text)

def summarizeIssues (report : Value) : Outcome Value := do
  let rows ← (← report.field "data").items
  let figure (name label indicator : String) : Outcome Value := do
    let sum ← Value.total (← rows.mapM (·.get name))
    return .ofFields [("value", sum), ("indicator", .str indicator), ("label", .str label),
      ("datatype", .str "Int")]
  report.setField "report_summary" (.list [
    ← figure "open" "Open" "Red", ← figure "replied" "Replied" "Grey",
    ← figure "on_hold" "On Hold" "Grey", ← figure "resolved" "Resolved" "Green",
    ← figure "closed" "Closed" "Green"])

def dayParts : List String :=
  ["12AM - 3AM", "3AM - 6AM", "6AM - 9AM", "9AM - 12PM", "12PM - 3PM", "3PM - 6PM", "6PM - 9PM",
    "9PM - 12AM"]

def hoursChart (counts : Value) : Outcome Value := do
  let points ← dayParts.mapM fun part => counts.getD (.str part) (.int 0)
  return .ofFields [("data", .ofFields [("labels", .strs dayParts),
    ("datasets", .list [.ofFields [("values", .list points)]])]), ("type", .str "line")]

def helpTopics (service answer : Value) : Outcome Value := do
  let answer := answer.orElse (.ofFields [])
  let path ← (← service.field "response_result_key_path").asText "split"
  let found ← (Text.splitOn "," path).foldlM (fun (found : Value) key =>
    if found.truth then found.get key else answer.get key) (.ofFields [])
  return found.orElse (.list [])

def videoIds (videos : Value) : Outcome String := do
  Value.joinTexts "," (.list (← (← videos.items).mapM (·.field "youtube_video_id")))

/-! ## Units of time -/

def secondsOfTime (value unit : Value) : Outcome Value := do
  if !value.truth then return .int 0
  if unit.isText "Hours" then Value.times value (.int 3600)
  else if unit.isText "Minutes" then Value.times value (.int 60)
  else return .int 0

def secondsOfPeriod (value unit : Value) : Outcome Value := do
  if unit.isText "Hour" then Value.times value (.int 3600)
  else if unit.isText "Day" then Value.times (← Value.times value (.int 3600)) (.int 24)
  else if unit.isText "Week" then
    Value.times (← Value.times (← Value.times value (.int 3600)) (.int 24)) (.int 7)
  else return .int 0

/-! ## Appointments -/

def dayNames : List String :=
  ["Monday", "Tuesday", "Wednesday", "Thursday", "Friday", "Saturday", "Sunday"]

def dayName (value : Value) : Outcome String :=
  match value with
  | .date day => .ok (dayNames.getD day.weekday "")
  | .moment moment => .ok (dayNames.getD moment.date.weekday "")
  | other => .error (other.noField "weekday")

def slotsOn (start stop settings : Value) : Outcome Value := do
  let rows ← (← settings.field "availability_of_slots").items
  return .list (← rows.filterM fun row => do
    let day ← row.field "day_of_week"
    if day.isText (← dayName start) then return true
    return day.isText (← dayName stop))

def isHoliday (day list : Value) : Outcome Bool := do
  (← (← list.field "holidays").items).anyM fun holiday => return (← holiday.field "holiday_date") == day

def slotsOfDay (day slots : Value) : Outcome Value := do
  return .list (← (← slots.items).filterM fun slot => do
    match ← slot.key "time" with
    | .moment moment => return Value.date moment.date == day
    | other => throw (other.noField "date"))

end ErpLens.Support
