import ErpLens.Accounts.Template.Balances
import ErpLens.Text.Blank

/-!
# Laying out the rows of a report

A report is shown in sections, a section in segments side by side, a segment in rows. With one
segment each row is shown under its own fields; with several, under fields marked with the segment.
-/

namespace ErpLens.Accounts.Template

/-! ## How a row is marked -/

def rowField (shown : Value) (name : String) (otherwise : Value) : Outcome Value := do
  return (← shown.field "row").fieldOr name otherwise

def switchMarks : List (String × String) :=
  [("bold_text", "bold"), ("italic_text", "italic")]

def fixedMarks : List Fields :=
  [[("bold", .bool true)], [("italic", .bool true)],
    [("is_detail", .bool true), ("prefix", .str "• ")], [("warn_if_negative", .bool true)],
    [("is_blank_line", .bool true)]]

/-- The rules for marks as a report holds them; the last three read their marks off the row. -/
def standardRules : Value :=
  .list (fixedMarks.map (fun marks =>
      .object "FormattingRule" [("format_properties", .ofFields marks)]) ++
    List.replicate 3 (.object "FormattingRule" []))

def textMark (shown : Value) (name mark : String) : Outcome Fields := do
  let value ← rowField shown name (.str "")
  if value.truth then return [(mark, .str (Text.trimmed (← value.asText "strip")))] else return []

def marks (shown : Value) : Outcome Fields := do
  let switched : Fields ← switchMarks.filterMapM fun (name, mark) => do
    return if (← rowField shown name (.bool false)).truth then some (mark, .bool true) else none
  let detail : Fields := if (← shown.field "is_detail_row").truth
    then [("is_detail", .bool true), ("prefix", .str "• ")] else []
  let warning : Fields :=
    if (← rowField shown "warn_if_negative" (.bool false)).truth
    then [("warn_if_negative", .bool true)] else []
  let source ← rowField shown "data_source" (.str "")
  let blank : Fields :=
    if source == .str "Blank Line" then [("is_blank_line", .bool true)] else []
  let kind ← textMark shown "fieldtype" "fieldtype"
  let color ← textMark shown "color" "color"
  let filters : Fields ←
    if source == .str "Account Data" then do
      let formula ← rowField shown "calculation_formula" (.str "")
      pure [("account_filters", .str (Text.trimmed (← formula.asText "strip")))]
    else pure []
  return switched ++ detail ++ warning ++ blank ++ kind ++ color ++ filters

def marksUnder (engine shown : Value) : Outcome Value := do
  if (← engine.field "rules").truth then return .ofFields (← marks shown)
  else return .dict .plain []

/-! ## The values of a row -/

def valueInPeriod (shown : Value) (index : Value) : Outcome Value := do
  let values ← shown.field "values"
  if ← Value.lessThan index (.nat (← values.size)) then values.item index else return .str ""

def fieldOrElse (value : Value) (name : String) (default : Value) : Value :=
  (value.fieldOr name default).orElse default

def countedAmount (value : Value) : Value :=
  match value.num? with
  | some number => .float number.toFloat
  | none => .float 0

def shownValues (layout shown : Value) : Outcome Value := do
  let context ← layout.field "context"
  let filters ← context.field "filters"
  let row ← shown.field "row"
  let details ← shown.field "account_details"
  let children ← if details.truth then details.items else pure []
  let display := fieldOrElse row "display_name" (.str "")
  let base : Fields := [
    ("account", (fieldOrElse row "account" (.str "")).orElse display), ("account_name", display),
    ("acc_name", fieldOrElse row "account_name" (.str "")),
    ("acc_number", fieldOrElse row "account_number" (.str "")), ("child_accounts", .list children),
    ("currency", (← context.field "currency").orElse (.str "")),
    ("indent", fieldOrElse row "indentation_level" (.int 0)),
    ("period_start_date", fieldOrElse filters "period_start_date" (.str "")),
    ("period_end_date", fieldOrElse filters "period_end_date" (.str "")), ("total", .int 0)]
  let periods ← (← layout.field "period_list").items
  let sums := (← filters.get "accumulated_values") == .int 0
  let values ← periods.zipIdx.foldlM (fun (values : Value) (period, index) => do
    let value ← valueInPeriod shown (.nat index)
    let values ← values.setItem (← period.key "key") value
    if sums then values.addKey "total" (countedAmount value) else return values)
    (.ofFields base)
  if sums && (← row.field "fieldtype") == .str "Percent" then
    values.setKey "total" (← Value.dividedBy (← values.key "total") (.nat periods.length))
  else return values

def update (value entries : Value) : Outcome Value := do
  (← entries.entries).foldlM (fun value (key, new) => value.setItem key new) value

def singleRow (layout segments index : Value) : Outcome Value := do
  if !segments.truth then return .dict .plain []
  let rows ← (← segments.item (.int 0)).field "rows"
  if ← Value.atLeast index (.nat (← rows.size)) then return .dict .plain []
  let shown ← rows.item index
  let values ← shownValues layout shown
  update values (← marksUnder (← layout.field "formatting_engine") shown)

def segmentName (segment : Value) : Outcome String := do
  match segment with
  | .object _ _ => return "seg_" ++ (← segment.field "index").text
  | other => return (← other.field "id").text

def layoutKeys (layout : Value) : Outcome (List Value) := do
  (← (← layout.field "period_list").items).mapM (·.key "key")

def emptySegment (layout : Value) (name : String) : Outcome Value := do
  return .ofFields (("account_" ++ name, .str "") ::
    (← layoutKeys layout).map fun key => (name ++ "_" ++ key.text, .str ""))

def multiRow (layout segments index : Value) : Outcome Value := do
  let start : Value := .ofFields [("segment_values", .dict .plain [])]
  (← segments.items).foldlM (fun row segment => do
    let name ← segmentName segment
    let rows ← segment.field "rows"
    if ← Value.lessThan index (.nat (← rows.size)) then
      let shown ← rows.item index
      let values ← shownValues layout shown
      let fields := (← values.entries).map fun (key, value) => (name ++ "_" ++ key.text, value)
      let row ← row.setKeys fields
      let marked ← update values (← marksUnder (← layout.field "formatting_engine") shown)
      row.setKey "segment_values" (← (← row.key "segment_values").setKey name marked)
    else
      let row ← update row (← emptySegment layout name)
      row.setKey "segment_values" (← (← row.key "segment_values").setKey name
        (.ofFields [("is_blank_line", .bool true)]))) start

/-! ## Columns -/

def singleColumns (columns : Value) : Outcome Value :=
  columns.mapItems fun column => do
    if (← column.key "fieldname") == .str "account" then column.setKey "align" (.str "left")
    else return column

def segmentColumn (periods : List Value) (segment column : Value) : Outcome Value := do
  let name ← segmentName segment
  let fieldName ← column.key "fieldname"
  let label ← segment.field "label"
  let new ← column.setKey "fieldname" (.str (name ++ "_" ++ fieldName.text))
  let new ← if fieldName == .str "account" then do
      let title ← if label.truth then pure label else do
        let number ← Value.plus (← segment.field "index") (.int 1)
        pure (.str s!"Account (Segment {number.text})")
      new.setKeys [("label", title), ("align", .str "left")]
    else pure new
  if label.truth && Value.occursIn fieldName periods then
    new.setKey "label" (.str (label.text ++ " - " ++ (← column.key "label").text))
  else return new

def multiColumns (layout segments columns : Value) : Outcome Value := do
  let segments ← segments.items
  let columns ← columns.items
  let all ← segments.mapM fun segment => columns.mapM fun column => do
    let keys ← if (← segment.field "label").truth then layoutKeys layout else pure []
    segmentColumn keys segment column
  return .list all.flatten

/-! ## Sections -/

def segmentCount (section_ : Value) : Outcome Nat := do
  (← section_.field "segments").size

def maxSegments (organizer : Value) : Outcome Value := do
  let sections ← (← organizer.field "sections").items
  Value.largest (← sections.mapM fun found => return .nat (← segmentCount found))

def isSingleSegment (organizer : Value) : Outcome Value := do
  return .bool ((← maxSegments organizer) == .int 1)

def maxRows (section_ : Value) : Outcome Value := do
  let segments ← section_.field "segments"
  if !segments.truth then return .int 0
  Value.largest (← (← segments.items).mapM fun segment =>
    return .nat (← (← segment.field "rows").size))

def widestSection (organizer : Value) : Outcome Value := do
  match ← (← organizer.field "sections").items with
  | [] => throw (.badValue "max() arg is an empty sequence")
  | first :: rest =>
    let size ← segmentCount first
    let (widest, _) ← rest.foldlM (fun (best, size) found => do
      let count ← segmentCount found
      return if size < count then (found, count) else (best, size)) (first, size)
    return widest

/-- Whether a row is shown: blank lines always, hidden rows never, rows that hide when empty only
with a value above one hundredth. -/
def isShown (shown : Value) : Outcome Bool := do
  let row ← shown.field "row"
  if (← row.field "data_source") == .str "Blank Line" then return true
  if (row.fieldOr "hidden_calculation" (.bool false)).truth then return false
  if !(row.fieldOr "hide_when_empty" (.bool false)).truth then return true
  return (← (← shown.field "values").items).any fun value =>
    match value.num? with
    | some number => number.toFloat.abs > 0.01
    | none => false

/-! ## Details, account rows and growth -/

def detailRow (account parent : Value) : Outcome Value := do
  let name := (← account.field "account_name").orElse (.str "")
  let number := (← account.field "account_number").orElse (.str "")
  let display := if number.truth then .str s!"{number.text} - {name.text}" else name
  let level ← Value.plus (parent.fieldOr "indentation_level" (.int 0)) (.int 1)
  return .object "DetailRow" [
    ("account", ← account.field "account"), ("display_name", display), ("account_name", name),
    ("account_number", number), ("data_source", .str "Account Detail"),
    ("indentation_level", level), ("fieldtype", parent.fieldOr "fieldtype" .null),
    ("bold_text", .bool false), ("italic_text", .bool true),
    ("reverse_sign", parent.fieldOr "reverse_sign" (.bool false)),
    ("warn_if_negative", parent.fieldOr "warn_if_negative" (.bool false)),
    ("hide_when_empty", parent.fieldOr "hide_when_empty" (.bool false)),
    ("hidden_calculation", .bool false)]

def reportRow (row values details isDetail parent : Value) : Value :=
  .object "RowData" [("row", row), ("values", values), ("account_details", details),
    ("is_detail_row", isDetail), ("parent_reference", parent)]

def detailRows (builder : Value) : Outcome Value := do
  let shown ← builder.field "parent_row_data"
  let details ← shown.field "account_details"
  if !details.truth then return .list []
  let parent ← shown.field "row"
  return .list (← (← details.values).mapM fun account => do
    let row ← detailRow account parent
    let values ← amounts account (parent.fieldOr "balance_type" (.str "Closing Balance"))
    return reportRow row values .null (.bool true) (← parent.field "reference_code"))

def accountRow (processor row summary details : Value) : Outcome (Value × Value) := do
  let code ← row.field "reference_code"
  let count ← (← processor.field "period_list").size
  let values ← summary.getD code (.list (List.replicate count (.float 0)))
  let found ← details.getD code (.dict .plain [])
  let processor ← if code.truth then do
      processor.setField "row_values" (← (← processor.field "row_values").setItem code values)
    else pure processor
  return (reportRow row values found (.bool false) .null, processor)

def growth (previous current : Value) : Outcome Value := do
  match current with
  | .null => return .null
  | _ =>
    if previous == .int 0 then
      if ← Value.greaterThan current (.int 0) then return .float 100
      if ← Value.atMost current (.int 0) then return .float 0
    let change ← Value.dividedBy (← Value.minus current previous) (← Value.absolute previous)
    match (← Value.times change (.int 100)).num? with
    | some number => return .float (Decimal.roundTo 2 number.toFloat)
    | none => return .float 0

end ErpLens.Accounts.Template
