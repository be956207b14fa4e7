import ErpLens.Reports.Chart

/-!
# Charts of statements
-/

namespace ErpLens.Accounts

open Reports

def periodColumns (columns : Value) : Outcome (List Value) :=
  return (← columns.items).drop 2

def valuesIn (columns : List Value) (row : Value) : Outcome (List Value) :=
  columns.mapM fun column => do row.getD (← column.get "fieldname") .null

def totalSeries (name : String) (columns : List Value) (rows : Value) : Outcome (List Series) := do
  if !rows.truth || columns.isEmpty then return []
  return Series.filled name (← valuesIn columns (← rows.item (.int (-2))))

def statementChart (filters : Value) (columns : List Value) (series : List Series)
    (currency : Value) : Outcome Value := do
  let kind := if (← filters.field "accumulated_values").truth then "line" else "bar"
  return Chart.toValue ⟨← columns.mapM (·.get "label"), series,
    Chart.kind kind :: Chart.amounts currency⟩

def balanceChart (filters columns asset liability equity currency : Value) : Outcome Value := do
  let columns ← periodColumns columns
  let series := (← totalSeries "Assets" columns asset) ++
    (← totalSeries "Liabilities" columns liability) ++ (← totalSeries "Equity" columns equity)
  statementChart filters columns series currency

def profitChart (filters columns income expense net currency : Value) : Outcome Value := do
  let columns ← periodColumns columns
  let netSeries ← if net.truth && !columns.isEmpty then
      pure (Series.filled "Net Profit/Loss" (← valuesIn columns net))
    else pure []
  let series := (← totalSeries "Income" columns income) ++
    (← totalSeries "Expense" columns expense) ++ netSeries
  statementChart filters columns series currency

def cashFlowSections : Value :=
  let section_ (name : String) (accounts : List (String × String)) : Value := .ofFields [
    ("section_name", .str name), ("section_footer", .str s!"Net Cash from {name}"),
    ("section_header", .str s!"Cash Flow from {name}"),
    ("account_types", .list (accounts.map fun (kind, label) =>
      .ofFields [("account_type", .str kind), ("label", .str label)]))]
  .list [
    section_ "Operations" [("Depreciation", "Depreciation"),
      ("Receivable", "Net Change in Accounts Receivable"),
      ("Payable", "Net Change in Accounts Payable"), ("Stock", "Net Change in Inventory")],
    section_ "Investing" [("Fixed Asset", "Net Change in Fixed Asset")],
    section_ "Financing" [("Equity", "Net Change in Equity")]]

def cashFlowChart (columns rows currency : Value) : Outcome Value := do
  let columns ← periodColumns columns
  let sections ← (← rows.items).filterM fun row => do
    return (← row.get "parent_section") == .null && (← row.get "currency").truth
  let series ← sections.mapM fun row => do
    let name ← (← row.get "section").asText "replace"
    return ⟨.str (Text.replaceAll "'" "" name), ← valuesIn columns row⟩
  return Chart.toValue ⟨← columns.mapM (·.get "label"), Value.takeTo (-2) series,
    Chart.kind "bar" :: Chart.amounts currency⟩

def cashFlowSummary (figures currency : Value) : Outcome Value := do
  return .list ((← figures.entries).map fun (label, value) => .ofFields [("value", value),
    ("label", label), ("datatype", .str "Currency"), ("currency", currency)])

end ErpLens.Accounts
