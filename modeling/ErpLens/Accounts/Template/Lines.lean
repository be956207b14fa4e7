import ErpLens.Value.Access

/-!
# Lines of a report template

A template is a list of lines. A line can have a reference code, by which the formulas of other
lines name it; the amounts of a calculated line depend on the lines that its formula names.
-/

namespace ErpLens.Accounts.Template

inductive Origin where
  | customApi
  | accountData
  | calculated
  | other
deriving Repr, DecidableEq

def Origin.ofValue (source : Value) : Origin :=
  if source == .str "Custom API" then .customApi
  else if source == .str "Account Data" then .accountData
  else if source == .str "Calculated Amount" then .calculated
  else .other

structure Line where
  code : String
  origin : Origin
  formula : String
  row : Value

namespace Line

def textField (row : Value) (name : String) : String :=
  match row.field? name with
  | some (.str text) => text
  | _ => ""

def ofRow (row : Value) : Line where
  code := textField row "reference_code"
  origin := .ofValue ((row.field? "data_source").getD .null)
  formula := textField row "calculation_formula"
  row := row

def isNamedCalculation (line : Line) : Bool :=
  line.code != "" && line.origin == .calculated && line.formula != ""

end Line

def codes (lines : List Line) : List String :=
  ((lines.map Line.code).filter (· != "")).eraseDups

def references (formula : String) (codes : List String) : List String :=
  codes.filter fun code => Text.occursAsWord code.toList none formula.toList

abbrev Graph := List (String × List String)

namespace Graph

def next (graph : Graph) (code : String) : List String :=
  (graph.lookup code).getD []

def put (code : String) (targets : List String) : Graph → Graph
  | [] => [(code, targets)]
  | (key, old) :: rest =>
    if key = code then (key, targets) :: rest else (key, old) :: put code targets rest

def ofValue (value : Value) : Outcome Graph := do
  match value with
  | .dict _ entries => entries.mapM fun (key, targets) => do
      return (key.text, (← targets.items).map Value.text)
  | other => throw other.notIterable

def toValue (graph : Graph) : Value :=
  .ofFields (graph.map fun (code, targets) => (code, .strs targets))

end Graph

/-- The dependencies between the lines of a template: for each calculated line with a code, the
codes that its formula names. -/
def dependencies (lines : List Line) : Graph :=
  lines.foldl (fun graph line =>
    if line.isNamedCalculation then
      match references line.formula (codes lines) with
      | [] => graph
      | found => graph.put line.code found
    else graph) []

def linesOf (template : Value) : Outcome (List Line) := do
  let rows ← (← template.field "rows").items
  rows.mapM fun row => do
    if (← row.field "reference_code").truth then
      if (← row.field "data_source") == .str "Calculated Amount" then
        let _ ← row.field "calculation_formula"
    return .ofRow row

end ErpLens.Accounts.Template
