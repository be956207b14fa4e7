import ErpLens.Accounts.Template.Circles
import ErpLens.Json.Read
import ErpLens.Text.Blank
import ErpLens.Text.Case

/-!
# Checks of single lines

Reference codes have a fixed form and are unique, lines have the fields that their origin needs,
formulas have as many closing as opening parentheses, and account filters are conditions joined by
"and" and "or".
-/

namespace ErpLens.Accounts.Template

/-! ## Codes and required fields -/

/-- A letter, then letters, digits, underscores and hyphens; only ASCII counts. -/
def isCode : List Char → Bool
  | [] => false
  | first :: rest => first.isAlpha && rest.all fun c => c.isAlphanum || c == '_' || c == '-'

def codeIssues (used : List String) (code : String) (line : Value) : List Issue :=
  (if isCode code.toList then [] else [{
    message := s!"Invalid line reference format: '{code}'. Must start with letter and contain " ++
      "only letters, numbers, underscores, and hyphens"
    line }]) ++
  (if used.contains code then [{ message := s!"Duplicate line reference: '{code}'", line }] else [])

def checkCodes (template : Value) : Outcome (Verdict Issue) := do
  let rows ← (← template.field "rows").items
  let (_, issues) ← rows.foldlM (fun (used, issues) row => do
    let code ← row.field "reference_code"
    if !code.truth then return (used, issues)
    let code := Text.trimmed (← code.asText "strip")
    let found := codeIssues used code ((row.field? "idx").getD .null)
    return (used ++ [code], issues ++ found)) (([] : List String), ([] : List Issue))
  return { errors := issues }

def originsWithFormula : List String :=
  ["Account Data", "Calculated Amount", "Custom API"]

def missingFields (row : Value) : Outcome (List Issue) := do
  let source ← row.field "data_source"
  let line := (row.field? "idx").getD .null
  let balance ←
    if source == .str "Account Data" && !(← row.field "balance_type").truth then
      pure [{ message := "Balance Type is required for Account Data", line }]
    else pure []
  let formula ←
    if originsWithFormula.any (source == .str ·) && !(← row.field "calculation_formula").truth then
      pure [{ message := s!"Formula is required for {source.text}", line }]
    else pure []
  return balance ++ formula

def checkStructure (template : Value) : Outcome (Verdict Issue) := do
  let codes ← checkCodes template
  let missing ← (← (← template.field "rows").items).mapM missingFields
  return codes.merge { errors := missing.flatten }

/-! ## Formulas -/

def cleanFormula : Value → String
  | .str text => Text.trimmed text
  | _ => ""

def isBalanced (formula : String) : Bool :=
  formula.toList.count '(' == formula.toList.count ')'

def checkFormula (known : List String) (row : Value) : Outcome (Verdict Issue × Value) := do
  if (← row.field "data_source") != .str "Calculated Amount" then return ({}, row)
  let line := (row.field? "idx").getD .null
  let written ← row.field "calculation_formula"
  if !written.truth then
    return (.error { message := "Formula is required for Calculated Amount", line
                     field := .str "Formula" }, row)
  let formula := cleanFormula written
  let row ← row.setField "calculation_formula" (.str formula)
  if !isBalanced formula then
    return (.error { message := "Formula has unbalanced parentheses", line }, row)
  match ← row.field "reference_code" with
  | .str code =>
    if code != "" && (references formula known).contains code then
      return (.error { message := s!"Formula references itself ('{code}')", line }, row)
    else return ({}, row)
  | _ => return ({}, row)

def checkRowFormula (validator row : Value) : Outcome (Verdict Issue × Value) := do
  let known ← match validator.field? "reference_codes" with
    | some codes => codes.items
    | none => pure []
  checkFormula (known.map Value.text) row

/-! ## Account filters -/

def operators : List String :=
  ["=", "!=", "<", ">", "<=", ">=", "+", "-", "*", "/", "in", "not in", "like", "not like",
    "between", "is", "regex", "timespan"]

mutual

/-- What is wrong with an account filter: a condition has a known field, an operator and a value; a
group has one logical operator and at least one part. -/
def filterProblem? (fields : Value) : Value → Outcome (Option String)
  | .list [field, operator, value] => do
    match field, operator with
    | .str name, .str sign =>
      if !(← fields.contains field) then
        return some s!"Field '{name}' is not a valid account field"
      if !operators.contains (Text.lower sign) then return some s!"Invalid operator '{sign}'"
      match value with
      | .list _ => return none
      | _ => return if sign == "in" || sign == "not in"
          then some s!"Operator '{sign}' requires a list value" else none
    | _, _ => return some "Field and operator must be strings"
  | .list _ => .ok (some "Filter must be [field, operator, value]")
  | .dict _ [(key, conditions)] => do
    let key ← key.asText "lower"
    if !(["and", "or"].contains (Text.lower key)) then
      return some "Logical operators must be 'and' or 'or'"
    match conditions with
    | .list (first :: rest) => filterProblems? fields (first :: rest)
    | _ => return some "Logical conditions need at least 1 sub-condition"
  | .dict _ _ => .ok (some "Logical condition must have exactly one operator")
  | _ => .ok (some "Filter must be a list or dict")

def filterProblems? (fields : Value) : List Value → Outcome (Option String)
  | [] => .ok none
  | first :: rest => do
    match ← filterProblem? fields first with
    | some problem => return some problem
    | none => filterProblems? fields rest

end

def checkFilter (fields row : Value) : Outcome (Verdict Issue) := do
  if (← row.field "data_source") != .str "Account Data" then return {}
  let line := (row.field? "idx").getD .null
  let written ← row.field "calculation_formula"
  if !written.truth then
    return .error { message := "Account filter is required for Account Data", line
                    field := .str "Formula" }
  let text ← Json.textIn written
  match Json.parse text with
  | .error fault =>
    return .error { message := "Invalid JSON format: " ++ fault.message text, line
                    field := .str "Account Filter" }
  | .ok filter =>
    match ← filterProblem? fields filter with
    | some message => return .error { message, line, field := .str "Account Filter" }
    | none => return {}

def checkRowFilter (validator row : Value) : Outcome (Verdict Issue) :=
  checkFilter ((validator.field? "account_fields").getD (.set [])) row

def checkApiPath (row : Value) : Outcome (Verdict Issue) := do
  if ← (← row.field "calculation_formula").contains (.str ".") then return {}
  return .error { message := "Custom API path should be in format: app.module.method"
                  line := (row.field? "idx").getD .null
                  field := .str "Formula" }

end ErpLens.Accounts.Template
