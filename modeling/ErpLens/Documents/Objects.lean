import ErpLens.Accounts.Template.Circles
import ErpLens.Accounts.Template.Filters
import ErpLens.Accounts.Template.Layout
import ErpLens.Manufacturing.BillTree

/-!
# Working objects

The objects that documents are worked on with, made from parts that are given in order. A part that
is left out has a usual value.
-/

namespace ErpLens.Documents

def partsOf : String → Fields
  | "ValidationIssue" =>
    [("message", .null), ("row_idx", .null), ("field", .null), ("details", .ofFields [])]
  | "ValidationResult" => [("issues", .list []), ("warnings", .list [])]
  | "PeriodValue" =>
    [("period_key", .null), ("opening", .float 0), ("closing", .float 0), ("movement", .float 0)]
  | "AccountData" =>
    [("account", .null), ("account_name", .str ""), ("account_number", .str ""),
      ("period_values", .ofFields [])]
  | "FormulaFieldExtractor" => [("field_name", .null), ("exclude_operators", .list [])]
  | "FormulaFieldUpdater" =>
    [("field_name", .null), ("value_mapping", .null), ("exclude_operators", .list [])]
  | "DependencyValidator" => [("template", .null)]
  | "FormattingEngine" => [("rules", Accounts.Template.standardRules)]
  | "FIFOValuation" => [("queue", .list [])]
  | "LIFOValuation" => [("stack", .list [])]
  | "BOMTree" => [("name", .null), ("is_bom", .bool true), ("exploded_qty", .float 1), ("qty", .int 1)]
  | _ => []

def filledParts : List String := ["details", "queue", "stack"]

/-- An object of a class. Operators to leave out are kept in lower case, a template comes with its
dependencies, and a node of a bill has no items below it. -/
def make (class_ : String) (given : List Value) : Outcome Value := do
  let parts := (partsOf class_).zipIdx.map fun ((name, usual), i) =>
    let value := given.getD i usual
    (name, if filledParts.contains name && !value.truth then usual else value)
  let object := Value.object class_ parts
  match class_, parts with
  | "BOMTree", [(_, name), (_, isBill), (_, exploded), (_, quantity)] =>
    return Manufacturing.leafNode name isBill exploded quantity
  | "DependencyValidator", [(_, template)] => Accounts.Template.resolve template
  | _, _ =>
    match object.field? "exclude_operators" with
    | some operators =>
      object.setField "exclude_operators" (← Accounts.Template.lowerOperators operators)
    | none => return object

/-! ## Arguments of calls -/

/-- The parameters of functions that can be left out or given by name, with what they are then. -/
def parameters : List (String × Fields) := [
  ("filter_accounts", [("accounts", .null), ("depth", .int 20)]),
  ("sort_accounts", [("accounts", .null), ("is_root", .bool false), ("key", .str "name")]),
  ("get_revenue", [("data", .null), ("period_list", .null), ("include_in_gross", .int 1)]),
  ("get_api_endpoint", [("service_provider", .null), ("use_http", .bool false)]),
  ("update_balances", [("ratio_dict", .null), ("total_dict", .null), ("account_type", .null),
    ("year", .null), ("root_type_data", .null), ("root_type", .null), ("net_dict", .null),
    ("total_net", .int 0)])]

/-- The arguments of a call: those given in order, then those given by name, then the usual ones. -/
def arguments (function : String) (given : List Value) (named : Entries) : List Value :=
  match parameters.lookup function with
  | some listed => listed.zipIdx.map fun ((name, usual), i) =>
    given.getD i ((Value.findEntry (.str name) named).getD usual)
  | none => given ++ named.map Prod.snd

end ErpLens.Documents
