import ErpLens.Source.Evaluate
import ErpLens.Text.Case

/-!
# Values in account filters

A filter is a condition, a list of field, operator and value, or a group, a dictionary from logical
operators to lists of filters. Conditions with an excluded operator are left alone.
-/

namespace ErpLens.Accounts.Template

/-- Which conditions are meant: those on a field whose operator, in lower case, is not excluded. -/
structure Selection where
  field : Value
  excluded : List Value

namespace Selection

def ofValue (value : Value) : Outcome Selection := do
  return ⟨← value.field "field_name", ← (← value.field "exclude_operators").items⟩

def applies (selection : Selection) (field operator : Value) : Outcome Bool := do
  if field != selection.field then return false
  return !Value.occursIn (.str (Text.lower (← operator.asText "lower"))) selection.excluded

end Selection

def lowerOperators (operators : Value) : Outcome Value := do
  if !operators.truth then return .list []
  return .list (← (← operators.items).mapM fun operator => do
    return .str (Text.lower (← operator.asText "lower")))

/-! ## Renaming -/

def renameText (names : Value) : Value → Outcome Value
  | .str text => names.getD (.str text) (.str text)
  | other => .ok other

def renameValue (names : Value) : Value → Outcome Value
  | .list items => return .list (← items.mapM (renameText names))
  | value => renameText names value

mutual

def rename (selection : Selection) (names : Value) : Value → Outcome Value
  | .list [field, operator, value] => do
    if ← selection.applies field operator then
      return .list [field, operator, ← renameValue names value]
    return .list [field, operator, value]
  | .dict _ entries => return .dict .plain (← renameEntries selection names entries)
  | other => .ok other

def renameAll (selection : Selection) (names : Value) : List Value → Outcome (List Value)
  | [] => .ok []
  | first :: rest =>
    return (← rename selection names first) :: (← renameAll selection names rest)

def renameParts (selection : Selection) (names : Value) : Value → Outcome Value
  | .list parts | .tuple parts | .set parts | .deque parts =>
    return .list (← renameAll selection names parts)
  | other => return .list (← other.items)

def renameEntries (selection : Selection) (names : Value) : Entries → Outcome Entries
  | [] => .ok []
  | (key, parts) :: rest => do
    let parts ← renameParts selection names parts
    return (key, parts) :: (← renameEntries selection names rest)

end

def renameWith (updater filter : Value) : Outcome Value := do
  rename (← Selection.ofValue updater) (← updater.field "value_mapping") filter

def renameValueWith (updater value : Value) : Outcome Value := do
  renameValue (← updater.field "value_mapping") value

/-! ## Collecting -/

def comparedTexts : Value → List Value
  | .str text => [.str text]
  | .list items => items.filter fun item =>
    match item with
    | .str _ => true
    | _ => false
  | _ => []

mutual

def collect (selection : Selection) : Value → Outcome (List Value)
  | .list [field, operator, value] => do
    return if ← selection.applies field operator then comparedTexts value else []
  | .dict _ entries => collectEntries selection entries
  | _ => .ok []

def collectAll (selection : Selection) : List Value → Outcome (List Value)
  | [] => .ok []
  | first :: rest => return (← collect selection first) ++ (← collectAll selection rest)

def collectEntries (selection : Selection) : Entries → Outcome (List Value)
  | [] => .ok []
  | (_, .list parts) :: rest =>
    return (← collectAll selection parts) ++ (← collectEntries selection rest)
  | _ :: rest => collectEntries selection rest

end

def rowFilter? (row : Value) : Outcome (Option Value) := do
  match row.field? "calculation_formula" with
  | none => return none
  | some formula =>
    if !formula.truth then return none
    match formula with
    | .str text =>
      match Source.evaluateLiteral text with
      | .ok filter => return some filter
      | .error (.badValue _) | .error (.malformedSource _) => return none
      | .error fault => throw fault
    | _ => return none

def collectFromRows (selection : Selection) (rows : Value) : Outcome Value := do
  let found ← (← rows.items).mapM fun row => do
    match ← rowFilter? row with
    | some filter => collect selection filter
    | none => return []
  return .set (found.flatten.foldl (fun members value =>
    if Value.occursIn value members then members else members ++ [value]) [])

end ErpLens.Accounts.Template
