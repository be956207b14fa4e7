import ErpLens.Value.Arithmetic

/-!
# Financial statements

Views of the amounts of a statement: growth from period to period, and shares of the income.
-/

namespace ErpLens.Accounts

/-- The growth from one period to the next, in percent with two places. Growth from zero is a
hundred percent, and from below zero it is not told. -/
def growthPercent (previous current : Value) : Outcome Value := do
  let growth ←
    if previous == .int 0 && (← Value.greaterThan current (.int 0)) then pure (.int 1)
    else if ← Value.greaterThan previous (.int 0) then
      Value.dividedBy (← Value.minus current previous) previous
    else pure (.int 0)
  (← Value.times growth (.int 100)).rounded 2

def growthRow (keys : List Value) (row : Value) : Outcome Value :=
  (keys.zip keys.tail).foldlM (fun shown (previousKey, key) => do
    match ← row.getD key .null with
    | .null => shown.setItem key .null
    | current => shown.setItem key (← growthPercent (← row.getD previousKey .null) current)) row

def growthView (rows columns : Value) : Outcome Value := do
  let keys ← (← columns.items).mapM (·.get "key")
  rows.mapItems (growthRow keys)

def marginRow (base : Value) (keys : List Value) (row : Value) : Outcome Value :=
  if !row.truth then .ok row
  else keys.foldlM (fun (shown : Value) key => do
    let whole ← base.item key
    let part ← row.item key
    if part == .null || (← Value.atMost whole (.int 0)) then shown.setItem key .null
    else
      let share ← Value.times (← Value.dividedBy part whole) (.int 100)
      shown.setItem key (← share.rounded 2)) row

def marginView (rows columns accumulated : Value) : Outcome (Value × Value) := do
  if !columns.truth then return (rows, columns)
  let columns : Value ←
    if accumulated.truth then pure columns
    else Value.plus columns (.list [.ofFields [("key", .str "total")]])
  let base? ← (← rows.items).findM? fun row => return (← row.get "account_name") == .str "Income"
  match base? with
  | none => return (rows, columns)
  | some base =>
    let keys ← (← columns.items).mapM (·.get "key")
    return (← rows.mapItems (marginRow base keys), columns)

def companyPeriods (filters periods : Value) : Outcome Value := do
  let company ← filters.get "company"
  return .list ((← periods.items).filter (· == company))

end ErpLens.Accounts
