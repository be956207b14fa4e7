import ErpLens.Value.Arithmetic

/-!
# Gross and net profit

Of the accounts only those that count towards gross profit are kept, or only the others; groups that
are left without accounts go, and the values of the others are added up again.
-/

namespace ErpLens.Accounts

structure ProfitRow (κ α : Type) where
  position : Nat
  account : κ
  parent : κ
  isTop : Bool
  isGroup : Bool
  isIncluded : Bool
  values : List α
  total : α

abbrev ProfitRows (κ α : Type) := List (ProfitRow κ α)

variable {κ α : Type} [BEq κ]

def ProfitRow.hasChild (rows : ProfitRows κ α) (group : ProfitRow κ α) : Bool :=
  rows.any fun row => row.parent == group.account

def dropIfEmpty (state : ProfitRows κ α × Bool) (row : ProfitRow κ α) :
    ProfitRows κ α × Bool :=
  if row.isGroup && !row.hasChild state.1 then
    (state.1.filter fun other => other.position != row.position, true)
  else state

def dropEmptyGroups (rows : ProfitRows κ α) : ProfitRows κ α × Bool :=
  rows.foldl dropIfEmpty (rows, false)

def dropAllEmptyGroups : Nat → ProfitRows κ α → ProfitRows κ α
  | 0, rows => rows
  | fuel + 1, rows =>
    match dropEmptyGroups rows with
    | (kept, true) => dropAllEmptyGroups fuel kept
    | (kept, false) => kept

abbrev Totals (κ α : Type) := List (κ × α)

namespace Totals

variable [Add α] [Zero α] [BEq α]

def add (account : κ) (value : α) : Totals κ α → Totals κ α
  | [] => [(account, 0 + value)]
  | (key, total) :: rest =>
    if key == account then (key, (if total == 0 then 0 else total) + value) :: rest
    else (key, total) :: add account value rest

def addUpwards (rows : ProfitRows κ α) (value : α) :
    Nat → ProfitRow κ α → Totals κ α → Outcome (Totals κ α)
  | 0, _, _ => .error .endless
  | fuel + 1, row, totals =>
    let totals := totals.add row.account value
    if row.isTop then .ok totals
    else
      match rows.find? fun other => other.account == row.parent with
      | none => .error .exhausted
      | some next => addUpwards rows value fuel next totals

end Totals

section Adjust

variable [Add α] [Zero α] [BEq α]

def groupValues (rows : ProfitRows κ α) (group : ProfitRow κ α) : List α :=
  (rows.filter fun row => row.parent == group.account).foldl
    (fun sums row => List.zipWith (· + ·) sums row.values) (group.values.map fun _ => 0)

def replaceRow (rows : ProfitRows κ α) (new : ProfitRow κ α) : ProfitRows κ α :=
  rows.map fun row => if row.position == new.position then new else row

def takeTotal (missing : κ → Fault) (rows : ProfitRows κ α) (totals : Totals κ α)
    (row : ProfitRow κ α) : Outcome (ProfitRows κ α × Totals κ α) :=
  match totals.find? fun entry => entry.1 == row.account with
  | none => .error (missing row.account)
  | some entry => .ok (replaceRow rows { row with total := entry.2 }, totals)

/-- Adds up one row: the values of a group are those of its rows, and the total of an account goes
to all groups around it. -/
def adjustRow (missing : κ → Fault) (state : ProfitRows κ α × Totals κ α)
    (place : ProfitRow κ α) : Outcome (ProfitRows κ α × Totals κ α) :=
  let row := (state.1.find? fun other => other.position == place.position).getD place
  if row.isGroup then
    takeTotal missing state.1 state.2 { row with values := groupValues state.1 row }
  else do
    let totals ← state.2.addUpwards state.1 row.total (state.1.length + 1) row
    takeTotal missing state.1 totals row

def adjustTotals (missing : κ → Fault) (rows : ProfitRows κ α) :
    Outcome (ProfitRows κ α) := do
  return (← rows.reverse.foldlM (adjustRow missing) (rows, [])).1

def revenue (missing : κ → Fault) (rows : ProfitRows κ α) : Outcome (ProfitRows κ α) :=
  let chosen := rows.filter fun row => row.isIncluded || row.isGroup
  adjustTotals missing (dropAllEmptyGroups (chosen.length + 1) chosen)

end Adjust

/-! ## Rows of reports -/

def periodValue (row : Value) (isGroup : Bool) (period : Value) : Outcome Num :=
  if isGroup then row.getD period (.int 0) >>= Value.number
  else row.item period >>= Value.number

def profitRow (periods : List Value) (included : Value) (row : Value) (position : Nat) :
    Outcome (ProfitRow Value Num) := do
  let isGroup := (← row.get "is_group").truth
  let values ← periods.mapM (periodValue row isGroup)
  let parent ← row.get "parent_account"
  return {
    position
    account := ← row.get "account"
    parent
    isTop := parent == .str ""
    isGroup
    isIncluded := (← row.get "include_in_gross") == included
    values
    total := ← ((← row.get "total").orElse (.int 0)).number }

def ProfitRow.writeTo (periods : List Value) (new : ProfitRow Value Num) (row : Value) :
    Outcome Value :=
  let values := if new.isGroup then periods.zip new.values else []
  (values ++ [(Value.str "total", new.total)]).foldlM
    (fun row field => row.setItem field.1 field.2.toValue) row

def periodKeysOf (periods : Value) : Outcome (List Value) := do
  (← periods.items).mapM (·.field "key")

def writeRows (periods : List Value) (items : List Value) (new : List (ProfitRow Value Num)) :
    Outcome (List Value) :=
  new.foldlM (fun items row => do
    return items.set row.position (← row.writeTo periods (items.getD row.position .null))) items

def adjustReport (rows periods : Value) : Outcome Value := do
  let items ← rows.items
  let keys ← periodKeysOf periods
  let typed ← items.zipIdx.mapM fun entry => profitRow keys .null entry.1 entry.2
  return .list (← writeRows keys items (← adjustTotals .missingKey typed))

/-- The rows of a report that count towards gross profit or, with `included` zero, those that do
not; and all rows as they are then. -/
def revenueRows (rows periods included : Value) : Outcome (Value × Value) := do
  let items ← rows.items
  let keys ← periodKeysOf periods
  let included := if included == .null then .int 1 else included
  for row in items do
    if (← row.key "include_in_gross") != included then let _ ← row.key "is_group"
  let typed ← items.zipIdx.mapM fun entry => profitRow keys included entry.1 entry.2
  let found ← revenue .missingKey typed
  let after ← writeRows keys items found
  return (.list (found.map fun row => after.getD row.position .null), .list after)

def dropEmptyGroupRows (rows : Value) : Outcome (Value × Bool) := do
  let items ← rows.items
  let typed ← items.zipIdx.mapM fun entry => profitRow [] .null entry.1 entry.2
  let (kept, dropped) := dropEmptyGroups typed
  return (.list (kept.map fun row => items.getD row.position .null), dropped)

end ErpLens.Accounts
