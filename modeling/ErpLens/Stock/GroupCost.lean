import ErpLens.Value.Arithmetic

/-!
# Cost by group of items

Groups of items form a tree, listed with each group before its parts. The cost of a group and of the
groups below is found in one pass from the end of the list.
-/

namespace ErpLens.Stock

structure GroupCost (α : Type) where
  level : Int
  own : α
deriving Repr, DecidableEq

/-- Sums that are still open, the latest first, and the level of the group looked at last. -/
structure OpenSums (α : Type) where
  latest : α
  earlier : List α
  level : Int

section

variable {α : Type} [Add α] [Zero α]

/-- Looks at a group, coming from the end: its total, and the sums after it. -/
def OpenSums.step (sums : OpenSums α) (group : GroupCost α) : α × OpenSums α :=
  if group.level = sums.level then
    (group.own, { sums with latest := sums.latest + group.own })
  else if sums.level < group.level then
    (group.own, ⟨group.own, sums.latest :: sums.earlier, group.level⟩)
  else
    let total := sums.latest + group.own
    (total, { sums with latest := total, level := group.level })

def OpenSums.run (sums : OpenSums α) : List (GroupCost α) → List α × OpenSums α
  | [] => ([], sums)
  | group :: rest =>
    let (total, sums) := sums.step group
    let (totals, sums) := sums.run rest
    (total :: totals, sums)

def OpenSums.total (sums : OpenSums α) : α :=
  (sums.earlier.reverse ++ [sums.latest]).foldl (· + ·) 0

def groupTotals : List (GroupCost α) → List α
  | [] => []
  | root :: below =>
    let (totals, sums) := OpenSums.run ⟨0, [], root.level⟩ below.reverse
    (sums.total + root.own) :: totals.reverse

end

def levelOf (group : Value) : Outcome Int := do
  match ← group.key "level" with
  | .int level => return level
  | .bool level => return if level then 1 else 0
  | other => throw (Value.unordered "<" other (.int 0))

def groupOf (row : Value) : Outcome (GroupCost Num) := do
  return ⟨← levelOf row, ← (← row.key "self_value").number⟩

def setTotal (table : Value) (entry : (Value × Value) × Num) : Outcome Value := do
  table.setItem entry.1.1 (← entry.1.2.setKey "agg_value" entry.2.toValue)

def addGroupTotals (table : Value) : Outcome Value := do
  let entries ← table.entries
  if entries.isEmpty then throw (.outOfRange "list index out of range")
  let groups ← entries.mapM fun entry => groupOf entry.2
  (entries.zip (groupTotals groups)).foldlM setTotal table

def addOwnCosts (table goods : Value) : Outcome Value := do
  let keys := Value.ofEntries (← (← table.entries).mapM fun (key, group) => do
    return (← group.key "name", key))
  (← goods.items).foldlM (fun (table : Value) good => do
    let key ← keys.item (← good.get "item_group")
    let cost ← (← good.get "stock_value_difference").negated
    table.setItem key (← (← table.item key).addKey "self_value" cost)) table

end ErpLens.Stock
