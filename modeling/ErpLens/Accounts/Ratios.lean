import ErpLens.Value.Arithmetic

/-!
# Financial ratios

The balances of a year that ratios are made of: the total of a kind of account, the part of it that
the ratio asks for, and what can be turned into money at once.
-/

namespace ErpLens.Accounts

structure RatioBalances where
  ratio : Value
  total : Value
  liquid : Value
  sum : Value

def RatioBalances.add (kind year root : Value) (found : RatioBalances) (entry : Value) :
    Outcome RatioBalances := do
  let isGroup := (← entry.get "is_group").truth
  let total ← if !(← entry.get "parent_account").truth && isGroup then do
      let amount ← entry.item year
      found.total.setItem year
        (← if kind.isText "Direct Expense" then Value.times amount (.int (-1)) else pure amount)
    else pure found.total
  let found := { found with total }
  let entryKind ← entry.get "account_type"
  let isKind := entryKind == kind
  if root.isAmong ["Asset", "Liability"] then
    let ratio ← if isKind && isGroup then found.ratio.setItem year (← entry.getD year .null)
      else pure found.ratio
    if entryKind.isAmong ["Bank", "Cash", "Receivable"] && !isGroup then
      let sum ← Value.plus found.sum (← entry.getD year .null)
      return { found with ratio, sum, liquid := ← found.liquid.setItem year sum }
    return { found with ratio }
  let isSummed := if root.isText "Income" then isKind && isGroup
    else root.isText "Expense" && kind.isText "Cost of Goods Sold" && isKind
  if isSummed then
    let sum ← Value.plus found.sum (← entry.getD year .null)
    return { found with sum, ratio := ← found.ratio.setItem year sum }
  if root.isText "Income" || (root.isText "Expense" && kind.isText "Cost of Goods Sold") then
    return found
  if isKind && isGroup then
    return { found with ratio := ← found.ratio.setItem year (← entry.getD year .null) }
  return found

def ratioBalances (found : RatioBalances) (kind year entries root : Value) :
    Outcome RatioBalances := do
  (← entries.items).foldlM (RatioBalances.add kind year root) found

def shareAmounts (target row portion adds : Value) : Outcome Value :=
  ["base_amount", "buying_amount", "gross_profit"].foldlM (fun (target : Value) name => do
    let share ← Value.dividedBy (← Value.times (← row.key name) portion) (.int 100)
    if adds.truth then target.addKey name share else target.setKey name share) target

end ErpLens.Accounts
