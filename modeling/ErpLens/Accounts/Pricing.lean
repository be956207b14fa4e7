import ErpLens.Json.Read
import ErpLens.Value.Arithmetic

/-!
# Pricing rules
-/

namespace ErpLens.Accounts.Pricing

def sellingKinds : List String :=
  ["Opportunity", "Quotation", "Sales Order", "Delivery Note", "Sales Invoice"]

def buyingKinds : List String :=
  ["Material Request", "Supplier Quotation", "Purchase Order", "Purchase Receipt",
    "Purchase Invoice"]

def setTransactionKind (request : Value) : Outcome Value := do
  if (← request.field "transaction_type").truth then return request
  let kind ← request.field "doctype"
  let isSale ←
    if kind.isAmong sellingKinds then pure true
    else if kind.isAmong buyingKinds then pure false
    else pure (← request.field "customer").truth
  request.setField "transaction_type" (.str (if isSale then "selling" else "buying"))

def matching (request : Value) (rules : List Value) : List Value → Outcome (List Value)
  | [] => .ok []
  | name :: rest => do
    let wanted ← request.getD name .null
    if !wanted.truth then return ← matching request rules rest
    let found ← rules.filterM fun rule => return (← rule.getD name .null) == wanted
    if found.isEmpty then matching request rules rest else return found

def byPriority (rules fields request : Value) : Outcome Value := do
  let found ← matching request (← rules.items) (← fields.items)
  return if found.isEmpty then rules else .list found

def allCombine (rules : Value) : Outcome Bool := do
  (← rules.items).allM fun rule => return (← rule.field "apply_multiple_pricing_rules").truth

def appliedRules (names : Value) : Outcome Value := do
  if !names.truth then return .list []
  let text ← names.asText "startswith"
  if Text.startsWith text "[" then Json.load text
  else return .strs (Text.splitOn "," text)

def allAgree (rules fields : Value) : Outcome Bool := do
  let names ← fields.items
  let valuesOf (rule : Value) : Outcome (List Value) := names.mapM (rule.getD · .null)
  match ← rules.items with
  | [] => throw (.outOfRange "list index out of range")
  | first :: rest =>
    let wanted ← valuesOf first
    rest.allM fun rule => return Value.sameItems wanted (← valuesOf rule)

end ErpLens.Accounts.Pricing
