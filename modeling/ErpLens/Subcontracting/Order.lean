import ErpLens.Stock.Bundle

/-!
# Subcontracted work
-/

namespace ErpLens.Subcontracting

def settleServices (order : Value) : Outcome Value := do
  let items ← (← order.field "items").items
  let keyed ← items.mapM fun item => do return (← item.field "sales_order_item", item)
  let services ← (← (← order.field "service_items").items).filterMapM fun service => do
    let target ← service.field "sales_order_item"
    match keyed.find? fun item => item.1 == target with
    | none => return none
    | some (_, item) =>
      let quantity ← item.field "qty"
      let amount ← Value.times quantity (← item.field "subcontracting_conversion_factor")
      return some (← service.setFields [("qty", amount), ("fg_item_qty", quantity),
        ("amount", ← Value.times amount (← service.field "rate"))])
  order.setField "service_items" (.list services)

def usedMaterial (receipt : Value) : Outcome Value := do
  Stock.sumsByKey (← (← (← receipt.field "supplied_items").items).mapM fun row => do
    return (← row.field "rm_item_code", ← row.field "consumed_qty"))

def allowZeroRates (entry : Value) : Outcome Value := do
  if !(← entry.field "subcontracting_inward_order").truth then return entry
  if !(← entry.field "purpose").isAmong
      ["Subcontracting Delivery", "Subcontracting Return", "Manufacture"] then return entry
  let rows ← (← entry.field "items").mapItems fun row => do
    let isProduct ← if (← row.field "is_finished_item").truth then pure true
      else pure (← row.field "is_scrap_item").truth
    let isFree ← if isProduct then pure ((← row.field "valuation_rate") == .int 0) else pure false
    if isFree then row.setField "allow_zero_valuation_rate" (.int 1) else return row
  entry.setField "items" rows

end ErpLens.Subcontracting
