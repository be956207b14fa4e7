import ErpLens.Reports.Chart

/-!
# Warehouses and balances

Warehouses lie inside one another; a warehouse's balance is part of that of its parent. Balances are
also kept by period, and by the age of the stock.
-/

namespace ErpLens.Stock

open Reports

/-- Sets how deep a warehouse lies, and below it those that it holds. `fuel` bounds the depth: with
as many steps as warehouses, a chain that goes on goes round. -/
def setDepth : Nat → Nat → Value → List Value → Outcome (List Value)
  | 0, _, _, _ => .error .endless
  | fuel + 1, position, depth, rows => do
    let row := rows.getD position .null
    let rows := rows.set position (← row.setField "indent" depth)
    let name ← row.field "name"
    let deeper ← Value.plus depth (.int 1)
    (List.range rows.length).foldlM (fun rows i => do
      if (← (rows.getD i .null).field "parent_warehouse") == name then setDepth fuel i deeper rows
      else return rows) rows

def setDepths (warehouses : Value) : Outcome Value := do
  let rows ← warehouses.items
  let rows ← (List.range rows.length).foldlM (fun (rows : List Value) i => do
    let row := rows.getD i .null
    if (← row.field "is_group").truth then
      setDepth (rows.length + 1) i ((← row.field "indent").orElse (.int 0)) rows
    else return rows) rows
  return .list rows

def addToParents (warehouses : Value) : Outcome Value := do
  let rows ← warehouses.items
  let keyed ← rows.zipIdx.mapM fun (row, i) => do
    return (← row.getD (.str "indent") (.int 0), Value.nat i)
  let order ← Value.sortByKey true keyed
  let rows ← order.foldlM (fun (rows : List Value) (_, position) => do
    let row := rows.getD ((Value.index? position).getD 0).toNat .null
    let balance ← row.field "stock_balance"
    let parentName ← row.field "parent_warehouse"
    rows.mapM fun other => do
      if parentName == (← other.field "name") then other.addField "stock_balance" balance
      else return other) rows
  return .list rows

def warehouseColumns (columns warehouses : Value) : Outcome Value := do
  let names ← (← warehouses.items).mapM fun warehouse => do
    Value.plus (← warehouse.field "name") (.str ":Int:100")
  let total : List Value := if names.length > 1 then [.str "Total Qty:Int:120"] else []
  return .list ((← columns.items) ++ total ++ names)

def carryOn (item current : Value) : Value → Value → List Value → Outcome Value
  | balances, _, [] => .ok balances
  | balances, before, period :: rest => do
    if period == current then return balances
    let ofItem ← balances.getD item .null
    let isMissing ← if ofItem.truth then pure !(← ofItem.getD period .null).truth else pure false
    let balances ← if isMissing && before.truth then
        balances.setItem item (← ofItem.setItem period before)
      else pure balances
    let ofItem ← balances.getD item (.ofFields [])
    carryOn item current balances (← ofItem.getD period .null) rest

def fillPeriods (balances item current periods : Value) : Outcome Value := do
  carryOn item current balances .null (← periods.items)

def ageingChart (rows filters : Value) : Outcome (Value × Value) := do
  if !rows.truth then return (.list [], rows)
  if (← filters.get "show_warehouse_wise_stock").truth then return (.ofFields [], rows)
  let keyed ← (← rows.items).mapM fun row => do return (← row.item (.int 6), row)
  let sorted ← Value.sortByKey true keyed
  let top := sorted.take 10
  let labels ← top.mapM fun (_, row) => row.item (.int 0)
  let chart := Chart.toValue ⟨labels, [⟨.str "Average Age", top.map Prod.fst⟩], [Chart.kind "bar"]⟩
  return (chart, .list (sorted.map Prod.snd))

def shortageChart (rows : Value) : Outcome Value := do
  let rows ← rows.items
  let labels ← rows.mapM (·.get "item_code")
  let points ← rows.mapM (·.get "projected_qty")
  return Chart.toValue ⟨labels.take 10, [⟨.str "Projected Qty", points.take 10⟩],
    [Chart.kind "bar"]⟩

/-! ## Ageing -/

def openItem (ageing row : Value) : Outcome (Value × Value) := do
  let name ← row.field "name"
  let warehouse ← row.field "warehouse"
  let key : Value := .tuple [name, warehouse]
  let items ← ageing.field "item_details"
  let item ← items.getD key (.ofFields [("details", row), ("fifo_queue", .list [])])
  let ageing ← ageing.setField "item_details" (← items.setItem key item)
  let queue ← item.key "fifo_queue"
  let transferKey : Value := .tuple [← row.field "voucher_no", name, warehouse]
  let transfers ← ageing.field "transferred_item_details"
  let transfer ← transfers.getD transferKey (.list [])
  let ageing ← ageing.setField "transferred_item_details" (← transfers.setItem transferKey transfer)
  return (.tuple [key, queue, transferKey], ageing)

def updateItem (ageing row key : Value) : Outcome Value := do
  let items ← ageing.field "item_details"
  let item ← items.item key
  let item ← item.setKey "qty_after_transaction" (← row.field "qty_after_transaction")
  let actual ← row.field "actual_qty"
  let item ← if ← item.contains (.str "total_qty") then item.addKey "total_qty" actual
    else item.setKey "total_qty" actual
  let item ← item.setKey "has_serial_no" (← row.field "has_serial_no")
  let details ← (← item.key "details").setField "valuation_rate" (← row.field "valuation_rate")
  let item ← item.setKey "details" details
  ageing.setField "item_details" (← items.setItem key item)

def closingKeys (closing row : Value) : Outcome Value := do
  let item ← row.field "item_code"
  let warehouse ← row.field "warehouse"
  let key (names values : List Value) : Value :=
    .ofEntries [(.tuple ([.str "item_code", .str "warehouse"] ++ names),
      .tuple ([item, warehouse] ++ values))]
  let batch ← row.field "batch_no"
  let bundled ← row.field "sabb_batch_no"
  let batches := ([batch, bundled].filter Value.truth).map fun number =>
    key [.str "batch_no"] [number]
  let dimensions ← (← (← closing.field "inv_dimensions").items).filterMapM fun dimension => do
    let name ← dimension.field "fieldname"
    let value ← row.getD name .null
    return if value.truth then some (name, value) else none
  let together := if dimensions.length > 1 then
    [key (dimensions.map Prod.fst) (dimensions.map Prod.snd)] else []
  return .list ([key [] []] ++ batches ++ (dimensions.map fun (name, value) => key [name] [value]) ++
    together)

end ErpLens.Stock
