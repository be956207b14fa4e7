import ErpLens.Value.Arithmetic

/-!
# Serial numbers and batches

Bundles of serial and batch numbers, what is available of a batch, and how batches are valued.
-/

namespace ErpLens.Stock

def voucherRowKind (bundle : Value) : Outcome Value := do
  let kind ← bundle.field "voucher_type"
  if kind.isText "Job Card" then return .null
  let special : List (String × String) := [
    ("Asset Capitalization", "Asset Capitalization Stock Item"),
    ("Asset Repair", "Asset Repair Consumed Item"), ("Quotation", "Packed Item"),
    ("Stock Entry", "Stock Entry Detail")]
  return .str ((special.lookup kind.text).getD (kind.text ++ " Item"))

def ledgerRowKind (bundle : Value) : Outcome Value := do
  let entry ← bundle.field "sle"
  let kind ← entry.field "voucher_type"
  let standard ← Value.plus kind (.str " Item")
  if kind.isText "Subcontracting Receipt" then
    if (← entry.field "dependant_sle_voucher_detail_no").truth then
      return .str "Subcontracting Receipt Supplied Item"
  if kind.isText "Stock Entry" then return .str "Stock Entry Detail"
  if kind.isText "Asset Capitalization" then return .str "Asset Capitalization Stock Item"
  if kind.isText "Asset Repair" then return .str "Asset Repair Consumed Item"
  return standard

def quantityField (row field : Value) : Outcome Value := do
  let kind ← row.get "doctype"
  return if kind.isText "Subcontracting Receipt Supplied Item" then .str "consumed_qty"
    else if kind.isText "Stock Entry Detail" then .str "transfer_qty"
    else field.orElse (.str "qty")

def setDirection (bundle : Value) : Outcome Value := do
  let direction ← bundle.field "type_of_transaction"
  let isOut := direction.isText "Outward"
  let entries ← (← bundle.field "entries").mapItems fun row => do
    let turns ← if isOut then Value.greaterThan (← row.field "qty") (.int 0)
      else if direction.isText "Inward" then Value.lessThan (← row.field "qty") (.int 0)
      else pure false
    let row ← if turns then row.setField "qty" (← Value.times (← row.field "qty") (.int (-1)))
      else pure row
    row.setField "is_outward" (.int (if isOut then 1 else 0))
  bundle.setField "entries" entries

def sumsByKey (rows : Entries) : Outcome Value :=
  rows.foldlM (fun (sums : Value) (key, amount) => do
    sums.setItem key (← Value.plus (← sums.getD key (.float 0)) amount)) (.ofFields [])

def batchQuantities (batches : Value) : Outcome Value := do
  sumsByKey (← (← batches.items).mapM fun batch => do
    return (← batch.field "batch_no", ← batch.field "qty"))

def reservedElsewhere (entries documents : Value) : Outcome Value := do
  let others ← (← entries.items).filterM fun entry => do
    return !(← documents.contains (← entry.field "voucher_no"))
  return .list (← others.mapM (·.field "serial_no"))

structure AvailableBatch where
  row : Value
  source : Option (Nat × Value)

/-- Adds a reservation to the batches with its number and warehouse; if there is none, it becomes a
batch of its own. -/
def addReservation (number : Nat) (batches : List AvailableBatch) (key reserved : Value) :
    Outcome (List AvailableBatch) := do
  let (batchNo, warehouse) ← key.pair
  let done ← batches.mapM fun batch => do
    let isSame ← if (← batch.row.field "batch_no") == batchNo then
        pure ((← batch.row.field "warehouse") == warehouse)
      else pure false
    if isSame then
      return (true, { batch with row := ← batch.row.addField "qty" (← reserved.field "qty") })
    return (false, batch)
  let batches := done.map Prod.snd
  return if done.any Prod.fst then batches else batches ++ [⟨reserved, some (number, key)⟩]

/-- The available batches with reservations added. A reservation that became a batch is one with it,
so what is added to the batch shows in the reservation too. -/
def addReservations (batches : Value) (reservations : List Value) :
    Outcome (Value × List Value) := do
  let start : List AvailableBatch := (← batches.items).map fun row => ⟨row, none⟩
  let done ← reservations.zipIdx.foldlM (fun batches (reserved, i) => do
    if !reserved.truth then return batches
    (← reserved.entries).foldlM (fun batches (key, row) => addReservation i batches key row)
      batches) start
  let reservations ← done.foldlM (fun (reservations : List Value) batch => do
    match batch.source with
    | none => return reservations
    | some (i, key) =>
      return reservations.set i (← (reservations.getD i .null).setItem key batch.row)) reservations
  return (.list (done.map AvailableBatch.row), reservations)

def availableTotal (valuation : Value) : Outcome Value := do
  (← (← valuation.field "available_qty").values).foldlM Value.plus (.float 0)

def valueBatches (valuation : Value) : Outcome Value := do
  (← (← valuation.field "batch_nos").entries).foldlM (fun (valuation : Value) (batch, ledger) => do
    if ← (← valuation.field "non_batchwise_valuation_batches").contains batch then return valuation
    let available ← (← valuation.field "available_qty").item batch
    if !available.truth then return valuation
    let rate ← Value.dividedBy (← (← valuation.field "stock_value_differece").item batch) available
    let rates ← (← valuation.field "batch_avg_rate").setItem batch rate
    let valuation ← valuation.setField "batch_avg_rate" rates
    let change ← Value.times rate (← ledger.field "qty")
    valuation.addField "stock_value_change" change) valuation

def remainingBatches (rows : Value) : Outcome Value := do
  let merged ← (← rows.items).foldlM (fun (found : List (Value × List Value)) row => do
    let number ← row.item (.int 0)
    if !number.isHashable then throw (.wrongType s!"unhashable type: '{number.kindName}'")
    match found.find? fun batch => batch.1 == number with
    | none => return found ++ [(number, ← row.items)]
    | some (_, kept) =>
      let sum ← Value.plus (← (Value.list kept).item (.int 1)) (← row.item (.int 1))
      return found.map fun batch => if batch.1 == number then (batch.1, batch.2.set 1 sum) else batch)
    []
  let left ← merged.filterM fun batch => do
    Value.greaterThan (← (Value.list batch.2).item (.int 1)) (.int 0)
  return .list (left.map fun batch => .tuple batch.2)

def balancedBatches (table : Value) : Outcome Value := do
  return .list (← (← table.values).filterM fun batch => do
    return !((← batch.field "balance_qty") == .int 0))

def numbersShown (rows : Value) : Outcome (Value × Value) := do
  let rows ← rows.items
  let shows (name : String) : Outcome Bool := rows.anyM fun row => return (← row.get name).truth
  return (.bool (← shows "serial_no"), .bool (← shows "batch_no"))

/-- Whether the stock of a serial number goes wrong: below zero, or to zero with a value left. The
totals after all rows come with it. -/
def checkSerial (rows totals : Value) : Outcome (Bool × Value) := do
  (← rows.items).foldlM (fun (isWrong, (totals : Value)) row => do
    let totals ← totals.addField "qty" (← row.field "qty")
    let totals ← totals.addField "valuation_rate" (← row.field "valuation_rate")
    let quantity ← totals.field "qty"
    let valued ← if quantity == .int 0 then
        Value.greaterThan (← (← totals.field "valuation_rate").absolute) (.int 0)
      else pure false
    let wrong ← if valued then pure true else Value.lessThan quantity (.int 0)
    return (isWrong || wrong, totals)) (false, totals)

end ErpLens.Stock
