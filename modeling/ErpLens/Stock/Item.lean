import ErpLens.Text.Case
import ErpLens.Value.Arithmetic

/-!
# Items, prices and documents that move stock
-/

namespace ErpLens.Stock

def settleSample (item : Value) : Outcome Value := do
  let item ← if (← item.field "has_batch_no").truth then pure item
    else item.setField "retain_sample" (.bool false)
  if (← item.field "retain_sample").truth then return item
  item.setField "sample_quantity" (.int 0)

def barcodeKind (kind barcode : Value) : Outcome Value := do
  if kind.isText "EAN" then
    let length ← barcode.size
    return if length = 8 then .str "EAN8" else if length = 13 then .str "EAN13" else kind
  if !kind.isHashable then throw (.wrongType s!"unhashable type: '{kind.kindName}'")
  let names : List (String × String) := [("UPC-A", "UPCA"), ("CODE-39", "CODE39"),
    ("ISBN-10", "ISBN10"), ("ISBN-13", "ISBN13")]
  match kind with
  | .str name => return .str ((names.lookup name).getD name)
  | _ => return kind

def settlePrice (price : Value) : Outcome Value := do
  let selling := (← price.field "selling").truth
  let buying := (← price.field "buying").truth
  let price ← if selling then price.setField "reference" (← price.field "customer") else pure price
  let price ← if buying then price.setField "reference" (← price.field "supplier") else pure price
  if selling && !buying then price.setField "supplier" .null
  else if buying && !selling then price.setField "customer" .null
  else return price

def setRequestTitle (request : Value) : Outcome Value := do
  if (← request.field "title").truth then return request
  let names ← (← (← request.field "items").items).mapM (·.field "item_name")
  let items ← Value.joinTexts ", " (.list (names.take 3))
  let kind := (← request.field "material_request_type").text
  request.setField "title" (.str (Text.take 100 s!"{kind} Request for {items}"))

def batchSeries (start : Value) : Outcome String := do
  if start.text.isEmpty then return ""
  return Text.upper (← start.asText "upper") ++ ".#####"

def rowOfItem (document item : Value) : Outcome Value := do
  let found ← (← (← document.field "items").items).findM? fun row => do
    if (← row.field "item_code") == item then return true
    return (← row.field "original_item") == item
  return found.getD (.ofFields [])

def hasLandedCost (document : Value) : Outcome Bool := do
  (← (← document.field "items").items).anyM fun row => do
    return (← row.get "landed_cost_voucher_amount").truth

def isLandedCostBooked (document : Value) : Outcome Bool := do
  (← (← document.field "items").items).anyM fun row => do
    return !((← row.field "landed_cost_voucher_amount") == .int 0)

def clearTransfers (document : Value) : Outcome Value := do
  let rows ← (← document.field "items").mapItems fun row =>
    ["target_warehouse", "from_warehouse"].foldlM (fun (row : Value) name => do
      if (← row.get name).truth then row.setField name .null else return row) row
  document.setField "items" rows

def resetReposting (reposting : Value) : Outcome Value := do
  let reposting ← if (← reposting.field "based_on").isText "Transaction" then
      reposting.setFields [("item_code", .null), ("warehouse", .null)]
    else pure reposting
  reposting.setField "allow_negative_stock" (.int 1)

def resetParallel (settings : Value) : Outcome Value := do
  let turnsOff ← if (← settings.field "item_based_reposting").truth then pure false
    else pure (← settings.field "enable_parallel_reposting").truth
  let settings ← if turnsOff then settings.setField "enable_parallel_reposting" (.int 0)
    else pure settings
  if (← settings.field "enable_parallel_reposting").truth then
    if !(← settings.field "no_of_parallel_reposting").truth then
      return ← settings.setField "no_of_parallel_reposting" (.int 4)
  return settings

/-! ## Pick lists -/

def groupLocations (list : Value) : Outcome Value := do
  let rows ← (← list.field "locations").items
  let keyed ← rows.mapM fun row => do
    return (Value.tuple [← row.field "item_code", ← row.field "warehouse"], row)
  let sum (key : Value) (name : String) : Outcome Value :=
    (keyed.filter fun row => row.1 == key).foldlM (fun sum row => do
      Value.plus sum (← row.2.field name)) (.float 0)
  let firsts := keyed.foldl (fun (found : Entries) row =>
    if found.any fun other => other.1 == row.1 then found else found ++ [row]) []
  let rows ← firsts.zipIdx.mapM fun ((key, row), i) => do
    let quantity ← sum key "qty"
    row.setFields [("qty", quantity), ("picked_qty", ← sum key "picked_qty"),
      ("stock_qty", quantity), ("idx", .nat (i + 1))]
  list.setField "locations" (.list rows)

/-- The locations that are needed for a quantity, the last one with what is left of it; and all
locations after that. -/
def takeLocations (required : Value) : List Value → Outcome (List Value × List Value)
  | [] => .ok ([], [])
  | location :: rest => do
    let quantity ← location.field "qty"
    if ← Value.atLeast quantity required then
      let location ← location.setField "qty" required
      return ([location], location :: rest)
    let (taken, all) ← takeLocations (← Value.minus required quantity) rest
    return (location :: taken, location :: all)

def locationsFor (locations required : Value) : Outcome (Value × Value) := do
  let (taken, all) ← takeLocations required (← locations.items)
  return (.list taken, .list all)

def fillFromLocation (row location : Value) : Outcome Value :=
  [("item_code", "item_code"), ("s_warehouse", "warehouse"), ("transfer_qty", "picked_qty"),
    ("qty", "qty"), ("uom", "uom"), ("conversion_factor", "conversion_factor"),
    ("stock_uom", "stock_uom"), ("material_request", "material_request"),
    ("serial_no", "serial_no"), ("batch_no", "batch_no"),
    ("material_request_item", "material_request_item")].foldlM
    (fun (row : Value) (name, source) => do row.setField name (← location.field source)) row

/-! ## Tables -/

def cells (columns rows : Value) : Outcome Value := do
  let columns ← columns.items
  return .list (← (← rows.items).mapM fun row => do
    return .list (← columns.mapM fun column => do
      return (← row.getD column .null).orElse (.str "")))

def filtersByKind (filters : Value) : Outcome Value := do
  (← filters.items).foldlM (fun (found : Value) row => do
    let kind ← row.item (.int 0)
    let before ← found.getD kind (.list [])
    found.setItem kind (.list ((← before.items) ++ [row]))) (.ofFields [])

def progressText (percent word : Value) : Outcome String := do
  if ← Value.lessThan percent (.float 0.001) then return "Not " ++ word.text
  if ← Value.atLeast percent (.float 99.999999) then return "Fully " ++ word.text
  return "Partly " ++ word.text

/-! ## Variants

An item with attributes has a variant for each choice of one value per attribute.
-/

def extendChoices {κ β : Type} (choices : List (List (κ × β))) (property : κ × List β) :
    List (List (κ × β)) :=
  choices.flatMap fun choice => property.2.map fun value => choice ++ [(property.1, value)]

/-- All choices of one value per attribute; there are none without attributes. -/
def allChoices {κ β : Type} : List (κ × List β) → List (List (κ × β))
  | [] => []
  | (name, values) :: rest => rest.foldl extendChoices (values.map fun value => [(name, value)])

def variants (attributes : Value) : Outcome Value := do
  if !attributes.truth then return .list []
  let lists ← (← attributes.entries).mapM fun (name, values) => do return (name, ← values.items)
  return .list ((allChoices lists).map Value.ofEntries)

end ErpLens.Stock
