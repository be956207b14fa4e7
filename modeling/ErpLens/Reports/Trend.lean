import ErpLens.Reports.Chart

/-!
# Trends

A trend report has a row per item or party, and a quantity and an amount per period. Its chart adds
up the amounts of each period, or shows the rows with the largest total.
-/

namespace ErpLens.Reports.Trend

def everySecond {α : Type} : List α → List α
  | [] => []
  | [item] => [item]
  | item :: _ :: rest => item :: everySecond rest

def amountsFrom (start : Int) (items : List Value) : List Value :=
  everySecond ((Value.between start (-2) items).drop 2)

structure Shape where
  party : String
  title : String
  stripsMark : Bool

def Shape.start (shape : Shape) (filters : Value) : Outcome Int := do
  let basis ← filters.get "based_on"
  let start := if basis.isText shape.party then 3 else if basis.isText "Item" then 2 else 1
  return if (← filters.get "group_by").truth then start + 1 else start

def Shape.label (shape : Shape) (column : Value) : Outcome Value := do
  let name := ((Text.splitOn ":" (← column.asText "split")).head?).getD ""
  return .str (if shape.stripsMark then Text.replaceAll " (Amt)" "" name else name)

def addAmounts : List Value → List Value → Outcome (List Value)
  | points, [] => .ok points
  | [], _ :: _ => .error (.outOfRange "list index out of range")
  | point :: points, amount :: amounts => do
    return (← Value.plus point amount) :: (← addAmounts points amounts)

def chart (shape : Shape) (rows conditions filters : Value) : Outcome Value := do
  if !rows.truth || !conditions.truth then return .list []
  let start ← shape.start filters
  let columns := amountsFrom start (← (← conditions.get "columns").items)
  let labels ← columns.mapM shape.label
  let points ← (← rows.items).foldlM (fun points row => do
    if !(← row.item (.int start)).truth then return points
    let amounts := amountsFrom start ((← row.items))
    addAmounts points (amounts.map (·.orElse (.int 0)))) (labels.map fun _ => Value.int 0)
  let name ← Value.plus (← Value.plus (← filters.get "period") (.str " ")) (.str shape.title)
  return Chart.toValue ⟨labels, [⟨name, points⟩],
    [Chart.kind "line", ("lineOptions", .ofFields [("regionFill", .int 1)]),
      ("fieldtype", .str "Currency")]⟩

def purchaseOrders : Shape := ⟨"Supplier", "Purchase Value", true⟩
def quotations : Shape := ⟨"Customer", "Quoted Amount", false⟩
def salesOrders : Shape := ⟨"Customer", "Sales Value", true⟩

def totalLabel : Value := .str "'Total'"

def largestChart (title : String) (options : Fields) (rows filters : Value) : Outcome Value := do
  if !rows.truth then return .list []
  let all ← rows.items
  let rows ← if (← filters.get "group_by").truth then
      all.filterM fun row => return (← row.item (.int 0)).truth
    else pure all
  let keyed ← rows.mapM fun row => return (← row.item (.int (-1)), row)
  let top := ((← Value.sortByKey true keyed).map Prod.snd).take 10
  let shown ← (← top.filterM fun row => return !((← row.item (.int 0)) == totalLabel)).mapM
    fun row => return (← row.item (.int 0), ← row.item (.int (-1)))
  return Chart.toValue ⟨shown.map Prod.fst, [⟨.str title, shown.map Prod.snd⟩],
    Chart.kind "bar" :: options ++ [("fieldtype", .str "Currency")]⟩

def deliveries : Value → Value → Outcome Value :=
  largestChart "Total Delivered Amount" []

def receipts : Value → Value → Outcome Value :=
  largestChart "Total Received Amount" [Chart.colors ["#5e64ff"]]

def isSummed (column : Value) : Outcome Bool := do
  if ← column.contains (.str "Float") then return true
  column.contains (.str "Currency/currency")

def totalRow (rows columns : Value) : Outcome Value := do
  let columns ← columns.items
  let summed ← columns.mapM isSummed
  let rows ← rows.items
  let sums ← summed.zipIdx.mapM fun (isSummed, i) => do
    if !isSummed then return Value.null
    rows.foldlM (fun sum row => do
      let value ← row.item (.nat i)
      Value.plus sum (if value == .null then .int 0 else value)) (.int 0)
  return .list (totalLabel :: sums.drop 1)

end ErpLens.Reports.Trend
