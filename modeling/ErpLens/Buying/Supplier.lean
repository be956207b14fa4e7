import ErpLens.Reports.Chart
import ErpLens.Text.Blank

/-!
# Suppliers and customers

Suppliers are held or released, and scored by criteria whose formulas hold variables in braces.
-/

namespace ErpLens.Buying

def settleHold (supplier : Value) : Outcome Value := do
  if !(← supplier.field "on_hold").truth then
    supplier.setFields [("hold_type", .str ""), ("release_date", .str "")]
  else if !(← supplier.field "hold_type").truth then supplier.setField "hold_type" (.str "All")
  else return supplier

def totalScore (period : Value) : Outcome Value := do
  let score ← (← (← period.field "criteria").items).foldlM (fun sum criterion => do
    let weighted ← Value.times (← criterion.field "score") (← criterion.field "weight")
    Value.plus sum (← Value.dividedBy weighted (.float 100))) (.int 0)
  period.setField "total_score" score

def putVariable (formula : String) (variable_ : Value) : Outcome String := do
  let value ← variable_.field "value"
  let name ← variable_.field "param_name"
  if !(← Value.contains (.str formula) name) then return formula
  let text ← if value.truth then
      match value.num? with
      | some number => pure (Decimal.fixedText 2 number.toFloat)
      | none => throw (.badValue s!"Unknown format code 'f' for object of type '{value.kindName}'")
    else pure "0.0"
  return Text.replaceAll ("\x7b" ++ name.text ++ "\x7d") text formula

def scoreFormula (period formula : Value) : Outcome String := do
  let text ← formula.asText "replace"
  let line := Text.replaceAll "\n" "" (Text.replaceAll "\r" "" text)
  (← (← period.field "variables").items).foldlM putVariable line

def requestChart (items : Value) : Outcome Value := do
  let rows := (← items.entries).take 30
  let series (name field : String) : Outcome Reports.Series :=
    return ⟨.str name, ← rows.mapM fun row => row.2.key field⟩
  return Reports.Chart.toValue ⟨rows.map Prod.fst,
    [← series "Qty to Order" "qty_to_order", ← series "Ordered Qty" "ordered_qty",
      ← series "Received Qty" "received_qty", ← series "Qty to Receive" "qty_to_receive"],
    [Reports.Chart.kind "bar", ("barOptions", .ofFields [("stacked", .int 1)])]⟩

def merged (value more : Value) : Outcome Value := do
  (← more.entries).foldlM (fun (value : Value) (key, new) => value.setItem key new) value

def suppliedRows (orders rows : Value) : Outcome (Value × Value) := do
  let done ← (← orders.entries).mapM fun (name, details) => do
    let order ← details.field "order_item"
    match ← (← details.field "supplied_items").items with
    | [] => return ((name, details), [])
    | first :: rest =>
      let joined ← merged order first
      let others ← rest.mapM (merged (.ofFields []))
      return ((name, ← details.setField "order_item" joined), joined :: others)
  let orders := match orders with
    | .dict kind _ => .dict kind (done.map Prod.fst)
    | other => other
  return (orders, .list ((← rows.items) ++ (done.map Prod.snd).flatten))

def offerLegend : String :=
  "<span class=\"indicator\">\n\t\tValid Till:&nbsp;&nbsp;\n\t\t</span>\n" ++
  "\t\t<span class=\"indicator orange\">\n\t\tExpires in a week or less\n\t\t</span>\n" ++
  "\t\t&nbsp;&nbsp;\n" ++
  "\t\t<span class=\"indicator red\">\n\t\tExpires today or already expired\n\t\t</span>"

end ErpLens.Buying

namespace ErpLens.Selling

def splitName (name : Value) : Outcome Value := do
  match Text.words (← name.asText "split") with
  | [] => throw (.outOfRange "list index out of range")
  | first :: rest =>
    let middle := rest.dropLast
    return .tuple [.str first,
      if middle.isEmpty then .null else .str (" ".intercalate middle),
      .optStr rest.getLast?]

def groupFieldOf (kind : Value) : Outcome Value := do
  if !kind.truth then return .null
  Value.item (.ofFields [("Customer", .str "customer_group"), ("Supplier", .str "supplier_group"),
    ("Sales Partner", .str "partner_type"), ("Lead", .str "status")]) kind

def bareNumber (number : Value) : Outcome Value := do
  if !number.truth then return .null
  let digits := ((← number.asText "lstrip").toList.dropWhile (· == '+')).dropWhile (· == '0')
  return .str (String.ofList digits)

end ErpLens.Selling
