import ErpLens.Value.Arithmetic

/-!
# Invoices and reminders

Totals that a document keeps of its rows.
-/

namespace ErpLens.Accounts

def sumOfField (rows : Value) (name : String) : Outcome Value := do
  Value.total (← (← rows.items).mapM (·.field name))

def remindTotals (reminder : Value) : Outcome Value := do
  let payments ← reminder.field "overdue_payments"
  let outstanding ← sumOfField payments "outstanding"
  let interest ← sumOfField payments "interest"
  let amount ← Value.plus interest (← reminder.field "dunning_fee")
  reminder.setFields [
    ("total_outstanding", outstanding), ("total_interest", interest), ("dunning_amount", amount),
    ("base_dunning_amount", ← Value.times amount (← reminder.field "conversion_rate")),
    ("grand_total", ← Value.plus outstanding amount)]

def isReceived (row : Value) : Outcome Bool := do
  if !(← row.field "purchase_receipt").truth then return false
  if !(← row.field "pr_detail").truth then return false
  return (← row.field "received_qty").truth

def receivedShare (invoice : Value) : Outcome Value := do
  let rows ← (← (← invoice.field "items").items).filterM isReceived
  let sum (name : String) : Outcome Value :=
    rows.foldlM (fun sum row => do Value.plus sum (← row.field name)) (.float 0)
  let billed ← sum "qty"
  let received ← sum "received_qty"
  if billed.truth && received.truth then
    invoice.setField "per_received"
      (← Value.times (← Value.dividedBy received billed) (.int 100))
  else return invoice

def billingTotals (invoice : Value) : Outcome Value := do
  let sheets ← (← invoice.field "timesheets").items
  let sum (name : String) : Outcome Value := do
    Value.total (← sheets.mapM fun sheet => return (← sheet.get name).orElse (.float 0))
  let invoice ← invoice.setField "total_billing_amount" (← sum "billing_amount")
  invoice.setField "total_billing_hours" (← sum "billing_hours")

end ErpLens.Accounts
