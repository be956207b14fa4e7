import ErpLens.Value.Arithmetic

/-!
# Receivables and payables

What a party owes is split over the terms of payment, and the rows of a party are followed by their
sum. The sums by party stand in a table of their own; under `Total` it holds the sum of all.
-/

namespace ErpLens.Accounts.Receivable

def amountFields : List String :=
  ["invoiced", "paid", "credit_note", "outstanding", "range1", "range2", "range3", "range4",
    "range5", "future_amount", "remaining_balance"]

def allocate (row term key : Value) : Outcome (Value × Value) := do
  let amount ← row.item key
  let (row, term) ←
    if !amount.truth then pure (row, term)
    else do
      let outstanding ← term.field "outstanding"
      if ← Value.greaterThan amount outstanding then
        pure (← row.setItem key (← Value.minus amount outstanding), ← term.setItem key outstanding)
      else pure (← row.setItem key (.int 0), ← term.setItem key amount)
  let outstanding ← Value.minus (← term.field "outstanding") (← term.item key)
  return (row, ← term.setField "outstanding" outstanding)

def startSum (report party : Value) : Outcome Value := do
  let sums ← report.field "total_row_map"
  if (← sums.getD party .null).truth then return report
  let start ← sums.getD party (.ofFields [("party", party), ("bold", .int 1)])
  let row ← start.setKeys (amountFields.map fun name => (name, .float 0))
  report.setField "total_row_map" (← sums.setItem party row)

def addToSum (report row party : Value) : Outcome Value := do
  let sums ← report.field "total_row_map"
  let sum ← sums.getD party .null
  if !sum.truth then return report
  let sum ← amountFields.foldlM (fun (sum : Value) name => do
    sum.addKey name (← row.getD (.str name) (.float 0))) sum
  let sum ← sum.setKey "currency" (← row.getD (.str "currency") (.str ""))
  report.setField "total_row_map" (← sums.setItem party sum)

def closeSum (report party : Value) : Outcome Value := do
  let sum ← (← report.field "total_row_map").getD party .null
  if !sum.truth then return report
  let report ← addToSum report sum (.str "Total")
  let shown ← (← report.field "total_row_map").getD party .null
  let rows ← (← report.field "data").items
  report.setField "data" (.list (rows ++ [shown, .ofFields []]))

end ErpLens.Accounts.Receivable
