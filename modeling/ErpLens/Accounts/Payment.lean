import ErpLens.Json.Read
import ErpLens.Value.Arithmetic

/-!
# Payments

Which account and side of the ledger a payment touches, which documents it may refer to, and how
requests for payment are matched to its references.
-/

namespace ErpLens.Accounts.Payment

def advanceSide (payment reference : Value) : Outcome Value := do
  let kind ← reference.field "reference_doctype"
  let side (isCredit : Bool) (account : Value) : Value :=
    .tuple [.str (if isCredit then "credit" else "debit"), account]
  if kind.isText "Sales Invoice" then return side true (← reference.field "account")
  if kind.isText "Purchase Invoice" then return side false (← reference.field "account")
  if kind.isText "Payment Entry" then
    let isRefund := (← reference.field "account_type").isText "Receivable" &&
      (← reference.field "payment_type").isText "Pay"
    return side isRefund (← payment.field "party_account")
  if kind.isText "Journal Entry" then
    let isReceipt := (← payment.field "party_type").isText "Customer" &&
      (← payment.field "payment_type").isText "Receive"
    return side isReceipt (← reference.field "account")
  return .null

def taxAccount (payment : Value) : Outcome Value := do
  let kind ← payment.field "payment_type"
  if kind.isText "Receive" then payment.field "paid_to"
  else if kind.isAmong ["Pay", "Internal Transfer"] then payment.field "paid_from"
  else return .null

def referenceKinds (payment : Value) : Outcome (Option (List String)) := do
  let party ← payment.field "party_type"
  return if party.isText "Customer" then
      some ["Sales Order", "Sales Invoice", "Journal Entry", "Dunning", "Payment Entry"]
    else if party.isAmong ["Shareholder", "Employee"] then some ["Journal Entry"]
    else if party.isText "Supplier" then
      some ["Purchase Order", "Purchase Invoice", "Journal Entry", "Payment Entry"]
    else none

def setPartyAccount (payment : Value) : Outcome Value := do
  let kind ← payment.field "payment_type"
  let account (field : String) : Outcome Value := do
    payment.setFields [("party_account_field", .str field),
      ("party_account", ← payment.field field),
      ("party_account_currency", ← payment.field (field ++ "_account_currency"))]
  if kind.isText "Receive" then account "paid_from"
  else if kind.isText "Pay" then account "paid_to"
  else payment.setFields [("party_account_field", .null), ("party_account", .null),
    ("party_account_currency", .null)]

def partyKind (document : Value) : Outcome String :=
  if document.isAmong ["Sales Invoice", "Sales Order", "Dunning"] then .ok "Customer"
  else if document.isAmong ["Purchase Invoice", "Purchase Order"] then .ok "Supplier"
  else .error (.unassigned "party_type")

def requestsByTarget (rows : List Value) : Outcome Value :=
  rows.foldlM (fun (found : Value) row => do
    let target ← (← row.slice 3).items
    found.setItem (.tuple target) (← row.item (.int 3))) (.ofFields [])

def assignRequests : List Value → Entries → Outcome (List Value)
  | [], _ => .ok []
  | reference :: rest, requests => do
    if (← reference.field "payment_request").truth then
      return reference :: (← assignRequests rest requests)
    let target : Value := .tuple [← reference.field "reference_doctype",
      ← reference.field "reference_name", ← reference.field "allocated_amount"]
    match Value.findEntry target requests with
    | none => return reference :: (← assignRequests rest requests)
    | some request =>
      return (← reference.setField "payment_request" request) ::
        (← assignRequests rest (Value.eraseEntry target requests))

def matchRequests (payment rows : Value) : Outcome Value := do
  let references ← payment.field "references"
  if !references.truth || !rows.truth then return payment
  let rows ← match rows with
    | .str text => Json.load text
    | rows => pure rows
  let requests ← (← requestsByTarget (← rows.items)).entries
  payment.setField "references" (.list (← assignRequests (← references.items) requests))

def outstandingWithoutTerm (references : Value) : Outcome Value := do
  if !references.truth then return .null
  (← references.items).foldlM (fun (found : Value) reference => do
    if (← reference.field "payment_term").truth then return found
    let target : Value := .tuple [← reference.field "reference_doctype",
      ← reference.field "reference_name", .null]
    if ← found.contains target then return found
    found.setItem target (← reference.field "outstanding_amount")) (.ofFields [])

end ErpLens.Accounts.Payment
