import ErpLens.Value.Arithmetic

/-!
# Taxes withheld

An entry joins what is taxable to where the tax was withheld; until both are known it is open. Open
entries are sorted into those for which too little and too much has been withheld.
-/

namespace ErpLens.Accounts.Withholding

def state (entry : Value) : Outcome String := do
  if (← entry.field "docstatus") == .int 2 then return "Cancelled"
  let withheld := (← entry.field "withholding_name").truth
  if !withheld then
    if !(← entry.field "under_withheld_reason").truth then return "Under Withheld"
  if !(← entry.field "taxable_name").truth then return "Over Withheld"
  return "Settled"

def stateOf (taxable withheld reason duplicate : Value) : String :=
  if duplicate.truth then "Duplicate"
  else if reason.truth then "Settled"
  else if taxable.truth && withheld.truth then "Settled"
  else if taxable.truth then "Under Withheld"
  else if withheld.truth then "Over Withheld"
  else ""

def rateOn (rates category day : Value) : Outcome (Value × Bool) := do
  if !category.truth then return (.int 0, false)
  if !(← rates.contains category) || !day.truth then return (.int 0, false)
  let found ← (← (← rates.item category).items).findM? fun rate => do
    let start ← rate.field "from_date"
    if !start.truth then return false
    let stop ← rate.field "to_date"
    if !stop.truth then return false
    if ← Value.atMost start day then Value.atMost day stop else return false
  match found with
  | none => return (.int 0, false)
  | some rate =>
    return (← rate.field "tax_withholding_rate", (← rate.field "tax_on_excess_amount").truth)

structure Open where
  under : List Value
  excess : List Value

/-- Sorts one entry; an entry that a linked payment covers in part is reduced to that part and comes
first. The entry after that, and the open ones. -/
def sortEntry (payments : Value) (found : Open) (entry : Value) : Outcome (Value × Open) := do
  if (← entry.field "status").isText "Under Withheld" then
    return (entry, { found with under := found.under ++ [entry] })
  let document ← entry.field "withholding_doctype"
  let target : Value := .tuple [document, ← entry.field "withholding_name"]
  if ← payments.contains target then
    let amount ← entry.field "withholding_amount"
    let whole ← Value.minus (← entry.field "taxable_amount") amount
    if !whole.truth then return (entry, found)
    let share ← Value.dividedBy (← payments.item target) whole
    let share := if ← Value.lessThan (.int 1) share then .int 1 else share
    let reduced ← entry.setField "withholding_amount" (← Value.times amount share)
    return (reduced, { found with excess := reduced :: found.excess })
  if document.isAmong ["Payment Entry", "Journal Entry"] then return (entry, found)
  return (entry, { found with excess := found.excess ++ [entry] })

def sortEntries (payments : Value) (found : Open) : List Value → Outcome (List Value × Open)
  | [] => .ok ([], found)
  | entry :: rest => do
    let (entry, found) ← sortEntry payments found entry
    let (rest, found) ← sortEntries payments found rest
    return (entry :: rest, found)

def putOpen (name : String) (entries : List Value) (opened : Value) : Outcome Value := do
  match ← opened.get name with
  | .null => if entries.isEmpty then return opened else throw (.missingKey (.str name))
  | .deque _ => opened.setKey name (.deque entries)
  | _ => opened.setKey name (.list entries)

def openOf (name : String) (opened : Value) : Outcome (List Value) := do
  match ← opened.get name with
  | .null => return []
  | found => found.items

def sortInto (entries payments opened : Value) : Outcome (Value × Value) := do
  let before : Open := ⟨← openOf "under_withheld" opened, ← openOf "over_withheld" opened⟩
  let (rows, found) ← sortEntries payments before (← entries.items)
  return (.list rows,
    ← putOpen "over_withheld" found.excess (← putOpen "under_withheld" found.under opened))

/-! ## Entries made from older invoices -/

def underWithheld (records invoice context : Value) : Outcome Value := do
  if ← (← records.field "tds_paid_by_other").contains invoice then return .null
  let info ← context.key "info"
  let taxable := (← info.field "base_tax_withholding_net_total").orElse
    (← info.field "base_net_total")
  let reason := if (← context.key "tax_on_excess").truth then "Threshold Exemption" else ""
  let date ← info.field "posting_date"
  let isReturn := (← info.field "is_return").truth
  let taxable ← if isReturn then taxable.negated else pure taxable
  return .ofFields [
    ("company", ← info.field "company"), ("party_type", ← context.key "party_type"),
    ("party", ← context.key "party"), ("tax_id", ← context.key "tax_id"),
    ("tax_withholding_category", ← context.key "category"), ("tax_rate", ← context.key "tax_rate"),
    ("currency", ← info.field "currency"),
    ("conversion_rate", (← info.field "conversion_rate").orElse (.int 1)),
    ("taxable_amount", taxable), ("withholding_amount", .int 0),
    ("taxable_doctype", .str "Purchase Invoice"), ("taxable_name", invoice), ("taxable_date", date),
    ("withholding_doctype", .str ""), ("withholding_name", .str ""), ("withholding_date", .null),
    ("under_withheld_reason", .str reason)]

def addEntries (records kind name entries : Value) : Outcome Value := do
  let all ← records.field "all_entries"
  let target : Value := .tuple [kind, name]
  let before ← all.getD target (.list [])
  records.setField "all_entries"
    (← all.setItem target (.list ((← before.items) ++ (← entries.items))))

def addMember (set member : Value) : Outcome Value :=
  match set with
  | .set members =>
    if member.isHashable then .ok (.set (Value.distinct (members ++ [member])))
    else .error (.wrongType s!"unhashable type: '{member.kindName}'")
  | other => .error (other.noField "add")

def addVoucher (records voucher : Value) : Outcome Value := do
  let parent ← voucher.field "parent"
  let byInvoice ← records.field "withheld_by_invoice"
  let rows ← byInvoice.item parent
  let records ← records.setField "withheld_by_invoice"
    (← byInvoice.setItem parent (.list ((← rows.items) ++ [voucher])))
  let records ← records.setField "invoices_with_twv"
    (← addMember (← records.field "invoices_with_twv") parent)
  let name ← voucher.field "voucher_name"
  let paidByOther ← records.field "tds_paid_by_other"
  let isOther ← if name == parent then pure false
    else (← records.field "invoice_taxes").contains parent
  let records ← if isOther && !(← paidByOther.contains name) then
      records.setField "tds_paid_by_other" (← paidByOther.setItem name parent)
    else pure records
  if (← voucher.field "voucher_type").isText "Purchase Invoice" then
    records.setField "_pi_names_for_dates"
      (← addMember (← records.field "_pi_names_for_dates") name)
  else return records

def lookUpVouchers (records : Value) : Outcome Value := do
  (← (← records.field "_all_withheld_vouchers").items).foldlM addVoucher records

/-! ## Summary -/

def summaryStart (row : Value) : Outcome Value := do
  let copied ← ["tax_id", "party", "party_name", "section_code", "entity_type", "rate"].mapM
    fun name => return (name, ← row.get name)
  return .ofFields (copied ++ [("total_amount", .float 0), ("tax_amount", .float 0)])

def summary (rows : Value) : Outcome Value := do
  let sums ← (← rows.items).foldlM (fun (sums : Value) row => do
    let target : Value := .tuple [← row.get "party", ← row.get "section_code"]
    let sum ← sums.getD target (← summaryStart row)
    let sum ← sum.addKey "total_amount" (← row.getD (.str "total_amount") (.float 0))
    let sum ← sum.addKey "tax_amount" (← row.getD (.str "tax_amount") (.float 0))
    sums.setItem target sum) (.ofFields [])
  return .list (← sums.values)

end ErpLens.Accounts.Withholding
