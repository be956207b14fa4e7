import ErpLens.Accounts.Amount

/-!
# Depreciation

When shifts are taken off, rows go from the end of the schedule until the excess is worked off; the
row at which it ends gets the shift of what is left of its factor.
-/

namespace ErpLens.Assets

/-- Works an excess of factors off the last shifts of a schedule, given last first. A shift that
counts for more than the excess is replaced by the one for the difference, if there is one. -/
def takeOff {σ α : Type} [Accounts.Amount α] (factorOf : σ → α) (shiftFor : α → Option σ) :
    α → List σ → List (Option σ)
  | _, [] => []
  | excess, shift :: rest =>
    if Accounts.Amount.nil < excess then
      let factor := factorOf shift
      if excess < factor then shiftFor (factor - excess) :: rest.map some
      else takeOff factorOf shiftFor (excess - factor) rest
    else (shift :: rest).map some

def reduceShifts {σ α : Type} [Accounts.Amount α] (factorOf : σ → α) (shiftFor : α → Option σ)
    (excess : α) (shifts : List σ) : List (Option σ) :=
  (takeOff factorOf shiftFor excess shifts.reverse).reverse

section

open Accounts (FieldAmount)

variable (α : Type) [FieldAmount α]

def shiftOf (factors row : Value) : Outcome (Value × α) := do
  let shift ← row.field "shift"
  return (shift, ← FieldAmount.ofValue (← factors.getD shift (.int 0)))

def shiftFor (entries : Entries) (factor : α) : Option (Value × α) :=
  (Value.findEntry (FieldAmount.toValue factor) entries).map fun shift => (shift, factor)

def setShift (row : Value) (shift : Option (Value × α)) : Outcome Value :=
  row.setField "shift" ((shift.map Prod.fst).getD .null)

def reduceScheduleWith (asset excess factors shiftsByFactor : Value) : Outcome Value := do
  let rows ← (← asset.field "depreciation_schedule").items
  let shifts ← rows.mapM (shiftOf α factors)
  let entries ← shiftsByFactor.entries
  let left := reduceShifts Prod.snd (shiftFor α entries) (← FieldAmount.ofValue excess) shifts
  let rows ← (rows.zip left).mapM fun (row, shift) => setShift α row shift
  asset.setField "depreciation_schedule" (.list rows)

end

def reduceSchedule : Value → Value → Value → Value → Outcome Value :=
  reduceScheduleWith Num

def adjustBalance (account amount : Value) : Outcome Value := do
  let lower (side : String) : Outcome Value := do
    let left ← Value.minus (← account.field side) amount
    let account ← account.setField side left
    let own := side ++ "_in_account_currency"
    let change ← Value.times (← account.field "exchange_rate") amount
    account.setField own (← Value.minus (← account.field own) change)
  if (← account.field "credit").truth then lower "credit"
  else if (← account.field "debit").truth then lower "debit"
  else return account

def bookingEntries (creditAccount row asset costCenter debitAccount dimensions : Value) :
    Outcome (Value × Value) := do
  let amount ← row.field "depreciation_amount"
  let name ← asset.field "name"
  let entry (side : String) (account : Value) : Value := .ofFields [
    ("account", account), (side ++ "_in_account_currency", amount),
    ("reference_type", .str "Asset"), ("reference_name", name), ("cost_center", costCenter)]
  let addDimensions (mandatory : String) (entry : Value) : Outcome Value := do
    (← dimensions.items).foldlM (fun (entry : Value) dimension => do
      let field ← dimension.key "fieldname"
      let own ← asset.getD field .null
      if own.truth || (← dimension.get mandatory).truth then
        entry.setItem field (own.orElse (← dimension.get "default_dimension"))
      else return entry) entry
  return (← addDimensions "mandatory_for_bs" (entry "credit" creditAccount),
    ← addDimensions "mandatory_for_pl" (entry "debit" debitAccount))

end ErpLens.Assets
