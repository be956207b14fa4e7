import ErpLens.Json.Read
import ErpLens.Tree
import ErpLens.Value.Arithmetic

/-!
# Bills of materials

A bill of materials is a tree: an item and the items that it is made of, which may have bills of
their own.
-/

namespace ErpLens.Manufacturing

def childItems (item : Value) : List Value :=
  match item.field? "child_items" with
  | some (.list items) | some (.tuple items) | some (.deque items) => items
  | _ => []

theorem sizeOf_lt_of_field? {value found : Value} {name : String}
    (held : value.field? name = some found) : sizeOf found < sizeOf value := by
  unfold Value.field? at held
  split at held
  · rename_i entries
    suffices sizeOf found < sizeOf entries by simp; omega
    induction entries with
    | nil => simp [Value.findEntry] at held
    | cons entry rest ih =>
      cases entry
      rw [Value.findEntry] at held
      split at held
      · cases held
        simp
        omega
      · have := ih held
        simp
        omega
  · obtain ⟨field, isField, rfl⟩ := Option.map_eq_some_iff.mp held
    have := List.sizeOf_lt_of_mem (List.mem_of_find?_eq_some isField)
    cases field
    simp_all
    omega
  · cases held

theorem sizeOf_lt_of_mem_childItems {item child : Value} (mem : child ∈ childItems item) :
    sizeOf child < sizeOf item := by
  unfold childItems at mem
  split at mem
  case h_4 => cases mem
  all_goals
    rename_i held
    have smaller := sizeOf_lt_of_field? held
    have := List.sizeOf_lt_of_mem mem
    simp at smaller
    omega

def treeOf (item : Value) : Tree Value :=
  .node item ((childItems item).attach.map fun child => treeOf child.1)
termination_by sizeOf item
decreasing_by exact sizeOf_lt_of_mem_childItems child.2

def requireChildItems (item : Value) : Outcome Unit := do
  discard (← item.field "child_items").items

def itemsBelow (bill : Value) : Outcome (List Value) := do
  let below := (treeOf bill).descendants
  (bill :: below).forM requireChildItems
  return below

def leafNode (name isBill exploded quantity : Value) : Value :=
  .object "BOMTree" [("name", name), ("child_items", .list []), ("is_bom", isBill),
    ("item_code", name), ("qty", quantity), ("exploded_qty", exploded)]

def isMadeHere (bill item : Value) : Outcome Bool := do
  let operations ← bill.field "operations"
  if !operations.truth then return false
  (← operations.items).anyM fun row => return (← row.field "finished_good") == item

def addExploded (bill item : Value) : Outcome Value := do
  let code ← item.field "item_code"
  let operation ← item.field "operation"
  let key := if operation.truth then .tuple [code, operation] else code
  let items ← bill.field "cur_exploded_items"
  let present ← items.getD key .null
  let items ← if present.truth then
      items.setItem key (← present.addKey "stock_qty" (← item.field "stock_qty"))
    else items.setItem key item
  bill.setField "cur_exploded_items" items

def markExpandable (bill : Value) : Outcome Value := do
  let rows ← bill.field "items"
  let own ← bill.field "item_code"
  let made := (← (← rows.items).mapM (·.field "fg_item")).filter fun item => !(item == own)
  let rows ← rows.mapItems fun row => do
    let isMade := Value.occursIn (← row.field "item_code") made
    row.setField "is_expandable" (.int (if isMade then 1 else 0))
  bill.setField "items" rows

def processedBills (log batches : Value) : Outcome (Value × Value) := do
  let before ← log.field "processed_boms"
  let processed ← if before.truth then Json.loadValue before else pure (.ofFields [])
  (← batches.items).foldlM (fun (current, processed) batch => do
    let updated ← (← Json.loadValue (← batch.field "boms_updated")).items
    let current ← Value.plus current (.list updated)
    let processed ← updated.foldlM (fun (found : Value) bill =>
      found.setItem bill (.bool true)) processed
    return (current, processed)) (Value.list [], processed)

end ErpLens.Manufacturing
