import ErpLens.Text.Search
import ErpLens.Value.Compare
import ErpLens.Value.Text

/-!
# Reading and changing values

Looking up keys, fields and positions, going over items, cutting out parts. Each function has the
fault that arises when the value is not of the right kind.
-/

namespace ErpLens.Value

/-! ## Entries -/

def findEntry (key : Value) : Entries → Option Value
  | [] => none
  | (k, v) :: rest => if same k key then some v else findEntry key rest

def putEntry (key value : Value) : Entries → Entries
  | [] => [(key, value)]
  | (k, v) :: rest => if same k key then (k, value) :: rest else (k, v) :: putEntry key value rest

def eraseEntry (key : Value) (entries : Entries) : Entries :=
  entries.filter fun entry => !same entry.1 key

/-! ## Kinds that can be hashed -/

mutual

def isHashable : Value → Bool
  | .list _ | .dict .plain _ | .set _ | .deque _ => false
  | .tuple items => areHashable items
  | _ => true

def areHashable : List Value → Bool
  | [] => true
  | item :: rest => isHashable item && areHashable rest

end

/-! ## Faults of the wrong kind -/

def noField (value : Value) (name : String) : Fault :=
  .missingField s!"'{value.kindName}' object has no attribute '{name}'"

def notSubscriptable (value : Value) : Fault :=
  .wrongType s!"'{value.kindName}' object is not subscriptable"

def notIterable (value : Value) : Fault :=
  .wrongType s!"'{value.kindName}' object is not iterable"

/-! ## Looking up -/

/-- The position that an index means in something of a size; negative ones count from the end. -/
def position? (size : Nat) (index : Int) : Option Nat :=
  if 0 ≤ index then (if index < size then some index.toNat else none)
  else if 0 ≤ index + size then some (index + size).toNat
  else none

def index? : Value → Option Int
  | .int value => some value
  | .bool value => some (if value then 1 else 0)
  | _ => none

def itemAt (items : List Value) (kind : String) (key : Value) : Outcome Value :=
  match index? key with
  | none => .error (.wrongType s!"{kind} indices must be integers or slices, not {key.kindName}")
  | some index =>
    match (position? items.length index).bind (items[·]?) with
    | some item => .ok item
    | none => .error (.outOfRange s!"{kind} index out of range")

def item (value key : Value) : Outcome Value :=
  match value with
  | .dict _ entries =>
    match findEntry key entries with
    | some found => .ok found
    | none =>
      if key.isHashable then .error (.missingKey key)
      else .error (.wrongType s!"unhashable type: '{key.kindName}'")
  | .list items => itemAt items "list" key
  | .tuple items => itemAt items "tuple" key
  | .deque items => itemAt items "deque" key
  | .str text =>
    match index? key with
    | none => .error (.wrongType s!"string indices must be integers, not '{key.kindName}'")
    | some index =>
      match (position? text.length index).bind (text.toList[·]?) with
      | some c => .ok (.str (String.singleton c))
      | none => .error (.outOfRange "string index out of range")
  | _ => .error (notSubscriptable value)

def key (value : Value) (name : String) : Outcome Value :=
  item value (.str name)

/-- The value of a key, or a default if the dictionary has none. Other values have no such look-up.
-/
def getD (value : Value) (key default : Value) : Outcome Value :=
  match value with
  | .dict _ entries => .ok ((findEntry key entries).getD default)
  | _ => .error (noField value "get")

def get (value : Value) (name : String) : Outcome Value :=
  getD value (.str name) .null

def field? (value : Value) (name : String) : Option Value :=
  match value with
  | .dict .record entries => findEntry (.str name) entries
  | .object _ fields => (fields.find? fun field => field.1 == name).map Prod.snd
  | _ => none

def field (value : Value) (name : String) : Outcome Value :=
  match value.field? name with
  | some found => .ok found
  | none => .error (noField value name)

/-! ## Changing -/

def setItem (value key new : Value) : Outcome Value :=
  match value with
  | .dict kind entries =>
    if key.isHashable then .ok (.dict kind (putEntry key new entries))
    else .error (.wrongType s!"unhashable type: '{key.kindName}'")
  | .list items =>
    match index? key with
    | none => .error (.wrongType s!"list indices must be integers or slices, not {key.kindName}")
    | some index =>
      match position? items.length index with
      | some i => .ok (.list (items.set i new))
      | none => .error (.outOfRange "list assignment index out of range")
  | .deque items =>
    match index? key with
    | none => .error (.wrongType s!"sequence index must be integer, not '{key.kindName}'")
    | some index =>
      match position? items.length index with
      | some i => .ok (.deque (items.set i new))
      | none => .error (.outOfRange "deque index out of range")
  | _ => .error (.wrongType s!"'{value.kindName}' object does not support item assignment")

def setKey (value : Value) (name : String) (new : Value) : Outcome Value :=
  setItem value (.str name) new

def putField (name : String) (new : Value) : Fields → Fields
  | [] => [(name, new)]
  | (k, v) :: rest => if k == name then (k, new) :: rest else (k, v) :: putField name new rest

def setField (value : Value) (name : String) (new : Value) : Outcome Value :=
  match value with
  | .dict .record entries => .ok (.dict .record (putEntry (.str name) new entries))
  | .object class_ fields => .ok (.object class_ (putField name new fields))
  | _ => .error (noField value name)

/-! ## Going over items -/

def items : Value → Outcome (List Value)
  | .list items => .ok items
  | .tuple items => .ok items
  | .set members => .ok members
  | .deque items => .ok items
  | .dict _ entries => .ok (entries.map Prod.fst)
  | .str text => .ok (text.toList.map fun c => .str (String.singleton c))
  | value => .error (notIterable value)

def size : Value → Outcome Nat
  | .list items => .ok items.length
  | .tuple items => .ok items.length
  | .set members => .ok members.length
  | .deque items => .ok items.length
  | .dict _ entries => .ok entries.length
  | .str text => .ok text.length
  | value => .error (.wrongType s!"object of type '{value.kindName}' has no len()")

def contains (value item : Value) : Outcome Bool :=
  match value with
  | .str text =>
    match item with
    | .str part => .ok (Text.contains text part)
    | _ =>
      .error (.wrongType s!"'in <string>' requires string as left operand, not {item.kindName}")
  | .list items => .ok (occursIn item items)
  | .tuple items => .ok (occursIn item items)
  | .set members => .ok (occursIn item members)
  | .deque items => .ok (occursIn item items)
  | .dict _ entries => .ok (occursIn item (entries.map Prod.fst))
  | _ => .error (.wrongType s!"argument of type '{value.kindName}' is not iterable")

/-! ## Parts -/

/-- The number of items before a bound of a slice; negative bounds count from the end. -/
def bound (size : Nat) (index : Int) : Nat :=
  if index < 0 then (index + size).toNat else min index.toNat size

def takeTo {α : Type} (limit : Int) (items : List α) : List α :=
  items.take (bound items.length limit)

def between {α : Type} (start stop : Int) (items : List α) : List α :=
  let low := bound items.length start
  (items.take (bound items.length stop)).drop low

def slice (value : Value) (limit : Int) : Outcome Value :=
  match value with
  | .list items => .ok (.list (takeTo limit items))
  | .tuple items => .ok (.tuple (takeTo limit items))
  | .str text => .ok (.str (String.ofList (takeTo limit text.toList)))
  | .dict _ _ => .error (.wrongType "unhashable type: 'slice'")
  | .set _ | .deque _ | _ => .error (notSubscriptable value)

def asText (value : Value) (use : String) : Outcome String :=
  match value with
  | .str text => .ok text
  | _ => .error (noField value use)

def joinTexts (separator : String) (value : Value) : Outcome String := do
  let parts ← match value with
    | .list _ | .tuple _ | .set _ | .deque _ | .dict _ _ | .str _ => items value
    | _ => throw (.wrongType "can only join an iterable")
  let texts ← (List.range parts.length |>.zip parts).mapM fun (i, part) =>
    match part with
    | .str text => pure text
    | other =>
      throw (.wrongType s!"sequence item {i}: expected str instance, {other.kindName} found")
  return separator.intercalate texts

def pair (value : Value) : Outcome (Value × Value) := do
  let parts ← match value.items with
    | .ok parts => pure parts
    | .error _ => throw (.wrongType s!"cannot unpack non-iterable {value.kindName} object")
  match parts with
  | [a, b] => return (a, b)
  | [] => throw (.badValue "not enough values to unpack (expected 2, got 0)")
  | [_] => throw (.badValue "not enough values to unpack (expected 2, got 1)")
  | _ => throw (.badValue "too many values to unpack (expected 2)")

end ErpLens.Value
