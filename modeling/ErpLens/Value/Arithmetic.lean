import ErpLens.Decimal.Fixed
import ErpLens.Value.Access

/-!
# Arithmetic of values

Numbers are added, subtracted, multiplied and divided; texts and lists are joined by addition.
Nothing else has arithmetic.
-/

namespace ErpLens.Value

def noOperation (sign : String) (a b : Value) : Fault :=
  .wrongType s!"unsupported operand type(s) for {sign}: '{a.kindName}' and '{b.kindName}'"

def number (value : Value) : Outcome Num :=
  match value.num? with
  | some number => .ok number
  | none => .error (.wrongType s!"must be real number, not {value.kindName}")

def plus (a b : Value) : Outcome Value :=
  match a, b with
  | .str x, .str y => .ok (.str (x ++ y))
  | .list x, .list y => .ok (.list (x ++ y))
  | .tuple x, .tuple y => .ok (.tuple (x ++ y))
  | _, _ =>
    match a.num?, b.num? with
    | some x, some y => .ok (x + y).toValue
    | _, _ => .error (noOperation "+" a b)

def minus (a b : Value) : Outcome Value :=
  match a.num?, b.num? with
  | some x, some y => .ok (x - y).toValue
  | _, _ => .error (noOperation "-" a b)

def times (a b : Value) : Outcome Value :=
  match a.num?, b.num? with
  | some x, some y => .ok (x * y).toValue
  | _, _ => .error (noOperation "*" a b)

def dividedBy (a b : Value) : Outcome Value :=
  match a.num?, b.num? with
  | some x, some y =>
    match x.div? y with
    | some quotient => .ok quotient.toValue
    | none => .error (.divisionByZero "division by zero")
  | _, _ => .error (noOperation "/" a b)

def negated (a : Value) : Outcome Value :=
  match a.num? with
  | some x => .ok (-x).toValue
  | none => .error (.wrongType s!"bad operand type for unary -: '{a.kindName}'")

def absolute (a : Value) : Outcome Value :=
  match a.num? with
  | some x => .ok x.abs.toValue
  | none => .error (.wrongType s!"bad operand type for abs(): '{a.kindName}'")

def rounded (places : Nat) (a : Value) : Outcome Value :=
  match a.num? with
  | some (.int x) => .ok (.int x)
  | some (.float x) => .ok (.float (Decimal.roundTo places x))
  | none => .error (.wrongType s!"type {a.kindName} doesn't define __round__ method")

def total (values : List Value) : Outcome Value :=
  values.foldlM plus (.int 0)

def orElse (a b : Value) : Value :=
  if a.truth then a else b

def fieldOr (value : Value) (name : String) (default : Value) : Value :=
  (value.field? name).getD default

def setFields (value : Value) (fields : Fields) : Outcome Value :=
  fields.foldlM (fun value (name, new) => value.setField name new) value

def setKeys (value : Value) (fields : Fields) : Outcome Value :=
  fields.foldlM (fun value (name, new) => value.setKey name new) value

def addKey (value : Value) (name : String) (amount : Value) : Outcome Value := do
  value.setKey name (← plus (← value.key name) amount)

def addField (value : Value) (name : String) (amount : Value) : Outcome Value := do
  value.setField name (← plus (← value.field name) amount)

def largest (values : List Value) : Outcome Value :=
  match values with
  | [] => .error (.badValue "max() arg is an empty sequence")
  | first :: rest => rest.foldlM (fun best value => do
      return if ← greaterThan value best then value else best) first

def isAmong (value : Value) (texts : List String) : Bool :=
  match value with
  | .str text => texts.contains text
  | _ => false

def isText (value : Value) (text : String) : Bool :=
  value == .str text

def entries (value : Value) : Outcome Entries :=
  match value with
  | .dict _ entries => .ok entries
  | _ => .error (noField value "items")

def values (value : Value) : Outcome (List Value) :=
  match value with
  | .dict _ entries => .ok (entries.map Prod.snd)
  | _ => .error (noField value "values")

def ofEntries (entries : Entries) : Value :=
  .dict .plain (entries.foldl (fun found (key, value) => putEntry key value found) [])

def distinct (values : List Value) : List Value :=
  values.foldl (fun found value => if occursIn value found then found else found ++ [value]) []

def mapItems (value : Value) (change : Value → Outcome Value) : Outcome Value := do
  match value with
  | .list items => return .list (← items.mapM change)
  | .tuple items => return .tuple (← items.mapM change)
  | .deque items => return .deque (← items.mapM change)
  | other => throw other.notIterable

end ErpLens.Value
