import ErpLens.Value.Number

/-!
# Equality and order of values

Numbers are equal by size, whatever their kind, and truth values count as numbers. Dictionaries and
sets are equal by content, in any order. Texts are ordered by code point, sequences by their first
difference.
-/

namespace ErpLens.Value

mutual

def same : Value → Value → Bool
  | .null, .null => true
  | .str a, .str b => a == b
  | .list a, .list b => sameItems a b
  | .tuple a, .tuple b => sameItems a b
  | .deque a, .deque b => sameItems a b
  | .set a, .set b => a.length == b.length && membersIn a b
  | .dict _ a, .dict _ b => a.length == b.length && entriesIn a b
  | .date a, .date b => a == b
  | .moment a, .moment b => a == b
  | .object c a, .object d b => c == d && a.length == b.length && fieldsIn a b
  | a, b =>
    match a.num?, b.num? with
    | some x, some y => x == y
    | _, _ => false

def sameItems : List Value → List Value → Bool
  | [], [] => true
  | a :: as, b :: bs => same a b && sameItems as bs
  | _, _ => false

def membersIn : List Value → List Value → Bool
  | [], _ => true
  | a :: rest, other => other.any (fun b => same a b) && membersIn rest other

def entriesIn : Entries → Entries → Bool
  | [], _ => true
  | (k, v) :: rest, other =>
    other.any (fun entry => same k entry.1 && same v entry.2) && entriesIn rest other

def fieldsIn : Fields → Fields → Bool
  | [], _ => true
  | (k, v) :: rest, other =>
    other.any (fun entry => k == entry.1 && same v entry.2) && fieldsIn rest other

end

instance : BEq Value := ⟨same⟩

def occursIn (value : Value) (items : List Value) : Bool :=
  items.any fun item => same item value

def unordered (sign : String) (a b : Value) : Fault :=
  .wrongType s!"'{sign}' not supported between instances of '{a.kindName}' and '{b.kindName}'"

mutual

/-- How two values are ordered; `none` for numbers that do not compare. -/
def order (sign : String) : Value → Value → Outcome (Option Ordering)
  | .str a, .str b => .ok (some (compareOfLessAndEq a b))
  | .list a, .list b => orderItems sign a b
  | .tuple a, .tuple b => orderItems sign a b
  | .deque a, .deque b => orderItems sign a b
  | .date a, .date b => .ok (some (compare a.toOrdinal b.toOrdinal))
  | .moment a, .moment b => .ok (some (compare a.toMicros b.toMicros))
  | a, b =>
    match a.num?, b.num? with
    | some x, some y => .ok (x.compare? y)
    | _, _ => .error (unordered sign a b)

def orderItems (sign : String) : List Value → List Value → Outcome (Option Ordering)
  | [], [] => .ok (some .eq)
  | [], _ :: _ => .ok (some .lt)
  | _ :: _, [] => .ok (some .gt)
  | a :: as, b :: bs => if same a b then orderItems sign as bs else order sign a b

end

def lessThan (a b : Value) : Outcome Bool :=
  return (← order "<" a b) == some .lt

def greaterThan (a b : Value) : Outcome Bool :=
  return (← order ">" a b) == some .gt

def atMost (a b : Value) : Outcome Bool := do
  let found ← order "<=" a b
  return found == some .lt || found == some .eq

def atLeast (a b : Value) : Outcome Bool := do
  let found ← order ">=" a b
  return found == some .gt || found == some .eq

def insertSorted {α : Type} (below : α → α → Outcome Bool) (item : α) : List α → Outcome (List α)
  | [] => .ok [item]
  | first :: rest => do
    if ← below item first then return item :: first :: rest
    else return first :: (← insertSorted below item rest)

def sortWith {α : Type} (below : α → α → Outcome Bool) (items : List α) : Outcome (List α) :=
  items.foldlM (fun sorted item => insertSorted below item sorted) []

def sortByKey (descending : Bool) (items : Entries) : Outcome Entries :=
  sortWith (fun a b => if descending then lessThan b.1 a.1 else lessThan a.1 b.1) items

end ErpLens.Value
