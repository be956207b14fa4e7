import ErpLens.Accounts.Amount

/-!
# Valuation by bins

Stock is valued by bins of a quantity and the rate it came in at. In a queue the oldest bin is used
first; on a stack the newest one.
-/

namespace ErpLens.Stock

structure Bin (α : Type) where
  quantity : α
  rate : α
deriving Repr, DecidableEq

section

variable {α : Type} [Accounts.Amount α] [Zero α] [BEq α]

/-- The newest bins after stock comes in, when `newest` was the newest; newest last. -/
def Bin.receive (newest : Bin α) (quantity rate : α) : List (Bin α) :=
  if newest.rate == rate then [{ newest with quantity := newest.quantity + quantity }]
  else if (0 : α) < newest.quantity then [newest, ⟨quantity, rate⟩]
  else
    let balance := newest.quantity + quantity
    if (0 : α) < balance then [⟨balance, rate⟩] else [{ newest with quantity := balance }]

structure BinQueue (α : Type) where
  bins : List (Bin α)
deriving Repr, DecidableEq

def BinQueue.add (queue : BinQueue α) (quantity rate : α) : BinQueue α :=
  match queue.bins.getLast? with
  | none => ⟨Bin.receive ⟨0, 0⟩ quantity rate⟩
  | some newest => ⟨queue.bins.dropLast ++ newest.receive quantity rate⟩

/-- The top of the stack is the last bin. -/
structure BinStack (α : Type) where
  bins : List (Bin α)
deriving Repr, DecidableEq

def BinStack.add (stack : BinStack α) (quantity rate : α) : BinStack α :=
  let bins := if stack.bins.isEmpty then [⟨0, 0⟩] else stack.bins
  let below := bins.dropLast
  match bins.getLast? with
  | none => ⟨bins⟩
  | some top =>
    if top.rate == rate then ⟨below ++ [{ top with quantity := top.quantity + quantity }]⟩
    else if (0 : α) < top.quantity then ⟨bins ++ [⟨quantity, rate⟩]⟩
    else
      let balance := top.quantity + quantity
      if (0 : α) < balance then ⟨below ++ [⟨balance, rate⟩]⟩
      else ⟨below ++ [{ top with quantity := balance }]⟩

end

def BinQueue.state {α : Type} (queue : BinQueue α) : List (Bin α) := queue.bins

def BinStack.state {α : Type} (stack : BinStack α) : List (Bin α) := stack.bins

/-! ## Bins of documents -/

section

open Accounts

variable {α : Type} [FieldAmount α]

def binsOf (value : Value) : Outcome (List (Bin α)) := do
  (← value.items).mapM fun bin => do
    return ⟨← FieldAmount.ofValue (← bin.item (.int 0)), ← FieldAmount.ofValue (← bin.item (.int 1))⟩

def binsValue (bins : List (Bin α)) : Value :=
  .list (bins.map fun bin =>
    .list [FieldAmount.toValue bin.quantity, FieldAmount.toValue bin.rate])

variable (α) [Zero α] [BEq α]

def receiveInQueueWith (document quantity rate : Value) : Outcome Value := do
  let queue : BinQueue α := ⟨← binsOf (← document.field "queue")⟩
  let received := queue.add (← FieldAmount.ofValue quantity) (← FieldAmount.ofValue rate)
  document.setField "queue" (binsValue received.state)

def receiveOnStackWith (document quantity rate : Value) : Outcome Value := do
  let stack : BinStack α := ⟨← binsOf (← document.field "stack")⟩
  let received := stack.add (← FieldAmount.ofValue quantity) (← FieldAmount.ofValue rate)
  document.setField "stack" (binsValue received.state)

end

def receiveInQueue : Value → Value → Value → Outcome Value :=
  receiveInQueueWith Num

def receiveOnStack : Value → Value → Value → Outcome Value :=
  receiveOnStackWith Num

end ErpLens.Stock
