import ErpLens.Value.Arithmetic

/-!
# Delivery trips

A trip has stops in an order. When a part of the route has been optimised, the stops of that part are
put in the new order and numbered by it.
-/

namespace ErpLens.Stock

def changeAt {σ : Type} (change : σ → Outcome σ) : Nat → List σ → Outcome (List σ)
  | _, [] => .ok []
  | 0, stop :: rest => return (← change stop) :: rest
  | place + 1, stop :: rest => return stop :: (← changeAt change place rest)

/-- Numbers the stops that an order names, counting from `next`; the positions in that order, and
the stops after it. `start` is where the part begins. -/
def numberStops {σ : Type} (number : σ → Int → Outcome σ) (start : Int) :
    Int → List Int → List σ → Outcome (List Nat × List σ)
  | _, [], stops => .ok ([], stops)
  | next, old :: rest, stops =>
    match Value.position? stops.length (start + old) with
    | none => .error (.outOfRange "list index out of range")
    | some position => do
      let stops ← changeAt (number · (start + next)) position stops
      let (positions, stops) ← numberStops number start (next + 1) rest stops
      return (position :: positions, stops)

/-- The stops with the part that begins at `start` in a new order, numbered by it. It fails if the
order names a stop that is not there, or one that takes no number. -/
def rearrange {σ : Type} (number : σ → Int → Outcome σ) (order : List Int) (start : Int)
    (stops : List σ) : Outcome (List σ) := do
  let (positions, numbered) ← numberStops number start 1 order stops
  let chosen := positions.filterMap (numbered[·]?)
  let low := Value.bound numbered.length start
  let high := Value.bound numbered.length (start + chosen.length)
  return numbered.take low ++ chosen ++ numbered.drop (max low high)

def wholeIndex (value : Value) : Outcome Int :=
  match Value.index? value with
  | some i => .ok i
  | none => .error (.wrongType s!"list indices must be integers or slices, not {value.kindName}")

def numberStop (stop : Value) (n : Int) : Outcome Value :=
  stop.setField "idx" (.int n)

def rearrangeStops (trip order start : Value) : Outcome Value := do
  let order ← (← order.items).mapM wholeIndex
  let stops ← (← trip.field "delivery_stops").items
  let stops ← rearrange numberStop order (← wholeIndex start) stops
  trip.setField "delivery_stops" (.list stops)

def shortAddress (address : Value) : Outcome Value := do
  if !address.truth then return .null
  return .str (", ".intercalate ((Text.splitOn "<br>" (← address.asText "split")).take 3))

end ErpLens.Stock
