import ErpLens.Decimal.Binary
import ErpLens.Value.Basic

/-!
# Numbers

Whole and fractional numbers mix: a whole result stays whole, and a fraction on either side makes
the result a floating-point number. Comparison of the two kinds is exact.
-/

namespace ErpLens

inductive Num where
  | int (value : Int)
  | float (value : Float)
deriving Repr, Inhabited

namespace Num

def floatOfInt (value : Int) : Float :=
  Decimal.nearest (value < 0) value.natAbs 1

def toFloat : Num → Float
  | int value => floatOfInt value
  | float value => value

def toValue : Num → Value
  | int value => .int value
  | float value => .float value

def isZero : Num → Bool
  | int value => value == 0
  | float value => value == 0

def add : Num → Num → Num
  | int a, int b => int (a + b)
  | a, b => float (a.toFloat + b.toFloat)

def sub : Num → Num → Num
  | int a, int b => int (a - b)
  | a, b => float (a.toFloat - b.toFloat)

def mul : Num → Num → Num
  | int a, int b => int (a * b)
  | a, b => float (a.toFloat * b.toFloat)

def neg : Num → Num
  | int a => int (-a)
  | float a => float (-a)

def abs : Num → Num
  | int a => int a.natAbs
  | float a => float a.abs

instance : Add Num := ⟨add⟩
instance : Sub Num := ⟨sub⟩
instance : Mul Num := ⟨mul⟩
instance : Neg Num := ⟨neg⟩
instance : Zero Num := ⟨int 0⟩

def divInts (a b : Int) : Float :=
  Decimal.nearest (decide (a < 0) != decide (b < 0)) a.natAbs b.natAbs

def div? (a b : Num) : Option Num :=
  if b.isZero then none
  else
    match a, b with
    | int x, int y => some (float (divInts x y))
    | _, _ => some (float (a.toFloat / b.toFloat))

/-- The remainder of floating-point numbers with the sign of the divisor, and the whole quotient
below. -/
def floatDivMod (a b : Float) : Float × Float :=
  let rest := remainder a b
  let quotient := (a - rest) / b
  let (rest, quotient) :=
    if rest == 0 then (if b < 0 then (-0.0 : Float) else 0.0, quotient)
    else if (b < 0) != (rest < 0) then (rest + b, quotient - 1.0)
    else (rest, quotient)
  let floor :=
    if quotient == 0 then (if a / b < 0 then (-0.0 : Float) else 0.0)
    else
      let f := quotient.floor
      if quotient - f > 0.5 then f + 1.0 else f
  (floor, rest)
where
  /-- The remainder with the sign of the dividend, exactly. -/
  remainder (a b : Float) : Float :=
    match Decimal.parts a, Decimal.parts b with
    | .finite x, .finite y =>
      if y.mantissa = 0 then 0.0 / 0.0
      else
        let low := min x.exponent y.exponent
        let m := x.mantissa * Nat.pow 2 (x.exponent - low).toNat
        let n := y.mantissa * Nat.pow 2 (y.exponent - low).toNat
        let r := m % n
        if 0 ≤ low then Decimal.nearest x.negative (r * Nat.pow 2 low.toNat) 1
        else Decimal.nearest x.negative r (Nat.pow 2 (-low).toNat)
    | .finite _, .infinite _ => a
    | _, _ => 0.0 / 0.0

def floorDiv? (a b : Num) : Option Num :=
  if b.isZero then none
  else
    match a, b with
    | int x, int y => some (int (x.fdiv y))
    | _, _ => some (float (floatDivMod a.toFloat b.toFloat).1)

/-- Compares a whole number with a floating-point one exactly; not with what is no number. -/
def compareIntFloat (a : Int) (b : Float) : Option Ordering :=
  match Decimal.parts b with
  | .undefined => none
  | .infinite negative => some (if negative then .gt else .lt)
  | .finite value =>
    let (num, den) := value.ratio
    let right : Int := if value.negative then -(num : Int) else num
    some (compare (a * den) right)

def compare? : Num → Num → Option Ordering
  | int a, int b => some (compare a b)
  | int a, float b => compareIntFloat a b
  | float a, int b => (compareIntFloat b a).map Ordering.swap
  | float a, float b =>
    if a < b then some .lt else if a > b then some .gt else if a == b then some .eq else none

def lt (a b : Num) : Bool := compare? a b == some .lt

def le (a b : Num) : Bool := compare? a b == some .lt || compare? a b == some .eq

def eq (a b : Num) : Bool := compare? a b == some .eq

instance : LT Num := ⟨fun a b => a.lt b = true⟩
instance : LE Num := ⟨fun a b => a.le b = true⟩
instance (a b : Num) : Decidable (a < b) := inferInstanceAs (Decidable (a.lt b = true))
instance (a b : Num) : Decidable (a ≤ b) := inferInstanceAs (Decidable (a.le b = true))
instance : BEq Num := ⟨eq⟩

end Num

namespace Value

def num? : Value → Option Num
  | .int value => some (.int value)
  | .float value => some (.float value)
  | .bool value => some (.int (if value then 1 else 0))
  | _ => none

end Value

end ErpLens
