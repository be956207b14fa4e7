import ErpLens.Decimal.Binary

/-!
# Shortest decimal

The decimal with the fewest digits that reads back as a given floating-point number; of several, the
one nearest to it.
-/

namespace ErpLens.Decimal

structure Scientific where
  digits : Nat
  exponent : Int
deriving Repr, DecidableEq

def decimalExponent (num den : Nat) : Int :=
  if den ≤ num then ((Nat.toDigits 10 (num / den)).length : Int) - 1
  else -(climb 400 num 0)
where
  climb : Nat → Nat → Nat → Int
    | 0, _, count => count
    | fuel + 1, value, count => if den ≤ value then count else climb fuel (value * 10) (count + 1)

/-- A number with the interval of values that round to it, all over one denominator. -/
structure Interval where
  low : Nat
  value : Nat
  high : Nat
  den : Nat
  closed : Bool

/-- The interval of values that round to a positive finite number. Below a power of two the
neighbours are half as far away. -/
def Finite.interval (x : Finite) : Interval :=
  let gapBelow := if x.mantissa = Nat.pow 2 52 ∧ -1074 < x.exponent then 1 else 2
  let scale := x.exponent - 2
  let factor := if 0 ≤ scale then Nat.pow 2 scale.toNat else 1
  { low := (4 * x.mantissa - gapBelow) * factor
    value := 4 * x.mantissa * factor
    high := (4 * x.mantissa + 2) * factor
    den := if 0 ≤ scale then 1 else Nat.pow 2 (-scale).toNat
    closed := x.mantissa % 2 = 0 }

def Interval.onGrid (interval : Interval) (unit : Int) : Option Scientific :=
  let up := if 0 ≤ unit then 1 else Nat.pow 10 (-unit).toNat
  let den := if 0 ≤ unit then interval.den * Nat.pow 10 unit.toNat else interval.den
  let value := interval.value * up
  let below := value / den
  let inside (d : Nat) : Bool :=
    if interval.closed then
      decide (interval.low * up ≤ d * den) && decide (d * den ≤ interval.high * up)
    else decide (interval.low * up < d * den) && decide (d * den < interval.high * up)
  let nearer := if 2 * (value % den) < den ∨ (2 * (value % den) = den ∧ below % 2 = 0)
    then [below, below + 1] else [below + 1, below]
  (nearer.find? inside).map fun d => ⟨d, unit⟩

def Finite.shortest (x : Finite) : Scientific :=
  let interval := x.interval
  let top := decimalExponent interval.value interval.den
  let attempts := (List.range 17).filterMap fun (count : Nat) => interval.onGrid (top - count)
  attempts.headD ⟨0, 0⟩

/-- Where the plain form ends: numbers from `10 ^ 16` on and below `10 ^ -4` are written with an
exponent. -/
def isPositional (point : Int) : Bool :=
  decide (-4 < point) && decide (point ≤ 16)

/-- Writes `0.digits * 10 ^ point`. The plain form always has a point; the other form has a sign
and at least two digits in its exponent. -/
def layout (digits : List Char) (point : Int) : String :=
  if isPositional point then
    if point ≤ 0 then
      "0." ++ String.ofList (List.replicate (-point).toNat '0' ++ digits)
    else
      let size := point.toNat
      if digits.length ≤ size then
        String.ofList (digits ++ List.replicate (size - digits.length) '0') ++ ".0"
      else String.ofList (digits.take size) ++ "." ++ String.ofList (digits.drop size)
  else
    let exponent := point - 1
    let body := match digits with
      | [] => "0"
      | [d] => String.singleton d
      | d :: rest => String.singleton d ++ "." ++ String.ofList rest
    let size := Nat.toDigits 10 exponent.natAbs
    body ++ "e" ++ (if exponent < 0 then "-" else "+") ++
      String.ofList (List.replicate (2 - size.length) '0' ++ size)

def dropTrailingZeros (digits : List Char) : List Char :=
  (digits.reverse.dropWhile (· == '0')).reverse

def text (x : Float) : String :=
  match parts x with
  | .undefined => "nan"
  | .infinite negative => if negative then "-inf" else "inf"
  | .finite value =>
    let sign := if value.negative then "-" else ""
    if value.mantissa = 0 then sign ++ "0.0"
    else
      let found := value.shortest
      let digits := Nat.toDigits 10 found.digits
      sign ++ layout (dropTrailingZeros digits) (found.exponent + digits.length)

end ErpLens.Decimal
