/-!
# Binary floating-point numbers as exact values

A finite number is an integer times a power of two. This module takes one apart and finds the
nearest one to a quotient of natural numbers, both in exact arithmetic.
-/

namespace ErpLens.Decimal

structure Finite where
  negative : Bool
  mantissa : Nat
  exponent : Int
deriving Repr, DecidableEq

inductive Parts where
  | finite (value : Finite)
  | infinite (negative : Bool)
  | undefined
deriving Repr, DecidableEq

def parts (x : Float) : Parts :=
  let bits := x.toBits.toNat
  let negative := decide (Nat.pow 2 63 ≤ bits)
  let biased : Nat := bits / Nat.pow 2 52 % Nat.pow 2 11
  let fraction : Nat := bits % Nat.pow 2 52
  if biased = 2047 then
    if fraction = 0 then .infinite negative else .undefined
  else if biased = 0 then .finite ⟨negative, fraction, -1074⟩
  else .finite ⟨negative, fraction + Nat.pow 2 52, (biased : Int) - 1075⟩

def roundDiv (num den : Nat) : Nat :=
  let floor := num / den
  let rest := num % den
  if 2 * rest < den then floor
  else if den < 2 * rest then floor + 1
  else if floor % 2 = 0 then floor else floor + 1

def scaleDown (num den : Nat) (exponent : Int) : Nat × Nat :=
  if 0 ≤ exponent then (num, den * Nat.pow 2 exponent.toNat)
  else (num * Nat.pow 2 (-exponent).toNat, den)

/-- The bits of the floating-point number nearest to `num / den`, a tie going to the even
mantissa. Too large a quotient gives infinity. -/
def nearestBits (num den : Nat) : Nat :=
  if num = 0 then 0
  else
    let magnitude : Int := (Nat.log2 num : Int) - Nat.log2 den
    let guess := max (magnitude - 52) (-1074)
    let (num₁, den₁) := scaleDown num den guess
    let exponent := if num₁ / den₁ < Nat.pow 2 52 then max (guess - 1) (-1074) else guess
    let (num₂, den₂) := scaleDown num den exponent
    let mantissa := roundDiv num₂ den₂
    let bits :=
      if mantissa < Nat.pow 2 52 then mantissa
      else (exponent + 1075).toNat * Nat.pow 2 52 + (mantissa - Nat.pow 2 52)
    min bits (2047 * Nat.pow 2 52)

def nearest (negative : Bool) (num den : Nat) : Float :=
  let bits := nearestBits num den
  Float.ofBits (if negative then bits + Nat.pow 2 63 else bits).toUInt64

/-- The floating-point number nearest to `digits * 10 ^ exponent`. Exponents far outside the range
of the format give zero or infinity at once. -/
def ofDecimal (negative : Bool) (digits : Nat) (exponent : Int) : Float :=
  let size : Int := (Nat.toDigits 10 digits).length
  if digits = 0 || size + exponent < -330 then nearest negative 0 1
  else if 320 < size + exponent then nearest negative (Nat.pow 2 1100) 1
  else if 0 ≤ exponent then nearest negative (digits * Nat.pow 10 exponent.toNat) 1
  else nearest negative digits (Nat.pow 10 (-exponent).toNat)

def Finite.ratio (value : Finite) : Nat × Nat :=
  if 0 ≤ value.exponent then (value.mantissa * Nat.pow 2 value.exponent.toNat, 1)
  else (value.mantissa, Nat.pow 2 (-value.exponent).toNat)

end ErpLens.Decimal
