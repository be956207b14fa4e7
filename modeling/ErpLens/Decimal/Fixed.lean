import ErpLens.Decimal.Shortest

/-!
# Decimals with a given number of places

Rounding of a floating-point number to a number of decimal places or of significant digits. The
exact value is rounded, a half going to the even neighbour.
-/

namespace ErpLens.Decimal

def Finite.units (value : Finite) (places : Int) : Nat :=
  let (num, den) := value.ratio
  if 0 ≤ places then roundDiv (num * Nat.pow 10 places.toNat) den
  else roundDiv num (den * Nat.pow 10 (-places).toNat)

def roundTo (places : Int) (x : Float) : Float :=
  match parts x with
  | .finite value =>
    if 400 < places then x else ofDecimal value.negative (value.units places) (-places)
  | _ => x

def truncate? (x : Float) : Option Int :=
  match parts x with
  | .finite value =>
    let (num, den) := value.ratio
    let size : Int := ((num / den : Nat) : Int)
    some (if value.negative then -size else size)
  | _ => none

def padDigits (width : Nat) (digits : List Char) : List Char :=
  List.replicate (width - digits.length) '0' ++ digits

def textWith (finite : Finite → String) (x : Float) : String :=
  match parts x with
  | .undefined => "nan"
  | .infinite negative => if negative then "-inf" else "inf"
  | .finite value => (if value.negative then "-" else "") ++ finite value

def placePoint (places : Nat) (digits : List Char) : String :=
  if places = 0 then String.ofList digits
  else
    let padded := padDigits (places + 1) digits
    let whole := padded.length - places
    String.ofList (padded.take whole) ++ "." ++ String.ofList (padded.drop whole)

def fixedText (places : Nat) (x : Float) : String :=
  textWith (fun value => placePoint places (Nat.toDigits 10 (value.units places))) x

def Finite.significant (value : Finite) (count : Nat) : List Char × Int :=
  let (num, den) := value.ratio
  let exponent := decimalExponent num den
  let units := value.units ((count : Int) - 1 - exponent)
  let digits := Nat.toDigits 10 units
  if count < digits.length then (digits.take count, exponent + 1) else (digits, exponent)

/-- A number with at most `count` significant digits, without zeros at the end. Numbers from
`10 ^ count` on and below `10 ^ -4` are written with an exponent. -/
def generalText (count : Nat) (x : Float) : String :=
  let count := max count 1
  textWith (fun value =>
    if value.mantissa = 0 then "0"
    else
      let (digits, exponent) := value.significant count
      let kept := dropTrailingZeros digits
      if exponent < -4 ∨ (count : Int) ≤ exponent then
        let size := padDigits 2 (Nat.toDigits 10 exponent.natAbs)
        (match kept with
          | [] => "0"
          | [d] => String.singleton d
          | d :: rest => String.singleton d ++ "." ++ String.ofList rest) ++
          "e" ++ (if exponent < 0 then "-" else "+") ++ String.ofList size
      else if exponent < 0 then
        "0." ++ String.ofList (List.replicate ((-exponent).toNat - 1) '0' ++ kept)
      else
        let whole := exponent.toNat + 1
        if kept.length ≤ whole then
          String.ofList (kept ++ List.replicate (whole - kept.length) '0')
        else String.ofList (kept.take whole) ++ "." ++ String.ofList (kept.drop whole)) x

end ErpLens.Decimal
