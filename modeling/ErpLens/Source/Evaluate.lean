import ErpLens.Source.Parse
import ErpLens.Value.Access

/-!
# The value of a literal expression

Constants, signed numbers and displays of them have a value of their own; any other expression has
none. A complex number and bytes are values too, but nothing is ever done with them, so they count
as nothing.
-/

namespace ErpLens.Source

def noLiteral : Fault :=
  .badValue "malformed node or string"

namespace Constant

def value : Constant → Value
  | .bool value => .bool value
  | .number (.integer value) => .int value
  | .number (.real value) => .float value
  | .string codes _ => .str (Text.ofCodePoints codes)
  | _ => .null

end Constant

def Expr.isImaginary : Expr → Bool
  | .constant (.number (.imaginary _)) => true
  | _ => false

def signedNumber? : Expr → Option Value
  | .constant (.number number) => some (Constant.number number).value
  | .unary .plus operand => signedNumber? operand
  | .unary .minus operand =>
    (signedNumber? operand).map fun value =>
      match value with
      | .int value => .int (-value)
      | .float value => .float (-value)
      | other => other
  | _ => none

def setOf (values : List Value) : Outcome Value := do
  let members ← values.foldlM (fun found value =>
    if !value.isHashable then .error (.wrongType s!"unhashable type: '{value.kindName}'")
    else .ok (if Value.occursIn value found then found else found ++ [value])) []
  return .set members

mutual

def Expr.literalValue : Expr → Outcome Value
  | .constant value => .ok value.value
  | .tuple elements => return .tuple (← literalValues elements)
  | .list elements => return .list (← literalValues elements)
  | .set elements => do setOf (← literalValues elements)
  | .dict items => do
    let entries ← literalEntries items
    entries.foldlM (fun (found : Value) (key, value) => found.setItem key value) (.dict .plain [])
  | .call (.name "set") [] [] _ => .ok (.set [])
  | .unary op operand =>
    match signedNumber? (.unary op operand) with
    | some value => .ok value
    | none => .error noLiteral
  | .binary left op right =>
    match op, signedNumber? left with
    | .add, some _ | .sub, some _ => if right.isImaginary then .ok .null else .error noLiteral
    | _, _ => .error noLiteral
  | _ => .error noLiteral

def literalValues : List Expr → Outcome (List Value)
  | [] => .ok []
  | first :: rest => return (← first.literalValue) :: (← literalValues rest)

def literalEntries : List DictItem → Outcome Entries
  | [] => .ok []
  | .pair key value :: rest => do
    let key ← key.literalValue
    let value ← value.literalValue
    return (key, value) :: (← literalEntries rest)
  | .unpack _ :: _ => .error noLiteral

end

def evaluateLiteral (text : String) : Outcome Value :=
  let start := String.ofList (text.toList.dropWhile fun c => c == ' ' || c == '\t')
  match parseExpression? start with
  | some tree => tree.literalValue
  | none => .error (.malformedSource false)

end ErpLens.Source
