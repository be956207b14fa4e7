import ErpLens.Source.Grammar.Expressions

/-!
# Grammar of patterns

The patterns of `case` clauses.
-/

namespace ErpLens.Source.Grammar

open Reader

variable (rules : Rules)

def signedNumber : Reader (Expr × Number) := do
  let negative ← skipOp "-"
  match ← peek with
  | .number value =>
    advance
    let literal := Expr.constant (.number value)
    return (if negative then .unary .minus literal else literal, value)
  | _ => failure

def isImaginary : Number → Bool
  | .imaginary _ => true
  | _ => false

def numberPattern : Reader Expr := do
  let (left, value) ← signedNumber
  if (← atOp "+") || (← atOp "-") then
    let sign := if ← skipOp "+" then BinaryOp.add else .sub
    if sign == .sub then op "-"
    match ← peek with
    | .number right =>
      advance
      require (!isImaginary value && isImaginary right)
      return .binary left sign (.constant (.number right))
    | _ => failure
  else return left

def keywordConstant : Reader Constant := do
  match ← peek with
  | .keyword "None" =>
    advance
    return .none
  | .keyword "True" =>
    advance
    return .bool true
  | .keyword "False" =>
    advance
    return .bool false
  | _ => failure

def atNumber : Reader Bool := do
  match ← peek with
  | .number _ => return true
  | .op "-" => return true
  | _ => return false

def atString : Reader Bool := do
  match ← peek with
  | .string _ => return true
  | _ => return false

def atNameEnd : Reader Bool := do
  return !((← atOp ".") || (← atOp "(") || (← atOp "="))

def captureName : Reader String := do
  require (!(← atWord "_"))
  let target ← name
  require (← atNameEnd)
  return target

def dottedValue : Reader Expr := do
  let first ← name
  let attrs ← many (op "." *> name)
  return attrs.foldl Expr.attribute (.name first)

def starPattern : Reader Pattern := do
  op "*"
  if ← atWord "_" then
    advance
    return .star none
  else return .star (some (← captureName))

def maybeStarPattern : Reader Pattern := do
  if ← atOp "*" then starPattern else rules .pattern

def isStarPattern : Pattern → Bool
  | .star _ => true
  | _ => false

def mappingKey : Reader Expr := do
  if ← atNumber then numberPattern
  else if ← atString then strings rules
  else
    match ← peek with
    | .name _ _ =>
      let value ← dottedValue
      match value with
      | .name _ => failure
      | _ => return value
    | _ => return .constant (← keywordConstant)

def mappingItem : Reader (Expr × Pattern) := do
  let key ← mappingKey rules
  op ":"
  return (key, ← rules .pattern)

def mappingPattern : Reader Pattern := do
  op "\x7b"
  let items ←
    if (← atOp "**") || (← atOp "\x7d") then pure []
    else commaSeparated (mappingItem rules)
  let comma ← if items.isEmpty then pure true else skipOp ","
  let rest ←
    if ← atOp "**" then do
      require comma
      op "**"
      let target ← captureName
      let _ ← skipOp ","
      pure (some target)
    else pure none
  op "\x7d"
  return .mapping (items.map Prod.fst) (items.map Prod.snd) rest

def classArgument : Reader (Option String × Pattern) := do
  if ← atNameThen "=" then
    let attr ← name
    op "="
    return (some attr, ← rules .pattern)
  else return (none, ← rules .pattern)

def attributesLast : List (Option String × Pattern) → Bool
  | [] => true
  | (none, _) :: rest => attributesLast rest
  | (some _, _) :: rest => rest.all (·.1.isSome)

def classPattern (callee : Expr) : Reader Pattern := do
  op "("
  if ← skipOp ")" then return .classOf callee [] [] []
  let (arguments, _) ← commaList (classArgument rules)
  op ")"
  require (attributesLast arguments)
  let byPosition := arguments.filter (·.1.isNone)
  let byAttribute := arguments.filter (·.1.isSome)
  return .classOf callee (byPosition.map Prod.snd) (byAttribute.filterMap Prod.fst)
    (byAttribute.map Prod.snd)

def roundPattern : Reader Pattern := do
  op "("
  if ← skipOp ")" then return .sequence []
  let (patterns, comma) ← commaList (maybeStarPattern rules)
  op ")"
  match patterns with
  | [pattern] =>
    if comma then return .sequence [pattern]
    require (!isStarPattern pattern)
    return pattern
  | _ => return .sequence patterns

def squarePattern : Reader Pattern := do
  op "["
  if ← skipOp "]" then return .sequence []
  let (patterns, _) ← commaList (maybeStarPattern rules)
  op "]"
  return .sequence patterns

def namePattern : Reader Pattern := do
  if ← atWord "_" then
    advance
    return .capture none none
  else
    let value ← dottedValue
    if ← atOp "(" then classPattern rules value
    else
      require (!(← atOp "="))
      match value with
      | .name target => return .capture none (some target)
      | _ => return .value value

def closedPattern : Reader Pattern := do
  if ← atNumber then return .value (← numberPattern)
  else if ← atString then return .value (← strings rules)
  else
    match ← peek with
    | .name _ _ => namePattern rules
    | .op "(" => roundPattern rules
    | .op "[" => squarePattern rules
    | .op "\x7b" => mappingPattern rules
    | _ => return .singleton (← keywordConstant)

def orPattern : Reader Pattern := do
  let first ← closedPattern rules
  let rest ← many (op "|" *> closedPattern rules)
  return if rest.isEmpty then first else .alternatives (first :: rest)

def pattern : Reader Pattern := do
  let found ← orPattern rules
  if ← skipKeyword "as" then return .capture (some found) (some (← captureName))
  else return found

def openPattern : Reader Pattern := do
  let (patterns, comma) ← commaList (maybeStarPattern rules)
  match patterns with
  | [found] =>
    if comma then return .sequence [found]
    require (!isStarPattern found)
    return found
  | _ => return .sequence patterns

end ErpLens.Source.Grammar
