import ErpLens.Source.Lexer
import ErpLens.Source.Literal
import ErpLens.Source.Reader

/-!
# Grammar of expressions

One function for each level of binding, from the loosest (conditional, lambda) to the tightest
(atoms with their trailers). Where a phrase nests, it is read through the given rules.
-/

namespace ErpLens.Source.Grammar

open Reader

variable (rules : Rules)

/-! ## Targets -/

mutual

/-- Whether an expression can be assigned to. A starred target is not itself starred. -/
def isTarget : Expr → Bool
  | .name _ | .attribute _ _ | .subscript _ _ => true
  | .starred value => isPlainTarget value
  | .tuple elements | .list elements => areTargets elements
  | _ => false

def isPlainTarget : Expr → Bool
  | .name _ | .attribute _ _ | .subscript _ _ => true
  | .tuple elements | .list elements => areTargets elements
  | _ => false

def areTargets : List Expr → Bool
  | [] => true
  | e :: rest => isTarget e && areTargets rest

end

def isSingleTarget : Expr → Bool
  | .name _ | .attribute _ _ | .subscript _ _ => true
  | _ => false

mutual

def isDeletable : Expr → Bool
  | .name _ | .attribute _ _ | .subscript _ _ => true
  | .tuple elements | .list elements => areDeletable elements
  | _ => false

def areDeletable : List Expr → Bool
  | [] => true
  | e :: rest => isDeletable e && areDeletable rest

end

def starTarget : Reader Expr := do
  let starred ← skipOp "*"
  let value ← rules .primary
  let target := if starred then Expr.starred value else value
  require (isTarget target)
  return target

def starTargets : Reader Expr := do
  let (targets, comma) ← commaList (starTarget rules)
  match targets with
  | [target] => return if comma then .tuple [target] else target
  | _ => return .tuple targets

/-! ## Elements of displays and arguments -/

def namedExpression : Reader Expr := do
  if ← atNameThen ":=" then
    let target ← name
    op ":="
    return .named (.name target) (← rules .expression)
  else
    let value ← rules .expression
    require (!(← atOp ":="))
    return value

def starExpression : Reader Expr := do
  if ← skipOp "*" then return .starred (← rules .bitOr)
  else rules .expression

def starNamedExpression : Reader Expr := do
  if ← skipOp "*" then return .starred (← rules .bitOr)
  else namedExpression rules

def starExpressions : Reader Expr := do
  let (values, comma) ← commaList (starExpression rules)
  match values with
  | [value] => return if comma then .tuple [value] else value
  | _ => return .tuple values

def yieldExpression : Reader Expr := do
  keyword "yield"
  if ← skipKeyword "from" then return .yieldFrom (← rules .expression)
  else return .yield (← maybe (starExpressions rules))

def isStarred : Expr → Bool
  | .starred _ => true
  | _ => false

def comprehension : Reader Comprehension := do
  let isAsync ← skipKeyword "async"
  keyword "for"
  let target ← starTargets rules
  keyword "in"
  let iter ← rules .disjunction
  let conditions ← many (keyword "if" *> rules .disjunction)
  return .mk target iter conditions isAsync

def atClause : Reader Bool := do
  return (← atKeyword "for") || (← atKeyword "async")

/-! ## Parameters -/

def afterParam (close : String) : Reader Unit := do
  if ← skipOp "," then return else require (← atOp close)

def paramNote (annotated : Bool) : Reader (Option Expr) := do
  if annotated then
    if ← skipOp ":" then return some (← rules .expression)
  return none

def paramEntry (annotated : Bool) (close : String) : Reader (Param × Option Expr) := do
  let arg ← name
  let note ← paramNote rules annotated
  let default ← if ← skipOp "=" then some <$> rules .expression else pure none
  afterParam close
  return (.mk arg note, default)

def defaultsInOrder : List (Option Expr) → Bool
  | [] => true
  | none :: rest => defaultsInOrder rest
  | some _ :: rest => rest.all Option.isSome

/-- The parameter that takes the remaining positional arguments. Its annotation may be starred. -/
def varParam (annotated : Bool) (close : String) : Reader Param := do
  let arg ← name
  let note ←
    if annotated then
      if ← skipOp ":" then some <$> starExpression rules else pure none
    else pure none
  afterParam close
  return .mk arg note

/-- What follows a star: the parameter for the remaining arguments or a comma, and the parameters
that are given by name. -/
def starParams (annotated : Bool) (close : String) :
    Reader (Option Param × List (Param × Option Expr)) := do
  op "*"
  if ← skipOp "," then
    return (none, ← many1 (paramEntry rules annotated close))
  else
    let rest ← varParam rules annotated close
    return (some rest, ← many (paramEntry rules annotated close))

def parameters (annotated : Bool) (close : String) : Reader Params := do
  let before ← many (paramEntry rules annotated close)
  let slash ← if before.isEmpty then pure false else skipOp "/"
  if slash then afterParam close
  let after ← if slash then many (paramEntry rules annotated close) else pure []
  require (defaultsInOrder ((before ++ after).map Prod.snd))
  let (varArg, keywordOnly) ←
    if ← atOp "*" then starParams rules annotated close else pure (none, [])
  let keywordArg ←
    if ← skipOp "**" then do
      let arg ← name
      let note ← paramNote rules annotated
      afterParam close
      pure (some (Param.mk arg note))
    else pure none
  require (← atOp close)
  let posOnly := if slash then before.map Prod.fst else []
  let positional := if slash then after.map Prod.fst else before.map Prod.fst
  return .mk posOnly positional varArg (keywordOnly.map Prod.fst) (keywordOnly.map Prod.snd)
    keywordArg ((before ++ after).filterMap Prod.snd)

def lambda : Reader Expr := do
  keyword "lambda"
  let params ← parameters rules false ":"
  op ":"
  return .lambda params (← rules .expression)

/-! ## Calls and items -/

inductive Argument where
  | positional (value : Expr)
  | starred (value : Expr)
  | byName (arg : KeywordArg)
  | mapping (arg : KeywordArg)

def argument : Reader Argument := do
  if ← skipOp "*" then return .starred (.starred (← rules .expression))
  else if ← skipOp "**" then return .mapping (.mk none (← rules .expression))
  else if ← atNameThen "=" then
    let arg ← name
    op "="
    return .byName (.mk (some arg) (← rules .expression))
  else
    let value ← namedExpression rules
    require (!(← atOp "="))
    return .positional value

def argumentsInOrder : List Argument → (seenNamed seenMapping : Bool) → Bool
  | [], _, _ => true
  | .positional _ :: rest, named, mapping =>
    !named && !mapping && argumentsInOrder rest named mapping
  | .starred _ :: rest, named, mapping => !mapping && argumentsInOrder rest named mapping
  | .byName _ :: rest, _, mapping => argumentsInOrder rest true mapping
  | .mapping _ :: rest, named, _ => argumentsInOrder rest named true

def Argument.value? : Argument → Option Expr
  | .positional value | .starred value => some value
  | _ => none

def Argument.keyword? : Argument → Option KeywordArg
  | .byName arg | .mapping arg => some arg
  | _ => none

def argumentsTail (first : Argument) : Reader (List Expr × List KeywordArg) := do
  let others ← many (op "," *> argument rules)
  let _ ← skipOp ","
  op ")"
  let arguments := first :: others
  require (argumentsInOrder arguments false false)
  return (arguments.filterMap Argument.value?, arguments.filterMap Argument.keyword?)

def baseArguments : Reader (List Expr × List KeywordArg) := do
  if ← skipOp ")" then return ([], [])
  argumentsTail rules (← argument rules)

def callArguments : Reader (List Expr × List KeywordArg) := do
  if ← skipOp ")" then return ([], [])
  let first ← argument rules
  match first with
  | .positional element =>
    if ← atClause then
      let clauses ← many1 (comprehension rules)
      op ")"
      return ([.generator element clauses], [])
    else argumentsTail rules first
  | _ => argumentsTail rules first

def atBoundEnd : Reader Bool := do
  return (← atOp ":") || (← atOp ",") || (← atOp "]")

def bound : Reader (Option Expr) := do
  if ← atBoundEnd then return none else return some (← rules .expression)

def sliceTail (lower : Option Expr) : Reader Expr := do
  let upper ← bound rules
  let step ← if ← skipOp ":" then bound rules else pure none
  return .slice lower upper step

def sliceItem : Reader Expr := do
  if ← skipOp "*" then return .starred (← rules .expression)
  else if ← skipOp ":" then sliceTail rules none
  else if ← atNameThen ":=" then namedExpression rules
  else
    let value ← namedExpression rules
    if ← skipOp ":" then sliceTail rules (some value) else return value

/-- The index of a subscript: one item, or several that make a tuple. A starred one alone makes a
tuple too. -/
def subscriptIndex : Reader Expr := do
  let (items, comma) ← commaList (sliceItem rules)
  op "]"
  match items with
  | [item] => return if comma || isStarred item then .tuple [item] else item
  | _ => return .tuple items

def trailer (line : Nat) : Reader (Expr → Expr) := do
  if ← skipOp "." then
    let attr ← name
    return fun value => .attribute value attr
  else if ← skipOp "(" then
    let (args, keywords) ← callArguments rules
    return fun value => .call value args keywords line
  else
    op "["
    let index ← subscriptIndex rules
    return fun value => .subscript value index

/-! ## Strings -/

/-- The expression of a replacement field. It is read between round brackets, so that it may hold
line ends. -/
def fieldExpression (source : List Char) (line : Nat) : Option Expr :=
  match Lexer.tokenize line ('(' :: source ++ [')']) with
  | none => none
  | some tokens => ((rules .expression) (.ofTokens line tokens)).map Prod.fst

mutual

def pieceExpression : Literal.Piece → Option Expr
  | .text codes => some (.constant (.string codes false))
  | .field source line conversion none =>
    (fieldExpression rules source line).map fun value => .formatted value conversion none
  | .field source line conversion (some spec) =>
    (fieldExpression rules source line).bind fun value =>
      (pieceExpressions spec).map fun parts =>
        .formatted value conversion (some (.joined parts))

def pieceExpressions : List Literal.Piece → Option (List Expr)
  | [] => some []
  | piece :: rest =>
    (pieceExpression piece).bind fun first =>
      (pieceExpressions rest).map fun more => first :: more

end

def literalPieces (literal : StringLiteral) (line : Nat) : Option (List Literal.Piece) :=
  if literal.isFormatted then Literal.formatPieces literal.isRaw line literal.body
  else (Literal.codes literal.isRaw false literal.body).map fun codes => [.text codes]

def literalBytes (literal : StringLiteral) : Option (List Nat) :=
  if literal.body.all (·.toNat < 128) then Literal.codes literal.isRaw true literal.body else none

def pieceCodes : List Literal.Piece → List Nat
  | .text codes :: rest => codes ++ pieceCodes rest
  | _ :: rest => pieceCodes rest
  | [] => []

/-- The value of string literals that stand next to each other. Bytes and texts do not mix. -/
def joinLiterals (literals : List (StringLiteral × Nat)) : Option Expr :=
  if literals.all (·.1.isBytes) then do
    let parts ← literals.mapM fun entry => literalBytes entry.1
    return .constant (.bytes parts.flatten)
  else if literals.any (·.1.isBytes) then none
  else do
    let parts ← literals.mapM fun entry => literalPieces entry.1 entry.2
    if literals.any (·.1.isFormatted) then
      return .joined (← pieceExpressions rules (Literal.mergePieces parts.flatten))
    else
      let isMarked := (literals.head?.map (·.1.isMarked)).getD false
      return .constant (.string (pieceCodes parts.flatten) isMarked)

def stringLiteral : Reader (StringLiteral × Nat) := do
  let line ← nextLine
  match ← peek with
  | .string literal =>
    advance
    return (literal, line)
  | _ => failure

def strings : Reader Expr := do
  match joinLiterals rules (← many1 stringLiteral) with
  | some value => return value
  | none => failure

/-! ## Atoms -/

def roundDisplay : Reader Expr := do
  op "("
  if ← skipOp ")" then return .tuple []
  else if ← atKeyword "yield" then
    let value ← yieldExpression rules
    op ")"
    return value
  else
    let first ← starNamedExpression rules
    if ← atClause then
      require (!isStarred first)
      let clauses ← many1 (comprehension rules)
      op ")"
      return .generator first clauses
    else if ← skipOp "," then
      if ← skipOp ")" then return .tuple [first]
      let (others, _) ← commaList (starNamedExpression rules)
      op ")"
      return .tuple (first :: others)
    else
      op ")"
      require (!isStarred first)
      return first

def squareDisplay : Reader Expr := do
  op "["
  if ← skipOp "]" then return .list []
  else
    let first ← starNamedExpression rules
    if ← atClause then
      require (!isStarred first)
      let clauses ← many1 (comprehension rules)
      op "]"
      return .listComp first clauses
    else
      let others ← many (op "," *> starNamedExpression rules)
      let _ ← skipOp ","
      op "]"
      return .list (first :: others)

def dictItem : Reader DictItem := do
  if ← skipOp "**" then return .unpack (← rules .bitOr)
  else
    let key ← rules .expression
    op ":"
    return .pair key (← rules .expression)

def dictTail (first : DictItem) : Reader Expr := do
  let others ← many (op "," *> dictItem rules)
  let _ ← skipOp ","
  op "\x7d"
  return .dict (first :: others)

def setTail (first : Expr) : Reader Expr := do
  if ← atClause then
    require (!isStarred first)
    let clauses ← many1 (comprehension rules)
    op "\x7d"
    return .setComp first clauses
  else
    let others ← many (op "," *> starNamedExpression rules)
    let _ ← skipOp ","
    op "\x7d"
    return .set (first :: others)

def braceDisplay : Reader Expr := do
  op "\x7b"
  if ← skipOp "\x7d" then return .dict []
  else if ← atOp "**" then dictTail rules (← dictItem rules)
  else if (← atOp "*") || (← atNameThen ":=") then
    setTail rules (← starNamedExpression rules)
  else
    let first ← namedExpression rules
    if ← skipOp ":" then
      let value ← rules .expression
      if ← atClause then
        let clauses ← many1 (comprehension rules)
        op "\x7d"
        return .dictComp first value clauses
      else dictTail rules (.pair first value)
    else setTail rules first

def atom : Reader Expr := do
  match ← peek with
  | .name text _ =>
    advance
    return .name text
  | .keyword "None" =>
    advance
    return .constant .none
  | .keyword "True" =>
    advance
    return .constant (.bool true)
  | .keyword "False" =>
    advance
    return .constant (.bool false)
  | .number value =>
    advance
    return .constant (.number value)
  | .string _ => strings rules
  | .op "(" => roundDisplay rules
  | .op "[" => squareDisplay rules
  | .op "\x7b" => braceDisplay rules
  | .op "..." =>
    advance
    return .constant .ellipsis
  | _ => failure

/-! ## Operators -/

def primary : Reader Expr := do
  let line ← nextLine
  let first ← atom rules
  let trailers ← many (trailer rules line)
  return trailers.foldl (fun value apply => apply value) first

def awaitPrimary : Reader Expr := do
  if ← skipKeyword "await" then return .await (← primary rules)
  else primary rules

def power : Reader Expr := do
  let base ← awaitPrimary rules
  if ← skipOp "**" then return .binary base .pow (← rules .factor)
  else return base

def factor : Reader Expr := do
  if ← skipOp "+" then return .unary .plus (← rules .factor)
  else if ← skipOp "-" then return .unary .minus (← rules .factor)
  else if ← skipOp "~" then return .unary .invert (← rules .factor)
  else power rules

def binaryOp (signs : List (String × BinaryOp)) : Reader BinaryOp := do
  match ← peek with
  | .op text =>
    match signs.find? fun entry => entry.1 == text with
    | some (_, found) =>
      advance
      return found
    | none => failure
  | _ => failure

def leftChain (operand : Reader Expr) (signs : List (String × BinaryOp)) : Reader Expr := do
  let first ← operand
  let rest ← many do
    let sign ← binaryOp signs
    return (sign, ← operand)
  return rest.foldl (fun left step => .binary left step.1 step.2) first

def term : Reader Expr :=
  leftChain (factor rules)
    [("*", .mul), ("/", .div), ("//", .floorDiv), ("%", .mod), ("@", .matMul)]

def sum : Reader Expr :=
  leftChain (term rules) [("+", .add), ("-", .sub)]

def shift : Reader Expr :=
  leftChain (sum rules) [("<<", .shiftLeft), (">>", .shiftRight)]

def bitAnd : Reader Expr :=
  leftChain (shift rules) [("&", .bitAnd)]

def bitXor : Reader Expr :=
  leftChain (bitAnd rules) [("^", .bitXor)]

def bitOr : Reader Expr :=
  leftChain (bitXor rules) [("|", .bitOr)]

def compareOp : Reader CompareOp := do
  match ← peek with
  | .op "==" =>
    advance
    return .equal
  | .op "!=" =>
    advance
    return .notEqual
  | .op "<" =>
    advance
    return .less
  | .op "<=" =>
    advance
    return .lessEqual
  | .op ">" =>
    advance
    return .greater
  | .op ">=" =>
    advance
    return .greaterEqual
  | .keyword "in" =>
    advance
    return .isIn
  | .keyword "not" =>
    advance
    keyword "in"
    return .notIn
  | .keyword "is" =>
    advance
    return if ← skipKeyword "not" then .isNot else .is
  | _ => failure

def comparison : Reader Expr := do
  let left ← bitOr rules
  let rest ← many do
    let sign ← compareOp
    return Comparison.mk sign (← bitOr rules)
  return if rest.isEmpty then left else .compare left rest

def inversion : Reader Expr := do
  if ← skipKeyword "not" then return .unary .not (← rules .inversion)
  else comparison rules

def conjunction : Reader Expr := do
  let first ← inversion rules
  let rest ← many (keyword "and" *> inversion rules)
  return if rest.isEmpty then first else .boolOp .and (first :: rest)

def disjunction : Reader Expr := do
  let first ← conjunction rules
  let rest ← many (keyword "or" *> conjunction rules)
  return if rest.isEmpty then first else .boolOp .or (first :: rest)

def expression : Reader Expr := do
  if ← atKeyword "lambda" then lambda rules
  else
    let body ← disjunction rules
    if ← skipKeyword "if" then
      let test ← disjunction rules
      keyword "else"
      return .conditional test body (← rules .expression)
    else return body

end ErpLens.Source.Grammar
