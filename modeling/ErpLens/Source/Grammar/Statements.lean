import ErpLens.Source.Grammar.Patterns

/-!
# Grammar of statements
-/

namespace ErpLens.Source.Grammar

open Reader

variable (rules : Rules)

/-! ## Simple statements -/

def assignedValue : Reader Expr := do
  if ← atKeyword "yield" then yieldExpression rules else starExpressions rules

def augmentedSigns : List (String × BinaryOp) :=
  [("+=", .add), ("-=", .sub), ("*=", .mul), ("@=", .matMul), ("/=", .div), ("%=", .mod),
    ("&=", .bitAnd), ("|=", .bitOr), ("^=", .bitXor), ("<<=", .shiftLeft), (">>=", .shiftRight),
    ("**=", .pow), ("//=", .floorDiv)]

def assignmentTail (first : Expr) : Reader Stmt := do
  let values ← many1 (op "=" *> assignedValue rules)
  let targets := first :: values.dropLast
  require (targets.all isTarget)
  match values.getLast? with
  | some value => return .assign targets value
  | none => failure

def expressionStatement : Reader Stmt := do
  let first ← assignedValue rules
  if ← atOp "=" then assignmentTail rules first
  else if ← skipOp ":" then
    require (isSingleTarget first)
    let note ← rules .expression
    let value ← if ← skipOp "=" then some <$> assignedValue rules else pure none
    return .annAssign first note value
  else
    match ← maybe (binaryOp augmentedSigns) with
    | some sign =>
      require (isSingleTarget first)
      return .augAssign first sign (← assignedValue rules)
    | none => return .expr first

def deleteStatement : Reader Stmt := do
  keyword "del"
  let (targets, _) ← commaList (rules .primary)
  require (areDeletable targets)
  return .delete targets

def raiseStatement : Reader Stmt := do
  keyword "raise"
  match ← maybe (rules .expression) with
  | none => return .raise none none
  | some exc =>
    let cause ← if ← skipKeyword "from" then some <$> rules .expression else pure none
    return .raise (some exc) cause

def assertStatement : Reader Stmt := do
  keyword "assert"
  let test ← rules .expression
  let message ← if ← skipOp "," then some <$> rules .expression else pure none
  return .assertion test message

def dottedName : Reader String := do
  let first ← name
  let rest ← many (op "." *> name)
  return ".".intercalate (first :: rest)

def asName : Reader (Option String) := do
  if ← skipKeyword "as" then return some (← name) else return none

def importStatement : Reader Stmt := do
  let line ← nextLine
  keyword "import"
  let names ← commaSeparated do
    let imported ← dottedName
    return (⟨imported, ← asName⟩ : Alias)
  return .importModules names line

def importedName : Reader Alias := do
  let imported ← name
  return ⟨imported, ← asName⟩

def importedNames : Reader (List Alias) := do
  if ← skipOp "*" then return [⟨"*", none⟩]
  else if ← skipOp "(" then
    let (names, _) ← commaList importedName
    op ")"
    return names
  else
    let names ← commaSeparated importedName
    require (!(← atOp ","))
    return names

def leadingDots : Reader Unit := do
  if ← skipOp "." then return else op "..."

def fromStatement : Reader Stmt := do
  let line ← nextLine
  keyword "from"
  let dots ← many leadingDots
  let module ← if ← atKeyword "import" then pure none else some <$> dottedName
  require (module.isSome || !dots.isEmpty)
  keyword "import"
  return .importNames module (← importedNames) line

def simpleStatement : Reader Stmt := do
  match ← peek with
  | .keyword "return" =>
    advance
    return .ret (← maybe (starExpressions rules))
  | .keyword "import" => importStatement
  | .keyword "from" => fromStatement
  | .keyword "raise" => raiseStatement rules
  | .keyword "pass" =>
    advance
    return .pass
  | .keyword "del" => deleteStatement rules
  | .keyword "assert" => assertStatement rules
  | .keyword "break" =>
    advance
    return .breakLoop
  | .keyword "continue" =>
    advance
    return .continueLoop
  | .keyword "global" =>
    advance
    return .globals (← commaSeparated name)
  | .keyword "nonlocal" =>
    advance
    return .nonlocals (← commaSeparated name)
  | _ => expressionStatement rules

def simpleStatements : Reader (List Stmt) := do
  let first ← simpleStatement rules
  let rest ← many (op ";" *> simpleStatement rules)
  let _ ← skipOp ";"
  newline
  return first :: rest

/-! ## Compound statements -/

def suite : Reader (List Stmt) := do
  op ":"
  rules .block

def optionalSuite (word : String) : Reader (List Stmt) := do
  if ← skipKeyword word then suite rules else return []

def ifStatement : Reader Stmt := do
  keyword "if"
  let test ← namedExpression rules
  let body ← suite rules
  let others ← many do
    keyword "elif"
    let test ← namedExpression rules
    return (test, ← suite rules)
  let orelse ← optionalSuite rules "else"
  return .branch test body
    (others.foldr (fun clause rest => [.branch clause.1 clause.2 rest]) orelse)

def whileStatement : Reader Stmt := do
  keyword "while"
  let test ← namedExpression rules
  let body ← suite rules
  return .whileLoop test body (← optionalSuite rules "else")

def forStatement (isAsync : Bool) : Reader Stmt := do
  keyword "for"
  let target ← starTargets rules
  keyword "in"
  let iter ← starExpressions rules
  let body ← suite rules
  return .forLoop target iter body (← optionalSuite rules "else") isAsync

def withItem : Reader WithItem := do
  let context ← rules .expression
  if ← skipKeyword "as" then
    let target ← starTarget rules
    require ((← atOp ",") || (← atOp ")") || (← atOp ":"))
    return ⟨context, some target⟩
  else return ⟨context, none⟩

def bracketedItems : Reader (List WithItem) := do
  op "("
  let (items, _) ← commaList (withItem rules)
  op ")"
  require (← atOp ":")
  return items

def withStatement (isAsync : Bool) : Reader Stmt := do
  keyword "with"
  let items ← bracketedItems rules <|> commaSeparated (withItem rules)
  return .withBlock items (← suite rules) isAsync

/-- A handler after its `except`. With `isGroup` a star follows, and a type is needed. -/
def handler (isGroup : Bool) : Reader ExceptHandler := do
  let line ← nextLine
  keyword "except"
  if isGroup then op "*"
  if !isGroup && (← atOp ":") then return .mk none none (← suite rules) line
  let type ← rules .expression
  let target ← if ← skipKeyword "as" then some <$> name else pure none
  return .mk (some type) target (← suite rules) line

def tryStatement : Reader Stmt := do
  keyword "try"
  let body ← suite rules
  let plain ← many (handler rules false)
  let handlers ← if plain.isEmpty then many (handler rules true) else pure plain
  let orelse ← if handlers.isEmpty then pure [] else optionalSuite rules "else"
  let final ← optionalSuite rules "finally"
  require (!handlers.isEmpty || !final.isEmpty)
  return .tryBlock body handlers orelse final

def functionDefinition (decorators : List Expr) : Reader Stmt := do
  let line ← nextLine
  let isAsync ← skipKeyword "async"
  keyword "def"
  let defined ← name
  op "("
  let params ← parameters rules true ")"
  op ")"
  let returns ← if ← skipOp "->" then some <$> rules .expression else pure none
  let body ← suite rules
  let endLine ← lastLine
  return .functionDef ⟨defined, params, decorators, returns, isAsync, line, endLine⟩ body

def classDefinition (decorators : List Expr) : Reader Stmt := do
  let line ← nextLine
  keyword "class"
  let defined ← name
  let (bases, keywords) ← if ← skipOp "(" then baseArguments rules else pure ([], [])
  let body ← suite rules
  return .classDef ⟨defined, bases, keywords, decorators, line⟩ body

def decorator : Reader Expr := do
  op "@"
  let value ← namedExpression rules
  newline
  return value

def decoratedDefinition : Reader Stmt := do
  let decorators ← many1 (decorator rules)
  if ← atKeyword "class" then classDefinition rules decorators
  else functionDefinition rules decorators

def asyncStatement : Reader Stmt := do
  match ← peekSecond with
  | .keyword "def" => functionDefinition rules []
  | .keyword "with" =>
    advance
    withStatement rules true
  | _ =>
    advance
    forStatement rules true

def caseBlock : Reader MatchCase := do
  require (← atWord "case")
  advance
  let found ← openPattern rules
  let guard ← if ← skipKeyword "if" then some <$> namedExpression rules else pure none
  return .mk found guard (← suite rules)

def matchSubject : Reader Expr := do
  let (values, comma) ← commaList (starNamedExpression rules)
  match values with
  | [value] =>
    if comma then return .tuple [value]
    require (!isStarred value)
    return value
  | _ => return .tuple values

def matchStatement : Reader Stmt := do
  require (← atWord "match")
  advance
  let subject ← matchSubject rules
  op ":"
  newline
  indent
  let cases ← many1 (caseBlock rules)
  dedent
  return .matchBlock subject cases

def compoundStatement : Reader Stmt := do
  match ← peek with
  | .keyword "if" => ifStatement rules
  | .keyword "while" => whileStatement rules
  | .keyword "for" => forStatement rules false
  | .keyword "with" => withStatement rules false
  | .keyword "try" => tryStatement rules
  | .keyword "def" => functionDefinition rules []
  | .keyword "class" => classDefinition rules []
  | .keyword "async" => asyncStatement rules
  | .op "@" => decoratedDefinition rules
  | _ => matchStatement rules

def statement : Reader (List Stmt) :=
  (do return [← compoundStatement rules]) <|> simpleStatements rules

def block : Reader (List Stmt) := do
  match ← peek with
  | .newline =>
    newline
    indent
    let body ← many1 (statement rules)
    dedent
    return body.flatten
  | _ => simpleStatements rules

end ErpLens.Source.Grammar
