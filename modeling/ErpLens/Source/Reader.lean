import ErpLens.Source.Stmt

/-!
# Reading tokens

Functions read from the front of a sequence of tokens and either fail or give a value and the tokens
left.

The grammar refers to itself only through `Rule`: the rules are tied together at the end by a depth
that bounds how far phrases nest (`ErpLens.Source.Grammar.run`).
-/

namespace ErpLens.Source

/-- The tokens left, how many they are, and the line on which the last written token ended. -/
structure Stream where
  rest : List Token
  left : Nat
  lastLine : Nat

def Stream.ofTokens (line : Nat) (tokens : List Token) : Stream := ⟨tokens, tokens.length, line⟩

abbrev Reader := StateT Stream Option

inductive Rule where
  | expression | disjunction | inversion | bitOr | factor | primary | pattern | block

abbrev Rule.Result : Rule → Type
  | .pattern => Pattern
  | .block => List Stmt
  | _ => Expr

abbrev Rules := (rule : Rule) → Reader rule.Result

namespace Reader

def peek : Reader Lexeme := fun stream =>
  match stream.rest with
  | token :: _ => some (token.lexeme, stream)
  | [] => some (.finish, stream)

def peekSecond : Reader Lexeme := fun stream =>
  match stream.rest with
  | _ :: token :: _ => some (token.lexeme, stream)
  | _ => some (.finish, stream)

def nextLine : Reader Nat := fun stream =>
  match stream.rest with
  | token :: _ => some (token.line, stream)
  | [] => some (stream.lastLine, stream)

def lastLine : Reader Nat := fun stream => some (stream.lastLine, stream)

def advance : Reader Unit := fun stream =>
  match stream.rest with
  | token :: rest =>
    let lastLine := if token.lexeme.isLayout then stream.lastLine else token.endLine
    some ((), ⟨rest, stream.left - 1, lastLine⟩)
  | [] => none

def Lexeme.isOp (sign : String) : Lexeme → Bool
  | .op text => text == sign
  | _ => false

def Lexeme.isKeyword (word : String) : Lexeme → Bool
  | .keyword text => text == word
  | _ => false

def atOp (sign : String) : Reader Bool := do
  return Lexeme.isOp sign (← peek)

def atKeyword (word : String) : Reader Bool := do
  return Lexeme.isKeyword word (← peek)

def skipOp (sign : String) : Reader Bool := do
  if ← atOp sign then
    advance
    return true
  else return false

def skipKeyword (word : String) : Reader Bool := do
  if ← atKeyword word then
    advance
    return true
  else return false

def op (sign : String) : Reader Unit := do
  if ← skipOp sign then return else failure

def keyword (word : String) : Reader Unit := do
  if ← skipKeyword word then return else failure

def name : Reader String := do
  match ← peek with
  | .name text _ =>
    advance
    return text
  | _ => failure

def atWord (word : String) : Reader Bool := do
  match ← peek with
  | .name text verbatim => return verbatim && text == word
  | _ => return false

def atNameThen (sign : String) : Reader Bool := do
  match ← peek with
  | .name _ _ => return Lexeme.isOp sign (← peekSecond)
  | _ => return false

def newline : Reader Unit := do
  match ← peek with
  | .newline => advance
  | _ => failure

def indent : Reader Unit := do
  match ← peek with
  | .indent => advance
  | _ => failure

def dedent : Reader Unit := do
  match ← peek with
  | .dedent => advance
  | _ => failure

def require (condition : Bool) : Reader Unit :=
  if condition then return else failure

def maybe {α : Type} (item : Reader α) : Reader (Option α) :=
  (some <$> item) <|> pure none

/-- Reads items as long as there are any. Each must take a token. -/
def manyFrom {α : Type} (item : Reader α) (stream : Stream) (found : Array α) :
    Array α × Stream :=
  match item stream with
  | none => (found, stream)
  | some (value, next) =>
    if next.left < stream.left then manyFrom item next (found.push value)
    else (found, stream)
termination_by stream.left

def many {α : Type} (item : Reader α) : Reader (List α) := fun stream =>
  let (found, next) := manyFrom item stream #[]
  some (found.toList, next)

def many1 {α : Type} (item : Reader α) : Reader (List α) := do
  let first ← item
  return first :: (← many item)

def commaSeparated {α : Type} (item : Reader α) : Reader (List α) := do
  let first ← item
  return first :: (← many (op "," *> item))

/-- Reads items with commas between them, and says whether any comma was written: a last one
counts. -/
def commaList {α : Type} (item : Reader α) : Reader (List α × Bool) := do
  let items ← commaSeparated item
  let last ← skipOp ","
  return (items, last || 1 < items.length)

end Reader

end ErpLens.Source
