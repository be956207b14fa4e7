import ErpLens.Decimal.Shortest
import ErpLens.Source.Expr
import ErpLens.Source.Number
import ErpLens.Text.Quoted

/-!
# Printing expressions

Writes an expression in one standard form: one blank around operators and after commas, brackets
only where binding asks for them, strings in the form of `ErpLens.Text.Quoted`. A value is printed
for a level of binding; it gets brackets when the level is tighter than its own.

Two things cannot be written at all: a string in a replacement field that needs a backslash whatever
the quote, and an integer of too many digits.
-/

namespace ErpLens.Source

inductive PrintFault where
  | backslashInField
  | tooManyDigits
deriving Repr, DecidableEq

namespace PrintFault

def message : PrintFault → String
  | .backslashInField => "Unable to avoid backslash in f-string expression part"
  | .tooManyDigits =>
    s!"Exceeds the limit ({Number.maxDigits} digits) for integer string conversion; " ++
      "use sys.set_int_max_str_digits() to increase the limit"

end PrintFault

namespace Printer

/-! ## Levels of binding, loosest first -/

def namedLevel : Nat := 1
def tupleLevel : Nat := 2
def yieldLevel : Nat := 3
def testLevel : Nat := 4
def orLevel : Nat := 5
def andLevel : Nat := 6
def notLevel : Nat := 7
def compareLevel : Nat := 8
def exprLevel : Nat := 9
def factorLevel : Nat := 15
def powerLevel : Nat := 16
def awaitLevel : Nat := 17
def atomLevel : Nat := 18

def tighter (level : Nat) : Nat :=
  min (level + 1) atomLevel

def bracketed (own level : Nat) (text : String) : String :=
  if own < level then "(" ++ text ++ ")" else text

def commas (items : List String) : String :=
  ", ".intercalate items

def tupleItems : List String → String
  | [item] => item ++ ","
  | items => commas items

/-! ## Operators -/

def boolSign : BoolOp → String × Nat
  | .and => (" and ", andLevel)
  | .or => (" or ", orLevel)

def unarySign : UnaryOp → String × Nat
  | .invert => ("~", factorLevel)
  | .not => ("not ", notLevel)
  | .plus => ("+", factorLevel)
  | .minus => ("-", factorLevel)

def binarySign : BinaryOp → String × Nat
  | .add => (" + ", 13)
  | .sub => (" - ", 13)
  | .mul => (" * ", 14)
  | .matMul => (" @ ", 14)
  | .div => (" / ", 14)
  | .mod => (" % ", 14)
  | .shiftLeft => (" << ", 12)
  | .shiftRight => (" >> ", 12)
  | .bitOr => (" | ", exprLevel)
  | .bitXor => (" ^ ", 10)
  | .bitAnd => (" & ", 11)
  | .floorDiv => (" // ", 14)
  | .pow => (" ** ", powerLevel)

def compareSign : CompareOp → String
  | .equal => " == "
  | .notEqual => " != "
  | .less => " < "
  | .lessEqual => " <= "
  | .greater => " > "
  | .greaterEqual => " >= "
  | .is => " is "
  | .isNot => " is not "
  | .isIn => " in "
  | .notIn => " not in "

/-! ## Strings with few backslashes -/

def allQuotes : List String := ["'", "\"", "\"\"\"", "'''"]

/-- A code point that may stay as it is, or its escape. Line ends and tabs may stay unless asked
otherwise. -/
def literalCode (escapeLayout : Bool) (code : Nat) : String :=
  if !escapeLayout && (code == 10 || code == 9) then String.singleton (Char.ofNat code)
  else if code == 92 || !Text.isPrintableCode code then Text.escapeCode code
  else String.singleton (Char.ofNat code)

def occursIn (part : List Char) : List Char → Bool
  | [] => part.isEmpty
  | c :: rest => part.isPrefixOf (c :: rest) || occursIn part rest

/-- A string between quotes with as few backslashes as possible: the text, and the quotes that it
may stand between, the best first. If no quote fits, the text is escaped for the first quote that
starts like the standard one. -/
def literalBody (codes : List Nat) (quotes : List String) (escapeLayout : Bool) :
    String × List String :=
  let text := String.join (codes.map (literalCode escapeLayout))
  let chars := text.toList
  let fitting := quotes.filter fun quote =>
    (!chars.contains '\n' || 1 < quote.length) && !occursIn quote.toList chars
  match fitting with
  | [] =>
    let mark := Char.ofNat (Text.chooseQuote codes)
    let quote := (quotes.find? fun quote => quote.toList.contains mark).getD (String.singleton mark)
    (Text.quotedBody codes, [quote])
  | _ =>
    match chars.getLast? with
    | none => (text, fitting)
    | some last =>
      let clashes (quote : String) : Bool := quote.toList.head? == some last
      let sorted := fitting.filter (!clashes ·) ++ fitting.filter clashes
      if (sorted.head?.map clashes).getD false then
        (String.ofList (chars.dropLast ++ ['\\', last]), sorted)
      else (text, sorted)

def plainLiteral (codes : List Nat) : String :=
  let (body, quotes) := literalBody codes allQuotes false
  let quote := quotes.headD "'"
  quote ++ body ++ quote

/-- The parts of a formatted string written between quotes that suit all of them, `none` if there
are none. Each part says whether it is literal. -/
def joinParts : List String → List (List Nat × Bool) → Option (List String × List String)
  | quotes, [] => some ([], quotes)
  | quotes, (codes, isLiteral) :: rest =>
    let (body, fitting) := literalBody codes quotes isLiteral
    if fitting.all (!quotes.contains ·) then none
    else (joinParts fitting rest).map fun (bodies, last) => (body :: bodies, last)

def escapedPart (codes : List Nat) : String :=
  String.join (codes.map (Text.quotedCode 39))

def formattedLiteral (parts : List (List Nat × Bool)) : String :=
  match joinParts allQuotes parts with
  | some (bodies, quotes) =>
    let quote := quotes.headD "'"
    quote ++ String.join bodies ++ quote
  | none => "'''" ++ String.join (parts.map fun part => escapedPart part.1) ++ "'''"

def doubleBraces (codes : List Nat) : List Nat :=
  codes.flatMap fun code => if code == 0x7b || code == 0x7d then [code, code] else [code]

/-! ## Constants -/

def infinityText : String := "1e309"

def realText (value : Float) : String :=
  match Decimal.parts value with
  | .infinite _ => infinityText
  | _ => Decimal.text value

def imaginaryText (value : Float) : String :=
  let text := realText value
  let chars := text.toList
  let short := if chars.reverse.take 2 == ['0', '.'] then chars.dropLast.dropLast else chars
  String.ofList short ++ "j"

def constantText (avoid : Bool) : Constant → Except PrintFault String
  | .none => .ok "None"
  | .bool true => .ok "True"
  | .bool false => .ok "False"
  | .ellipsis => .ok "..."
  | .number (.integer value) =>
    let digits := Nat.toDigits 10 value
    if Number.maxDigits < digits.length then .error .tooManyDigits
    else .ok (String.ofList digits)
  | .number (.real value) => .ok (realText value)
  | .number (.imaginary value) => .ok (imaginaryText value)
  | .string codes isMarked =>
    let text := if avoid then plainLiteral codes else Text.quoteCodes codes
    .ok (if isMarked then "u" ++ text else text)
  | .bytes values => .ok (Text.quoteBytes values)

def isIntegerConstant : Expr → Bool
  | .constant (.number (.integer _)) => true
  | .constant (.bool _) => true
  | _ => false

/-! ## Parameters -/

def withDefault (param : String) : Option String → String
  | none => param
  | some default => param ++ "=" ++ default

def parameterList (posOnly positional : List String) (varArg : Option String)
    (keywordOnly : List String) (keywordDefaults : List (Option String))
    (keywordArg : Option String) (defaults : List String) : String :=
  let all := posOnly ++ positional
  let padded := List.replicate (all.length - defaults.length) none ++ defaults.map some
  let plain := all.zipWith withDefault padded
  let before := plain.take posOnly.length
  let slash := if posOnly.isEmpty then [] else ["/"]
  let star := if varArg.isSome || !keywordOnly.isEmpty then ["*" ++ varArg.getD ""] else []
  let named := keywordOnly.zipWith withDefault keywordDefaults
  let rest := (keywordArg.map ("**" ++ ·)).toList
  commas (before ++ slash ++ plain.drop posOnly.length ++ star ++ named ++ rest)

/-! ## Expressions -/

def conversionMark : Option Conversion → String
  | none => ""
  | some .str => "!s"
  | some .repr => "!r"
  | some .ascii => "!a"

def fieldText (value : String) (conversion : Option Conversion) (spec : Option (List Nat)) :
    Except PrintFault (List Nat) :=
  let chars := value.toList
  if chars.contains '\\' then .error .backslashInField
  else
    let gap := if chars.head? == some '\x7b' then " " else ""
    let lead := Text.codePoints ("\x7b" ++ gap ++ value ++ conversionMark conversion)
    .ok (lead ++ (spec.map (58 :: ·)).getD [] ++ [0x7d])

mutual

/-- Prints an expression for a level of binding. With `avoid`, strings avoid backslashes. -/
def print (avoid : Bool) (level : Nat) : Expr → Except PrintFault String
  | .boolOp op values => do
    let (sign, own) := boolSign op
    let parts ← printRising avoid (tighter own) values
    return bracketed own level (sign.intercalate parts)
  | .named target value => do
    let target ← print avoid atomLevel target
    let value ← print avoid atomLevel value
    return bracketed namedLevel level (target ++ " := " ++ value)
  | .binary left op right => do
    let (sign, own) := binarySign op
    let left ← print avoid (if op = .pow then tighter own else own) left
    let right ← print avoid (if op = .pow then own else tighter own) right
    return bracketed own level (left ++ sign ++ right)
  | .unary op operand => do
    let (sign, own) := unarySign op
    let operand ← print avoid own operand
    return bracketed own level (sign ++ operand)
  | .lambda params body => do
    let params ← printParams avoid params
    let body ← print avoid testLevel body
    let head := if params.isEmpty then "lambda" else "lambda " ++ params
    return bracketed testLevel level (head ++ ": " ++ body)
  | .conditional test body orelse => do
    let body ← print avoid (tighter testLevel) body
    let test ← print avoid (tighter testLevel) test
    let orelse ← print avoid testLevel orelse
    return bracketed testLevel level (body ++ " if " ++ test ++ " else " ++ orelse)
  | .dict items => do
    let items ← printItems avoid items
    return "\x7b" ++ commas items ++ "\x7d"
  | .set elements => do
    let elements ← printAll avoid elements
    return "\x7b" ++ commas elements ++ "\x7d"
  | .listComp element clauses => do
    let element ← print avoid testLevel element
    let clauses ← printClauses avoid clauses
    return "[" ++ element ++ clauses ++ "]"
  | .setComp element clauses => do
    let element ← print avoid testLevel element
    let clauses ← printClauses avoid clauses
    return "\x7b" ++ element ++ clauses ++ "\x7d"
  | .dictComp key value clauses => do
    let key ← print avoid testLevel key
    let value ← print avoid testLevel value
    let clauses ← printClauses avoid clauses
    return "\x7b" ++ key ++ ": " ++ value ++ clauses ++ "\x7d"
  | .generator element clauses => do
    let element ← print avoid testLevel element
    let clauses ← printClauses avoid clauses
    return "(" ++ element ++ clauses ++ ")"
  | .await value => do
    let value ← print avoid atomLevel value
    return bracketed awaitLevel level ("await " ++ value)
  | .yield none => return bracketed yieldLevel level "yield"
  | .yield (some value) => do
    let value ← print avoid atomLevel value
    return bracketed yieldLevel level ("yield " ++ value)
  | .yieldFrom value => do
    let value ← print avoid atomLevel value
    return bracketed yieldLevel level ("yield from " ++ value)
  | .compare left rest => do
    let left ← print avoid exprLevel left
    let rest ← printComparisons avoid rest
    return bracketed compareLevel level (left ++ rest)
  | .call callee args keywords _ => do
    let callee ← print avoid atomLevel callee
    let args ← printAll avoid args
    let keywords ← printKeywords avoid keywords
    return callee ++ "(" ++ commas (args ++ keywords) ++ ")"
  | .formatted value conversion spec => do
    let value ← print true (tighter testLevel) value
    let spec ← printSpec spec
    let field ← fieldText value conversion spec
    return "f" ++ formattedLiteral [(field, false)]
  | .joined values => do
    let parts ← printParts values
    if avoid then return "f" ++ plainLiteral (parts.flatMap Prod.fst)
    else return "f" ++ formattedLiteral parts
  | .constant value => constantText avoid value
  | .attribute value attr => do
    let text ← print avoid atomLevel value
    return text ++ (if isIntegerConstant value then " ." else ".") ++ attr
  | .subscript value (.tuple elements) => do
    let value ← print avoid atomLevel value
    let elements ← printAll avoid elements
    return value ++ "[" ++ (if elements.isEmpty then "()" else tupleItems elements) ++ "]"
  | .subscript value index => do
    let value ← print avoid atomLevel value
    let index ← print avoid testLevel index
    return value ++ "[" ++ index ++ "]"
  | .starred value => do
    let value ← print avoid exprLevel value
    return "*" ++ value
  | .name id => return id
  | .list elements => do
    let elements ← printAll avoid elements
    return "[" ++ commas elements ++ "]"
  | .tuple elements => do
    let texts ← printAll avoid elements
    if texts.isEmpty then return "()"
    else return bracketed tupleLevel level (tupleItems texts)
  | .slice lower upper step => do
    let lower ← printOption avoid "" lower
    let upper ← printOption avoid "" upper
    let step ← printOption avoid ":" step
    return lower ++ ":" ++ upper ++ step

def printAll (avoid : Bool) : List Expr → Except PrintFault (List String)
  | [] => return []
  | e :: rest => do
    let first ← print avoid testLevel e
    let more ← printAll avoid rest
    return first :: more

/-- Prints the operands of a chain of `and` or `or`, each for a tighter level than the one before.
-/
def printRising (avoid : Bool) (level : Nat) : List Expr → Except PrintFault (List String)
  | [] => return []
  | e :: rest => do
    let first ← print avoid level e
    let more ← printRising avoid (tighter level) rest
    return first :: more

def printOption (avoid : Bool) (lead : String) : Option Expr → Except PrintFault String
  | none => return ""
  | some e => do
    let text ← print avoid testLevel e
    return lead ++ text

def printOptions (avoid : Bool) : List (Option Expr) → Except PrintFault (List (Option String))
  | [] => return []
  | none :: rest => do
    let more ← printOptions avoid rest
    return none :: more
  | some e :: rest => do
    let first ← print avoid testLevel e
    let more ← printOptions avoid rest
    return some first :: more

def printItems (avoid : Bool) : List DictItem → Except PrintFault (List String)
  | [] => return []
  | .pair key value :: rest => do
    let key ← print avoid testLevel key
    let value ← print avoid testLevel value
    let more ← printItems avoid rest
    return (key ++ ": " ++ value) :: more
  | .unpack value :: rest => do
    let value ← print avoid exprLevel value
    let more ← printItems avoid rest
    return ("**" ++ value) :: more

def printComparisons (avoid : Bool) : List Comparison → Except PrintFault String
  | [] => return ""
  | .mk op right :: rest => do
    let right ← print avoid exprLevel right
    let more ← printComparisons avoid rest
    return compareSign op ++ right ++ more

def printKeywords (avoid : Bool) : List KeywordArg → Except PrintFault (List String)
  | [] => return []
  | .mk arg value :: rest => do
    let value ← print avoid testLevel value
    let more ← printKeywords avoid rest
    let lead := match arg with
      | none => "**"
      | some arg => arg ++ "="
    return (lead ++ value) :: more

def printClauses (avoid : Bool) : List Comprehension → Except PrintFault String
  | [] => return ""
  | .mk target iter conditions isAsync :: rest => do
    let target ← print avoid tupleLevel target
    let iter ← print avoid (tighter testLevel) iter
    let conditions ← printConditions avoid conditions
    let more ← printClauses avoid rest
    return (if isAsync then " async for " else " for ") ++ target ++ " in " ++ iter ++ conditions ++
      more

def printConditions (avoid : Bool) : List Expr → Except PrintFault String
  | [] => return ""
  | e :: rest => do
    let first ← print avoid (tighter testLevel) e
    let more ← printConditions avoid rest
    return " if " ++ first ++ more

def printParam (avoid : Bool) : Param → Except PrintFault String
  | .mk arg none => return arg
  | .mk arg (some note) => do
    let note ← print avoid testLevel note
    return arg ++ ": " ++ note

def printParamList (avoid : Bool) : List Param → Except PrintFault (List String)
  | [] => return []
  | param :: rest => do
    let first ← printParam avoid param
    let more ← printParamList avoid rest
    return first :: more

def printParamOption (avoid : Bool) : Option Param → Except PrintFault (Option String)
  | none => return none
  | some param => do
    let text ← printParam avoid param
    return some text

def printParams (avoid : Bool) : Params → Except PrintFault String
  | .mk posOnly positional varArg keywordOnly keywordDefaults keywordArg defaults => do
    let posOnly ← printParamList avoid posOnly
    let positional ← printParamList avoid positional
    let varArg ← printParamOption avoid varArg
    let keywordOnly ← printParamList avoid keywordOnly
    let keywordDefaults ← printOptions avoid keywordDefaults
    let keywordArg ← printParamOption avoid keywordArg
    let defaults ← printAll avoid defaults
    return parameterList posOnly positional varArg keywordOnly keywordDefaults keywordArg defaults

def printSpec : Option Expr → Except PrintFault (Option (List Nat))
  | some (.joined values) => do
    let parts ← printParts values
    return some (parts.flatMap Prod.fst)
  | _ => return none

def printParts : List Expr → Except PrintFault (List (List Nat × Bool))
  | [] => return []
  | .constant (.string codes _) :: rest => do
    let more ← printParts rest
    return (doubleBraces codes, true) :: more
  | .formatted value conversion spec :: rest => do
    let value ← print true (tighter testLevel) value
    let spec ← printSpec spec
    let field ← fieldText value conversion spec
    let more ← printParts rest
    return (field, false) :: more
  | _ :: rest => printParts rest

end

end Printer

def Expr.text (e : Expr) : Except PrintFault String :=
  Printer.print false Printer.testLevel e

end ErpLens.Source
