import ErpLens.Decimal.Shortest
import ErpLens.Text.Quoted
import ErpLens.Value.Number

/-!
# Values as text

`text` is how a value is shown by itself, `literal` how it is shown inside another value: texts are
quoted there.
-/

namespace ErpLens.Value

def boolText (value : Bool) : String :=
  if value then "True" else "False"

mutual

def literal : Value → String
  | .null => "None"
  | .bool value => boolText value
  | .int value => toString value
  | .float value => Decimal.text value
  | .str value => Text.quote value
  | .list items => "[" ++ ", ".intercalate (literals items) ++ "]"
  | .tuple [item] => "(" ++ literal item ++ ",)"
  | .tuple items => "(" ++ ", ".intercalate (literals items) ++ ")"
  | .set [] => "set()"
  | .set members => "\x7b" ++ ", ".intercalate (literals members) ++ "\x7d"
  | .deque items => "deque([" ++ ", ".intercalate (literals items) ++ "])"
  | .dict _ entries => "\x7b" ++ ", ".intercalate (entryLiterals entries) ++ "\x7d"
  | .date value => s!"datetime.date({value.year}, {value.month}, {value.day})"
  | .moment value =>
    let date := value.date
    let base := s!"datetime.datetime({date.year}, {date.month}, {date.day}, {value.hour}, " ++
      s!"{value.minute}"
    let fraction := value.micros % 1000000
    if fraction != 0 then s!"{base}, {value.second}, {fraction})"
    else if value.second != 0 then s!"{base}, {value.second})"
    else base ++ ")"
  | .object name fields => name ++ "(" ++ ", ".intercalate (fieldLiterals fields) ++ ")"

def literals : List Value → List String
  | [] => []
  | item :: rest => literal item :: literals rest

def entryLiterals : Entries → List String
  | [] => []
  | (key, value) :: rest => (literal key ++ ": " ++ literal value) :: entryLiterals rest

def fieldLiterals : Fields → List String
  | [] => []
  | (key, value) :: rest => (key ++ "=" ++ literal value) :: fieldLiterals rest

end

def text : Value → String
  | .str value => value
  | .date value => value.text
  | .moment value => value.text " "
  | value => value.literal

end ErpLens.Value

namespace ErpLens.Fault

/-- What is printed of a fault. Of a source without a syntax tree only a mark is: how the parser
words its complaint differs from one of its versions to the next. -/
def message : Fault → String
  | .missingKey key => key.literal
  | .missingField text | .wrongType text | .badValue text | .outOfRange text
  | .divisionByZero text | .unassigned text | .failed text | .malformedJson text
  | .malformedText text => text
  | .exhausted => ""
  | .endless => "maximum recursion depth exceeded"
  | .malformedTable =>
    "new-line character seen in unquoted field - do you need to open the file in universal-newline " ++
      "mode?"
  | .noSuchFile path => "[Errno 2] No such file or directory: " ++ Text.quote path
  | .isDirectory path => "[Errno 21] Is a directory: " ++ Text.quote path
  | .notDirectory path => "[Errno 20] Not a directory: " ++ Text.quote path
  | .malformedSource true => "source code string cannot contain null bytes"
  | .malformedSource false => "<SyntaxError>"
  | .exit code => toString code

end ErpLens.Fault
