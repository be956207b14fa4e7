import ErpLens.Value.Access

/-!
# Columns and colours of reports

Texts in columns of a fixed width: texts stand at the left, numbers at the right. Terminal reports
are coloured with control codes.
-/

namespace ErpLens.Report

def blanks (count : Nat) : String :=
  String.ofList (List.replicate count ' ')

def padRight (width : Nat) (text : String) : String :=
  text ++ blanks (width - text.length)

def padLeft (width : Nat) (text : String) : String :=
  blanks (width - text.length) ++ text

def center (width : Nat) (text : String) : String :=
  let gap := width - text.length
  blanks (gap / 2) ++ text ++ blanks (gap - gap / 2)

def column (width : Nat) : Value → Outcome String
  | .str text => .ok (padRight width text)
  | .int value => .ok (padLeft width (toString value))
  | .bool value => .ok (padLeft width (if value then "1" else "0"))
  | .float value => .ok (padLeft width (Value.text (.float value)))
  | value =>
    .error (.wrongType s!"unsupported format string passed to {value.kindName}.__format__")

def barLimit : Int := 20

def barUnit : Int := 5

def bar (count : Value) : Outcome String :=
  match count.num? with
  | none =>
    .error (.wrongType s!"unsupported operand type(s) for //: '{count.kindName}' and 'int'")
  | some number =>
    match number.floorDiv? (.int barUnit) with
    | some (.int marks) => .ok (String.ofList (List.replicate (min marks barLimit).toNat '█'))
    | some marks =>
      if Num.lt (.int barLimit) marks then .ok (String.ofList (List.replicate barLimit.toNat '█'))
      else .error (.wrongType "can't multiply sequence by non-int of type 'float'")
    | none => .error (.divisionByZero "integer division or modulo by zero")

/-! ## Colours -/

inductive Color where
  | red | green | yellow | blue | magenta | cyan | white | lightGreen
deriving Repr, DecidableEq

def Color.number : Color → Nat
  | red => 31
  | green => 32
  | yellow => 33
  | blue => 34
  | magenta => 35
  | cyan => 36
  | white => 37
  | lightGreen => 92

def Color.code (color : Color) : String :=
  s!"\x1b[{color.number}m"

def bright : String := "\x1b[1m"

def plain : String := "\x1b[0m"

def Color.paint (color : Color) (text : String) : String :=
  color.code ++ text

end ErpLens.Report
