import ErpLens.Text.Lines

/-!
# Tables with comma-separated fields

A record is a line; a field between quotes can hold commas, line ends and, written twice, quotes.
Line ends are `\n`, `\r` or both; a `\r` inside a line without quotes has to be followed by the end
of the line.
-/

namespace ErpLens.Messages

inductive FieldState where
  | startRecord
  | startField
  | inField
  | inQuotes
  | afterQuote
  | lineEnd
deriving Repr, DecidableEq

/-- A field holds no more characters than this. -/
def fieldLimit : Nat :=
  131072

/-- A record in the making: its fields, last first, and the characters of the field being read,
last first, with their number. -/
structure RecordReader where
  state : FieldState := .startRecord
  fields : List String := []
  field : List Char := []
  size : Nat := 0
deriving Repr, DecidableEq

namespace RecordReader

def saveField (reader : RecordReader) (state : FieldState) : RecordReader where
  state
  fields := String.ofList reader.field.reverse :: reader.fields
  field := []

def addChar (reader : RecordReader) (c : Char) (state : FieldState) : Option RecordReader :=
  if reader.size < fieldLimit then
    some { reader with state, field := c :: reader.field, size := reader.size + 1 }
  else none

def isLineEnd (c : Char) : Bool :=
  c == '\n' || c == '\r'

def stepField (reader : RecordReader) (c : Char) : Option RecordReader :=
  if isLineEnd c then some (reader.saveField .lineEnd)
  else if c == '"' then some { reader with state := .inQuotes }
  else if c == ',' then some (reader.saveField .startField)
  else reader.addChar c .inField

/-- Takes one character; none if a line goes on after its end or a field gets too long. -/
def step (reader : RecordReader) (c : Char) : Option RecordReader :=
  match reader.state with
  | .startRecord =>
    if isLineEnd c then some { reader with state := .lineEnd } else reader.stepField c
  | .startField => reader.stepField c
  | .inField =>
    if isLineEnd c then some (reader.saveField .lineEnd)
    else if c == ',' then some (reader.saveField .startField)
    else reader.addChar c .inField
  | .inQuotes =>
    if c == '"' then some { reader with state := .afterQuote } else reader.addChar c .inQuotes
  | .afterQuote =>
    if c == '"' then reader.addChar c .inQuotes
    else if c == ',' then some (reader.saveField .startField)
    else if isLineEnd c then some (reader.saveField .lineEnd)
    else reader.addChar c .inField
  | .lineEnd => if isLineEnd c then some reader else none

def endLine (reader : RecordReader) : RecordReader :=
  match reader.state with
  | .startRecord => reader
  | .startField | .inField | .afterQuote => reader.saveField .startRecord
  | .inQuotes => reader
  | .lineEnd => { reader with state := .startRecord }

def line (reader : RecordReader) (chars : List Char) : Option RecordReader :=
  (chars.foldlM step reader).map endLine

end RecordReader

structure Records where
  records : List (List String)
  broken : Bool := false
deriving Repr, DecidableEq

def Records.cons (record : List String) (found : Records) : Records :=
  { found with records := record :: found.records }

/-- The records of lines. An empty line is a record without fields; a record that is still open at
the end counts. -/
def recordsFrom (reader : RecordReader) : List (List Char) → Records
  | [] =>
    if !reader.field.isEmpty || reader.state == .inQuotes then
      { records := [(reader.saveField .startRecord).fields.reverse] }
    else { records := [] }
  | line :: rest =>
    match reader.line line with
    | none => { records := [], broken := true }
    | some reader =>
      if reader.state == .startRecord then (recordsFrom {} rest).cons reader.fields.reverse
      else recordsFrom reader rest

def records (text : String) : Records :=
  recordsFrom {} (Text.cutAfter (· == '\n') text.toList)

/-- The value of the field that has a name in the header. A name that stands there twice means the
last one, and a record that is too short has nothing there. The outer `none` says that the header
does not hold the name. -/
def fieldNamed (name : String) : List String → List String → Option (Option String)
  | [], _ => none
  | key :: keys, [] =>
    (fieldNamed name keys []).orElse fun _ => if key == name then some none else none
  | key :: keys, value :: values =>
    (fieldNamed name keys values).orElse fun _ =>
      if key == name then some (some value) else none

end ErpLens.Messages
