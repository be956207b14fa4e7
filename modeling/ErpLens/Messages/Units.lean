import ErpLens.Json.Read
import ErpLens.Messages.Table
import ErpLens.Text.Encoding

/-!
# Units of translation

What has to be translated in the data files of the application: titles of incoterms in a table, the
lines of a list, and names of units of measure in a JSON file.
-/

namespace ErpLens.Messages

structure Unit_ where
  line : Option Nat
  message : Value
  comments : List String

def Unit_.toValue (unit : Unit_) : Value :=
  .tuple [(unit.line.map Value.nat).getD .null, .str "_", unit.message, .strs unit.comments]

def undecodable : Fault :=
  .malformedText "'utf-8' codec can't decode bytes"

def textOf (bytes : List UInt8) : Outcome String :=
  match Text.decodeUtf8? bytes with
  | some text => .ok text
  | none => .error undecodable

def numberRecords : Nat → List Value → List Unit_
  | _, [] => []
  | line, message :: rest =>
    { line := some line, message, comments := ["Title of an incoterm"] } ::
      numberRecords (line + 1) rest

def titleIn (header row : List String) : Outcome Value :=
  match fieldNamed "title" header row with
  | some title => .ok (.optStr title)
  | none => .error (.missingKey (.str "title"))

def incoterms (bytes : List UInt8) : Outcome (List Unit_) := do
  let text ← textOf bytes
  let found := records text
  let titles ← match found.records with
    | [] => pure []
    | header :: rows => (rows.filter fun row => !row.isEmpty).mapM (titleIn header)
  if found.broken then throw .malformedTable
  return numberRecords 2 titles

def numberLines : Nat → List (List UInt8) → Outcome (List Unit_)
  | _, [] => .ok []
  | line, bytes :: rest => do
    let text ← textOf bytes
    let more ← numberLines (line + 1) rest
    return { line := some line, message := .str (Text.trimmed text), comments := [] } :: more

def listedLines (bytes : List UInt8) : Outcome (List Unit_) :=
  numberLines 1 (Text.cutAfter (· == 10) bytes)

def measureUnit (data : Value) : Outcome Unit_ := do
  return { line := none, message := ← data.get "uom_name", comments := ["Name of a UOM"] }

def measures (bytes : List UInt8) : Outcome (List Unit_) := do
  let text ← match Text.decodeAs? (Text.detectEncoding bytes) bytes with
    | some text => pure text
    | none => throw undecodable
  match ← Json.load text with
  | .list items => items.mapM measureUnit
  | _ => return []

end ErpLens.Messages
