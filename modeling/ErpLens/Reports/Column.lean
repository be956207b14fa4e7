import ErpLens.Text.Case
import ErpLens.Value.Access

/-!
# Columns

A column has a label, the field of a row that it shows and the kind of its cells. It is described by
a record, or in brief by one text with label, kind and width between colons.
-/

namespace ErpLens.Reports

inductive Cell where
  | untyped
  | data
  | dataOfNone
  | lowerData
  | text
  | smallText
  | number
  | numberIn (field : String)
  | whole
  | percent
  | check
  | date
  | moment
  | time
  | duration
  | amount
  | amountIn (field : String)
  | link (document : String)
  | linkBy (field : String)
deriving Repr, DecidableEq

namespace Cell

def kind? : Cell → Option String
  | untyped => none
  | data | dataOfNone => some "Data"
  | lowerData => some "data"
  | text => some "Text"
  | smallText => some "Small Text"
  | number | numberIn _ => some "Float"
  | whole => some "Int"
  | percent => some "Percent"
  | check => some "Check"
  | date => some "Date"
  | moment => some "Datetime"
  | time => some "Time"
  | duration => some "Duration"
  | amount | amountIn _ => some "Currency"
  | link _ => some "Link"
  | linkBy _ => some "Dynamic Link"

def companyAmount : Cell := .amountIn "Company:company:default_currency"

/-- An amount in the currency of its own row. -/
def ownAmount : Cell := .amountIn "currency"

def options? : Cell → Option String
  | dataOfNone => some ""
  | numberIn field | amountIn field | linkBy field => some field
  | link document => some document
  | _ => none

end Cell

/-- The description of a column. A width of zero is none. -/
structure Column where
  name : String
  label : String
  cell : Cell
  width : Nat := 0
  hidden : Bool := false
  convertible : Option String := none
  /-- What the filters of the report say about the column, in place of what stands here. -/
  given : Fields := []

inductive Form where
  | full
  | textWidths
  | brief
deriving Repr, DecidableEq

namespace Column

def of (name label : String) (cell : Cell) (width : Nat := 0) : Column :=
  { name, label, cell, width }

def labelOf (name : String) : String :=
  " ".intercalate ((name.splitOn "_").map fun word =>
    match word.toList with
    | [] => ""
    | first :: rest => String.ofList (first.toUpper :: rest))

def titled (name : String) (cell : Cell) (width : Nat := 0) : Column :=
  .of name (labelOf name) cell width

def data (name : String) (width : Nat := 0) : Column := .titled name .data width

def number (name : String) (width : Nat := 0) : Column := .titled name .number width

def date (name : String) (width : Nat := 0) : Column := .titled name .date width

def amount (name : String) (width : Nat := 0) : Column := .titled name .amount width

def link (name document : String) (width : Nat := 0) : Column :=
  .titled name (.link document) width

def linkBy (name field : String) (width : Nat := 0) : Column := .titled name (.linkBy field) width

def ofKind (name document : String) (width : Nat := 0) : Column :=
  .of name document (.link document) width

def document (name : String) (width : Nat := 0) : Column :=
  .ofKind name (labelOf name) width

def item (width : Nat := 0) : Column := .link "item_code" "Item" width

def voucher (width : Nat := 0) : Column := .linkBy "voucher_no" "voucher_type" width

def untyped (label : String) (width : Nat := 0) : Column := .of "" label .untyped width

def hide (column : Column) : Column := { column with hidden := true }

def quantity (name label : String) (width : Nat) : Column :=
  { name, label, cell := .number, width, convertible := some "qty" }

def rate (name label : String) (width : Nat) : Column :=
  { name, label, cell := .companyAmount, width, convertible := some "rate" }

def told (given : Fields) (column : Column) : Column :=
  { column with given := column.given ++ given }

def entry? (key : String) (text : Option String) : Fields :=
  text.toList.map fun text => (key, .str text)

def record (column : Column) (width : Nat → Value) : Value :=
  let entries := [("fieldname", .str column.name), ("label", .str column.label)] ++
    entry? "fieldtype" column.cell.kind? ++ entry? "options" column.cell.options? ++
    (if column.width == 0 then [] else [("width", width column.width)]) ++
    (if column.hidden then [("hidden", .int 1)] else []) ++
    entry? "convertible" column.convertible
  .ofFields (column.given.foldl (fun entries (key, value) => Value.putField key value entries) entries)

def brief (column : Column) : String :=
  let options := (column.cell.options?.map ("/" ++ ·)).getD ""
  column.label ++ ":" ++ column.cell.kind?.getD "" ++ options ++ ":" ++ toString column.width

def toValue (column : Column) : Form → Value
  | .full => column.record Value.nat
  | .textWidths => column.record fun width => .str (toString width)
  | .brief => .str column.brief

end Column

structure Report where
  title : String
  form : Form
  columns : Value → Outcome (List Column)

namespace Report

def fixed (title : String) (columns : List Column) (form : Form := .full) : Report :=
  { title, form, columns := fun _ => .ok columns }

def filtered (title : String) (columns : Value → Outcome (List Column))
    (form : Form := .full) : Report :=
  { title, form, columns }

def describe (report : Report) (filters : Value) : Outcome Value := do
  return .list ((← report.columns filters).map (Column.toValue · report.form))

end Report

/-- A title as it stands in addresses: in lower case, with `_` for blanks and hyphens. -/
def addressOf (title : String) : String :=
  String.ofList (title.toLower.toList.map fun c => if c == ' ' || c == '-' then '_' else c)

end ErpLens.Reports
