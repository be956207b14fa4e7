import ErpLens.Calendar.Date

/-!
# Values

The kind of a value is known only when it arrives: rows may lack fields, amounts may be whole or
not. A dictionary keeps its entries in the order in which their keys came; a record is a dictionary
whose entries can also be read as fields.
-/

namespace ErpLens

open Calendar

inductive DictKind where
  | plain
  /-- The entries with text keys can be read and set as fields. -/
  | record
deriving Repr, DecidableEq

inductive Value where
  | null
  | bool (value : Bool)
  | int (value : Int)
  | float (value : Float)
  | str (value : String)
  | list (items : List Value)
  | tuple (items : List Value)
  | set (members : List Value)
  | deque (items : List Value)
  | dict (kind : DictKind) (entries : List (Value × Value))
  | date (value : Date)
  | moment (value : Moment)
  | object (class_ : String) (fields : List (String × Value))

instance : Inhabited Value := ⟨.null⟩

/-- What can go wrong. Texts are those that reports show. -/
inductive Fault where
  | missingKey (key : Value)
  | missingField (message : String)
  | wrongType (message : String)
  | badValue (message : String)
  | outOfRange (message : String)
  | divisionByZero (message : String)
  | exhausted
  /-- A search along references that never ends. -/
  | endless
  | unassigned (message : String)
  | failed (message : String)
  | noSuchFile (path : String)
  | isDirectory (path : String)
  | notDirectory (path : String)
  /-- A source has no syntax tree; with `null`, because it holds a NUL character. -/
  | malformedSource (null : Bool)
  | malformedJson (message : String)
  | malformedTable
  | malformedText (message : String)
  | exit (code : Nat)

instance : Inhabited Fault := ⟨.exhausted⟩

abbrev Outcome : Type → Type := Except Fault

abbrev Fields := List (String × Value)

abbrev Entries := List (Value × Value)

namespace Value

def kindName : Value → String
  | .null => "NoneType"
  | .bool _ => "bool"
  | .int _ => "int"
  | .float _ => "float"
  | .str _ => "str"
  | .list _ => "list"
  | .tuple _ => "tuple"
  | .set _ => "set"
  | .deque _ => "collections.deque"
  | .dict _ _ => "dict"
  | .date _ => "datetime.date"
  | .moment _ => "datetime.datetime"
  | .object name _ => name

def truth : Value → Bool
  | .null => false
  | .bool value => value
  | .int value => value != 0
  | .float value => !(value == 0)
  | .str value => !value.isEmpty
  | .list items => !items.isEmpty
  | .tuple items => !items.isEmpty
  | .set members => !members.isEmpty
  | .deque items => !items.isEmpty
  | .dict _ entries => !entries.isEmpty
  | .date _ => true
  | .moment _ => true
  | .object _ _ => true

def ofFields (fields : Fields) : Value :=
  .dict .plain (fields.map fun (key, value) => (.str key, value))

def ofRecord (fields : Fields) : Value :=
  .dict .record (fields.map fun (key, value) => (.str key, value))

def nat (value : Nat) : Value := .int value

def strs (values : List String) : Value := .list (values.map .str)

def optStr : Option String → Value
  | none => .null
  | some text => .str text

end Value

end ErpLens
