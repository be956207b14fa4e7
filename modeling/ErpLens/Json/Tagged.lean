import ErpLens.Json.Write
import ErpLens.Value.Arithmetic

/-!
# Tagged JSON

What JSON has no form for is written as an object with a tag under `$t` and the content under `v`. A
plain JSON object is read as a record.
-/

namespace ErpLens.Json.Tagged

def ofEntries (entries : Entries) : Value :=
  let inner := (Value.findEntry (.str "v") entries).getD .null
  let items := match inner with
    | .list items => items
    | _ => []
  match Value.findEntry (.str "$t") entries with
  | some (.str "tuple") => .tuple items
  | some (.str "set") => .set (Value.distinct items)
  | some (.str "deque") => .deque items
  | some (.str "pairs") => .ofEntries (items.filterMap fun
      | .list [key, value] => some (key, value)
      | _ => none)
  | some (.str "date") => .date ((Calendar.Date.ofText? inner.text).getD default)
  | some (.str "datetime") => .moment ((Calendar.Moment.ofText? inner.text).getD default)
  | some (.str "obj") =>
    match inner with
    | .dict _ fields =>
      .object ((Value.findEntry (.str "class") entries).getD (.str "")).text
        (fields.map fun (key, value) => (key.text, value))
    | _ => .null
  | _ => .dict .record entries

mutual

def read : Value → Value
  | .list items => .list (readAll items)
  | .dict _ entries => ofEntries (readEntries entries)
  | other => other

def readAll : List Value → List Value
  | [] => []
  | item :: rest => read item :: readAll rest

def readEntries : Entries → Entries
  | [] => []
  | (key, value) :: rest => (key, read value) :: readEntries rest

end

def tagged (tag : String) (inner : Value) : Value :=
  .ofFields [("$t", .str tag), ("v", inner)]

def isText : Value → Bool
  | .str _ => true
  | _ => false

/-- How values are written: numbers that are not whole with so many significant digits if that is
asked for, and objects of the closed classes without their fields. -/
structure Style where
  digits : Option Nat := none
  closed : List String := []

def ofMembers (members : List Value) : Value :=
  let texts := members.map fun member => (spaced member, member)
  tagged "set" (.list ((texts.mergeSort fun a b => decide (a.1 ≤ b.1)).map Prod.snd))

mutual

def write (style : Style) : Value → Value
  | .float x => match style.digits with
    | some count => .str (Decimal.generalText count x)
    | none => .float x
  | .list items => .list (writeAll style items)
  | .tuple items => .list (writeAll style items)
  | .deque items => .list (writeAll style items)
  | .set members => ofMembers (writeAll style members)
  | .dict kind entries =>
    let written := writeEntries style entries
    if written.all fun entry => isText entry.1 then .dict kind written
    else tagged "pairs" (.list (written.map fun (key, value) => .list [key, value]))
  | .date value => tagged "date" (.str value.text)
  | .moment value => tagged "datetime" (.str (value.text "T"))
  | .object name fields => .ofFields [("$t", .str "obj"), ("class", .str name),
      ("v", .ofFields (if style.closed.contains name then [] else writeFields style fields))]
  | other => other

def writeAll (style : Style) : List Value → List Value
  | [] => []
  | item :: rest => write style item :: writeAll style rest

def writeEntries (style : Style) : Entries → Entries
  | [] => []
  | (key, value) :: rest => (write style key, write style value) :: writeEntries style rest

def writeFields (style : Style) : Fields → Fields
  | [] => []
  | (key, value) :: rest => (key, write style value) :: writeFields style rest

end

end ErpLens.Json.Tagged
