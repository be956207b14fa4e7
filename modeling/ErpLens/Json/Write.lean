import ErpLens.Decimal.Shortest
import ErpLens.Text.Quoted
import ErpLens.Value.Basic

/-!
# Writing JSON

The laid-out form has two blanks of indentation for each level, every item on a line of its own and
nothing inside an empty list or object; the compact form is one line. Both hold ASCII characters
only.
-/

namespace ErpLens.Json

def unitEscape (unit : Nat) : String :=
  "\\u" ++ Text.hexDigits 4 unit

/-- A character inside a JSON string. Characters beyond sixteen bits are written as two units. -/
def charText (c : Char) : String :=
  let code := c.toNat
  if c == '"' then "\\\""
  else if c == '\\' then "\\\\"
  else if c == '\n' then "\\n"
  else if c == '\r' then "\\r"
  else if c == '\t' then "\\t"
  else if code == 12 then "\\f"
  else if code == 8 then "\\b"
  else if 32 ≤ code && code < 127 then String.singleton c
  else if code < 0x10000 then unitEscape code
  else
    let high := 0xd800 + (code - 0x10000) / 0x400
    let low := 0xdc00 + (code - 0x10000) % 0x400
    unitEscape high ++ unitEscape low

def stringText (text : String) : String :=
  "\"" ++ String.join (text.toList.map charText) ++ "\""

def floatText (value : Float) : String :=
  match Decimal.parts value with
  | .undefined => "NaN"
  | .infinite negative => if negative then "-Infinity" else "Infinity"
  | .finite _ => Decimal.text value

def keyText : Value → String
  | .str text => stringText text
  | .bool value => if value then "\"true\"" else "\"false\""
  | .null => "\"null\""
  | .int value => stringText (toString value)
  | .float value => stringText (floatText value)
  | _ => "\"\""

def lineBreak (level : Nat) : String :=
  "\n" ++ String.ofList (List.replicate (2 * level) ' ')

def layItems (opening closing : String) (level : Nat) (items : List String) : String :=
  if items.isEmpty then opening ++ closing
  else
    opening ++ lineBreak (level + 1) ++ ("," ++ lineBreak (level + 1)).intercalate items ++
      lineBreak level ++ closing

mutual

def layOut (level : Nat) : Value → String
  | .null => "null"
  | .bool value => if value then "true" else "false"
  | .int value => toString value
  | .float value => floatText value
  | .str text => stringText text
  | .list items => layItems "[" "]" level (layOutAll (level + 1) items)
  | .tuple items => layItems "[" "]" level (layOutAll (level + 1) items)
  | .set members => layItems "[" "]" level (layOutAll (level + 1) members)
  | .deque items => layItems "[" "]" level (layOutAll (level + 1) items)
  | .dict _ entries => layItems "\x7b" "\x7d" level (layOutEntries (level + 1) entries)
  | .date value => stringText value.text
  | .moment value => stringText (value.text "T")
  | .object _ fields => layItems "\x7b" "\x7d" level (layOutFields (level + 1) fields)

def layOutAll (level : Nat) : List Value → List String
  | [] => []
  | item :: rest => layOut level item :: layOutAll level rest

def layOutEntries (level : Nat) : Entries → List String
  | [] => []
  | (key, value) :: rest =>
    (keyText key ++ ": " ++ layOut level value) :: layOutEntries level rest

def layOutFields (level : Nat) : Fields → List String
  | [] => []
  | (key, value) :: rest =>
    (stringText key ++ ": " ++ layOut level value) :: layOutFields level rest

end

def pretty (value : Value) : String :=
  layOut 0 value

mutual

def compact : Value → String
  | .null => "null"
  | .bool value => if value then "true" else "false"
  | .int value => toString value
  | .float value => floatText value
  | .str text => stringText text
  | .list items => "[" ++ ",".intercalate (compactAll items) ++ "]"
  | .tuple items => "[" ++ ",".intercalate (compactAll items) ++ "]"
  | .set members => "[" ++ ",".intercalate (compactAll members) ++ "]"
  | .deque items => "[" ++ ",".intercalate (compactAll items) ++ "]"
  | .dict _ entries => "\x7b" ++ ",".intercalate (compactEntries entries) ++ "\x7d"
  | .date value => stringText value.text
  | .moment value => stringText (value.text "T")
  | .object _ fields => "\x7b" ++ ",".intercalate (compactFields fields) ++ "\x7d"

def compactAll : List Value → List String
  | [] => []
  | item :: rest => compact item :: compactAll rest

def compactEntries : Entries → List String
  | [] => []
  | (key, value) :: rest => (keyText key ++ ":" ++ compact value) :: compactEntries rest

def compactFields : Fields → List String
  | [] => []
  | (key, value) :: rest => (stringText key ++ ":" ++ compact value) :: compactFields rest

end

mutual

def spaced : Value → String
  | .list items => "[" ++ ", ".intercalate (spacedAll items) ++ "]"
  | .tuple items => "[" ++ ", ".intercalate (spacedAll items) ++ "]"
  | .dict _ entries => "\x7b" ++ ", ".intercalate (spacedEntries entries) ++ "\x7d"
  | value => compact value

def spacedAll : List Value → List String
  | [] => []
  | item :: rest => spaced item :: spacedAll rest

def spacedEntries : Entries → List String
  | [] => []
  | (key, value) :: rest => (keyText key ++ ": " ++ spaced value) :: spacedEntries rest

end

end ErpLens.Json
