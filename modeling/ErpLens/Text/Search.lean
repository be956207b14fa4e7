/-!
# Finding parts of a text

Occurrences of one text in another, from left to right and without overlap.
-/

namespace ErpLens.Text

def occursIn (part : List Char) : List Char → Bool
  | [] => part.isEmpty
  | c :: rest => part.isPrefixOf (c :: rest) || occursIn part rest

def contains (text part : String) : Bool :=
  occursIn part.toList text.toList

def startsWith (text part : String) : Bool :=
  part.toList.isPrefixOf text.toList

def endsWith (text part : String) : Bool :=
  part.toList.isSuffixOf text.toList

/-- The pieces between the occurrences of `separator`, which is not empty. `skip` counts the
characters of an occurrence that are still to be passed over. -/
def splitOnFrom (separator : List Char) : Nat → List Char → List (List Char)
  | _, [] => [[]]
  | skip + 1, _ :: rest => splitOnFrom separator skip rest
  | 0, c :: rest =>
    if separator.isPrefixOf (c :: rest) then
      [] :: splitOnFrom separator (separator.length - 1) rest
    else
      match splitOnFrom separator 0 rest with
      | [] => [[c]]
      | piece :: pieces => (c :: piece) :: pieces

def splitOn (separator text : String) : List String :=
  if separator.isEmpty then [text]
  else (splitOnFrom separator.toList 0 text.toList).map String.ofList

def replaceAll (old new text : String) : String :=
  if old.isEmpty then text else new.intercalate (splitOn old text)

def take (count : Nat) (text : String) : String :=
  String.ofList (text.toList.take count)

end ErpLens.Text
