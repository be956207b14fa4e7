/-!
# Sets of characters

A set of characters is written as sorted ranges of code points in hexadecimal, `41-5a 5f 61-7a`, and
asked by binary search.
-/

namespace ErpLens.Text

def hexValue? (c : Char) : Option Nat :=
  if '0' ≤ c ∧ c ≤ '9' then some (c.toNat - 48)
  else if 'a' ≤ c ∧ c ≤ 'f' then some (c.toNat - 87)
  else if 'A' ≤ c ∧ c ≤ 'F' then some (c.toNat - 55)
  else none

def hexBytes : List Char → List UInt8
  | a :: b :: rest =>
    UInt8.ofNat ((hexValue? a).getD 0 * 16 + (hexValue? b).getD 0) :: hexBytes rest
  | _ => []

/-- The number that a word of hexadecimal digits stands for; other characters count as zero. -/
def readHex (word : List Char) : Nat :=
  word.foldl (fun value c => value * 16 + (hexValue? c).getD 0) 0

def tableEntries (text : String) : List String :=
  ((text.toList.splitOnP fun c => c == ' ' || c == '\n').filter (! ·.isEmpty)).map String.ofList

structure CodeRange where
  first : Nat
  last : Nat
deriving Repr, DecidableEq, Inhabited

namespace CodeRange

def Contains (range : CodeRange) (code : Nat) : Prop :=
  range.first ≤ code ∧ code ≤ range.last

def ofWord (word : List Char) : CodeRange :=
  let first := word.takeWhile (· != '-')
  let last := (word.dropWhile (· != '-')).drop 1
  ⟨readHex first, if last.isEmpty then readHex first else readHex last⟩

end CodeRange

structure CharSet where
  ranges : Array CodeRange

namespace CharSet

def ofText (text : String) : CharSet :=
  ⟨((tableEntries text).map fun word => CodeRange.ofWord word.toList).toArray⟩

def search (ranges : Array CodeRange) (code low high : Nat) : Bool :=
  if _below : low < high then
    let middle := (low + high) / 2
    match ranges[middle]? with
    | none => false
    | some range =>
      if code < range.first then search ranges code low middle
      else if range.last < code then search ranges code (middle + 1) high
      else true
  else false
termination_by high - low
decreasing_by all_goals omega

def containsCode (set : CharSet) (code : Nat) : Bool :=
  search set.ranges code 0 set.ranges.size

def contains (set : CharSet) (c : Char) : Bool :=
  set.containsCode c.toNat

end CharSet

end ErpLens.Text
