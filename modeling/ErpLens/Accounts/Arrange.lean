import ErpLens.Accounts.BinaryInsertion
import ErpLens.Text.Digit
import ErpLens.Value.Arithmetic

/-!
# Arranging accounts

Accounts are listed as a tree, every account after its parent and before the next account of the
same parent, down to a depth. Accounts of one parent are sorted by name; root accounts as assets,
liabilities, equity, income and expenses, unless they are numbered.
-/

namespace ErpLens.Accounts

structure SortKey where
  key : String
  reportType : Value
  rootType : Value

namespace SortKey

def isNumbered (account : SortKey) : Bool :=
  Text.isNumeral (Text.firstWord account.key)

def rootBelow (a b : SortKey) : Bool :=
  (a.reportType != b.reportType && a.reportType == .str "Balance Sheet") ||
    (a.rootType != b.rootType && a.rootType == .str "Asset") ||
    (a.rootType == .str "Liability" && b.rootType == .str "Equity") ||
    (a.rootType == .str "Income" && b.rootType == .str "Expense")

def compareKeys (a b : SortKey) : Int :=
  (decide (b.key < a.key)).toInt - (decide (a.key < b.key)).toInt

/-- Negative if `a` comes before `b`. The first account alone chooses the rule, and two root
accounts are never equal: of two with the same types, each comes after the other. -/
def compare (isRoot : Bool) (a b : SortKey) : Int :=
  if a.isNumbered then compareKeys a b
  else if isRoot then if rootBelow a b then -1 else 1
  else compareKeys a b

def below (isRoot : Bool) (a b : SortKey) : Bool :=
  compare isRoot a b < 0

end SortKey

structure Account where
  position : Nat
  name : Option String
  /-- The name of the parent account; root accounts have none. -/
  parent : Option String
  sortKey : SortKey

def sortAccounts (isRoot : Bool) (accounts : List Account) : List Account :=
  sortBelow (fun a b => a.sortKey.below isRoot b.sortKey) accounts

abbrev Families := List (Option String × List Account)

namespace Families

def add (parent : Option String) (child : Account) : Families → Families
  | [] => [(parent, [child])]
  | (key, children) :: rest =>
    if key = parent then (key, children ++ [child]) :: rest
    else (key, children) :: add parent child rest

def ofAccounts (accounts : List Account) : Families :=
  accounts.foldl (fun families account => add account.parent account families) []

def children (families : Families) (parent : Option String) : List Account :=
  (families.lookup parent).getD []

def setChildren (parent : Option String) (children : List Account) : Families → Families
  | [] => []
  | (key, old) :: rest =>
    if key = parent then (key, children) :: rest else (key, old) :: setChildren parent children rest

end Families

structure Arrangement where
  families : Families
  listed : List (Account × Nat) := []

def Arrangement.addBelow (parent : Option String) (level : Nat) :
    Nat → Arrangement → Arrangement
  | 0, arrangement => arrangement
  | depth + 1, arrangement =>
    let children := sortAccounts parent.isNone (arrangement.families.children parent)
    let start := { arrangement with
      families := arrangement.families.setChildren parent children }
    children.foldl (fun arrangement child =>
      addBelow child.name (level + 1) depth
        { arrangement with listed := arrangement.listed ++ [(child, level)] }) start

def arrange (depth : Nat) (accounts : List Account) : Arrangement :=
  Arrangement.addBelow none 0 depth { families := .ofAccounts accounts }

/-! ## Rows of accounts -/

def textOf? (value : Value) : Option String :=
  match value with
  | .str "" | .null => none
  | .str text => some text
  | other => if other.truth then some other.text else none

def sortKeyOf (key row : Value) : Outcome SortKey := do
  let name ← match ← row.item key with
    | .str name => pure name
    | _ => throw (.wrongType "expected string or bytes-like object")
  return ⟨name, row.fieldOr "report_type" .null, row.fieldOr "root_type" .null⟩

def sortRows (rows isRoot key : Value) : Outcome Value := do
  match rows with
  | .list items =>
    if items.length < 2 then return rows
    let keyed ← items.mapM fun row => return (← sortKeyOf key row, row)
    return .list ((sortBelow (fun a b => a.1.below isRoot.truth b.1) keyed).map Prod.snd)
  | other => throw (other.noField "sort")

def accountOf (row : Value) (position : Nat) : Outcome Account := do
  let name ← row.field "name"
  let parent ← row.field "parent_account"
  return {
    position
    name := match name with
      | .null => none
      | other => some other.text
    parent := textOf? parent
    sortKey := ⟨name.text, row.fieldOr "report_type" .null, row.fieldOr "root_type" .null⟩ }

def indentRows (rows : List Value) (listed : List (Account × Nat)) : Outcome (List Value) :=
  listed.foldlM (fun rows (account, level) => do
    match rows[account.position]? with
    | some row => return rows.set account.position (← row.setField "indent" (.nat level))
    | none => return rows) rows

/-- Rows of accounts as a tree: all rows with their indentation; the listed ones in order, the rows
by name, and the rows by parent. -/
def arrangeRows (rows depth : Value) : Outcome (Value × Value) := do
  let items ← rows.items
  let accounts ← items.zipIdx.mapM fun (row, position) => accountOf row position
  let levels := match depth with
    | .null => 20
    | other => ((other.index?).getD 0).toNat
  let arranged := arrange levels accounts
  let shown ← indentRows items arranged.listed
  let rowOf (account : Account) : Value := shown.getD account.position .null
  let byName ← shown.mapM fun row => return (← row.field "name", row)
  let byParent := arranged.families.map fun (parent, children) =>
    (Value.optStr parent, Value.list (children.map rowOf))
  return (.tuple [.list (arranged.listed.map fun entry => rowOf entry.1), .ofEntries byName,
    .dict .plain byParent], .list shown)

end ErpLens.Accounts
