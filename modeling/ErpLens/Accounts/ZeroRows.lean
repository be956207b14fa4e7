import ErpLens.Value.Arithmetic

/-!
# Leaving out rows without value

A row stays if its account has a value or lies above an account that has one.
-/

namespace ErpLens.Accounts

/-- Each parent with its children; the roots have no parent. -/
abbrev ParentMap (κ : Type) := List (Option κ × List κ)

def parentsOf {κ : Type} [BEq κ] (parents : ParentMap κ) (account : κ) : List κ :=
  parents.flatMap fun family => (family.2.filter (· == account)).filterMap fun _ => family.1

/-- The accounts above an account, each parent before those above it. A search that takes more than
`fuel` steps upwards does not end. -/
def ancestors {κ : Type} [BEq κ] (parents : ParentMap κ) : Nat → κ → Outcome (List κ)
  | 0, _ => .error .endless
  | fuel + 1, account => do
    let above ← (parentsOf parents account).mapM fun parent => do
      return parent :: (← ancestors parents fuel parent)
    return above.flatten

/-- The accounts with a value and all accounts above them. An account has no more accounts above it
than there are parents, unless it lies above itself. -/
def shownAccounts {κ : Type} [BEq κ] (parents : ParentMap κ) (valued : List κ) :
    Outcome (List κ) := do
  let shown ← valued.mapM fun account => do
    return account :: (← ancestors parents (parents.length + 1) account)
  return shown.flatten

def withoutZeroRows {κ ρ : Type} [BEq κ] (account : ρ → κ) (hasValue : ρ → Bool)
    (parents : ParentMap κ) (rows : List ρ) : Outcome (List ρ) := do
  let shown ← shownAccounts parents ((rows.filter hasValue).map account)
  return rows.filter fun row => shown.contains (account row)

def valuedRow (showZeros row : Value) : Outcome (Value × Value × Bool) := do
  return (row, ← row.get "account", showZeros.truth || (← row.get "has_value").truth)

def familyOf (entry : Value × Value) : Outcome (Option Value × List Value) := do
  let names ← (← entry.2.items).mapM (·.key "name")
  return (if entry.1.truth then some entry.1 else none, names)

def visibleRows (rows families showZeros : Value) : Outcome Value := do
  let keyed ← (← rows.items).mapM (valuedRow showZeros)
  let parents ← (← families.entries).mapM familyOf
  let kept ← withoutZeroRows (fun entry => entry.2.1) (fun entry => entry.2.2) parents keyed
  return .list (kept.map fun entry => entry.1)

end ErpLens.Accounts
