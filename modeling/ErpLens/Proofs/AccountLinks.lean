import ErpLens.Accounts.Arrange
import ErpLens.Proofs.Fields
import Mathlib

/-!
# Accounts and the accounts above them

Every account has at most one parent, so there is one way up from it. If the way ends at a root, the
account has a depth: the number of accounts above it.
-/

namespace ErpLens.Accounts

open Relation

/-- The names of accounts, each with that of its parent. -/
abbrev Links := List (String × Option String)

namespace Links

/-- The second account is right above the first. -/
def Parent (links : Links) (child parent : String) : Prop :=
  (child, some parent) ∈ links

/-- The number of accounts above an account whose way up ends at a root. -/
inductive HasDepth (links : Links) : String → Nat → Prop
  | root {name : String} (isRoot : (name, none) ∈ links) : HasDepth links name 0
  | step {child parent : String} {depth : Nat} (isChild : links.Parent child parent)
      (above : HasDepth links parent depth) : HasDepth links child (depth + 1)

variable {links : Links}

theorem HasDepth.exists_link {name : String} {depth : Nat} (hasDepth : links.HasDepth name depth) :
    ∃ parent, (name, parent) ∈ links := by
  cases hasDepth with
  | root isRoot => exact ⟨none, isRoot⟩
  | step isChild _ => exact ⟨_, isChild⟩

variable (distinct : (links.map Prod.fst).Nodup)

include distinct

theorem parent_unique {name : String} {first second : Option String}
    (isFirst : (name, first) ∈ links) (isSecond : (name, second) ∈ links) : first = second :=
  congrArg Prod.snd (List.inj_on_of_nodup_map distinct isFirst isSecond rfl)

theorem rightUnique : Relator.RightUnique links.Parent := fun _ _ _ isFirst isSecond =>
  Option.some.inj (parent_unique distinct isFirst isSecond)

theorem HasDepth.unique {name : String} {first second : Nat} (isFirst : links.HasDepth name first)
    (isSecond : links.HasDepth name second) : first = second := by
  induction isFirst generalizing second with
  | root isRoot =>
    cases isSecond with
    | root _ => rfl
    | step isChild _ => cases parent_unique distinct isRoot isChild
  | step isChild _ ih =>
    cases isSecond with
    | root isRoot => cases parent_unique distinct isRoot isChild
    | step isOther above =>
      cases rightUnique distinct isChild isOther
      rw [ih above]

theorem HasDepth.exists_parent {child parent : String} {depth : Nat}
    (hasDepth : links.HasDepth child depth) (isParent : links.Parent child parent) :
    ∃ above, depth = above + 1 ∧ links.HasDepth parent above := by
  cases hasDepth with
  | root isRoot => cases parent_unique distinct isRoot isParent
  | step isChild above =>
    cases rightUnique distinct isChild isParent
    exact ⟨_, rfl, above⟩

theorem HasDepth.exists_of_reflTransGen {low high : String} {lowDepth : Nat}
    (above : ReflTransGen links.Parent low high) (isLow : links.HasDepth low lowDepth) :
    ∃ highDepth, links.HasDepth high highDepth := by
  induction above using ReflTransGen.head_induction_on generalizing lowDepth with
  | refl => exact ⟨_, isLow⟩
  | head isParent _ ih =>
    rcases isLow.exists_parent distinct isParent with ⟨_, -, parentDepth⟩
    exact ih parentDepth

/-- Going up makes the depth smaller, so no account with a depth is above itself. -/
theorem HasDepth.lt_of_transGen {low high : String} {lowDepth highDepth : Nat}
    (below : TransGen links.Parent low high) (isLow : links.HasDepth low lowDepth)
    (isHigh : links.HasDepth high highDepth) : highDepth < lowDepth := by
  induction below using TransGen.head_induction_on generalizing lowDepth with
  | single isChild =>
    rw [isLow.unique distinct (.step isChild isHigh)]
    exact Nat.lt_succ_self _
  | head isParent _ ih =>
    rcases isLow.exists_parent distinct isParent with ⟨above, rfl, parentDepth⟩
    exact (ih parentDepth).trans (Nat.lt_succ_self _)

end Links

/-! ## Rows of accounts -/

/-- The name in a row, empty if there is none. -/
def nameIn (row : Value) : String :=
  match row.held "name" with
  | some (.str name) => name
  | _ => ""

/-- The parent in a row; an empty one is none. -/
def parentIn (row : Value) : Option String :=
  (row.held "parent_account").bind textOf?

/-- The links that rows of accounts state. -/
def linksOf (rows : List Value) : Links :=
  rows.map fun row => (nameIn row, parentIn row)

/-- A record with the name of an account and that of its parent, which may be missing or empty. -/
structure IsAccountRecord (row : Value) : Prop where
  isRecord : ∃ entries, row = .dict .record entries
  named : ∃ name, row.held "name" = some (.str name)
  hasParent : ∃ parent, row.held "parent_account" = some (Value.optStr parent)

theorem map_fst_linksOf (rows : List Value) : (linksOf rows).map Prod.fst = rows.map nameIn := by
  rw [linksOf, List.map_map]
  rfl

theorem nodup_linksOf {rows : List Value} (distinct : (rows.map nameIn).Nodup) :
    ((linksOf rows).map Prod.fst).Nodup :=
  map_fst_linksOf rows ▸ distinct

theorem mem_linksOf {rows : List Value} {name : String} {parent : Option String} :
    (name, parent) ∈ linksOf rows ↔ ∃ row ∈ rows, nameIn row = name ∧ parentIn row = parent := by
  simp [linksOf]

def byName (rows : List Value) : Entries :=
  rows.map fun row => (.str (nameIn row), row)

theorem findEntry_byName {rows : List Value} (distinct : (rows.map nameIn).Nodup) {row : Value}
    (rowMem : row ∈ rows) : Value.findEntry (.str (nameIn row)) (byName rows) = some row := by
  induction rows with
  | nil => cases rowMem
  | cons first rest ih =>
    rw [List.map_cons, List.nodup_cons] at distinct
    simp only [byName, List.map_cons, Value.findEntry, Value.same_str, beq_iff_eq]
    rcases List.mem_cons.mp rowMem with rfl | later
    · rw [if_pos rfl]
    · rw [if_neg fun sameName => distinct.1 (List.mem_map.mpr ⟨row, later, sameName.symm⟩)]
      exact ih distinct.2 later

namespace IsAccountRecord

variable {row : Value} (isRecord : IsAccountRecord row)

include isRecord

theorem isDict : row.IsDict := by
  rcases isRecord.isRecord with ⟨entries, rfl⟩
  exact ⟨_, _, rfl⟩

theorem field?_eq (name : String) : row.field? name = row.held name := by
  rcases isRecord.isRecord with ⟨entries, rfl⟩
  rfl

theorem held_name : row.held "name" = some (.str (nameIn row)) := by
  rcases isRecord.named with ⟨name, held⟩
  rw [nameIn, held]

theorem field_name : row.field "name" = .ok (.str (nameIn row)) := by
  rw [Value.field, isRecord.field?_eq, isRecord.held_name]

theorem withKeys {fields : Fields} (notName : "name" ∉ fields.map Prod.fst)
    (notParent : "parent_account" ∉ fields.map Prod.fst) :
    IsAccountRecord (row.withKeys fields) ∧ nameIn (row.withKeys fields) = nameIn row ∧
      parentIn (row.withKeys fields) = parentIn row := by
  have sameName := isRecord.isDict.held_withKeys_of_not_mem notName
  have sameParent := isRecord.isDict.held_withKeys_of_not_mem notParent
  refine ⟨⟨?_, ?_, ?_⟩, by rw [nameIn, sameName, nameIn], by rw [parentIn, sameParent, parentIn]⟩
  · rcases isRecord.isRecord with ⟨entries, rfl⟩
    exact ⟨_, rfl⟩
  · rw [sameName]
    exact isRecord.named
  · rw [sameParent]
    exact isRecord.hasParent

end IsAccountRecord

def accountRecord (name : String) (parent : Option String) (others : Fields) : Value :=
  .ofRecord (("name", .str name) :: ("parent_account", Value.optStr parent) :: others)

section AccountRow

variable {name : String} {parent : Option String} {others : Fields}

theorem isAccountRecord_accountRecord : IsAccountRecord (accountRecord name parent others) where
  isRecord := ⟨_, rfl⟩
  named := ⟨name, Value.findEntry_fields _ _⟩
  hasParent := ⟨parent, Value.findEntry_fields _ _⟩

theorem nameIn_accountRecord : nameIn (accountRecord name parent others) = name := by
  have held : (accountRecord name parent others).held "name" = some (.str name) :=
    Value.findEntry_fields _ _
  rw [nameIn, held]

theorem parentIn_accountRecord :
    parentIn (accountRecord name parent others) = textOf? (Value.optStr parent) := by
  have held : (accountRecord name parent others).held "parent_account" =
      some (Value.optStr parent) := Value.findEntry_fields _ _
  rw [parentIn, held, Option.bind_some]

end AccountRow

end ErpLens.Accounts
