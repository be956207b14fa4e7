import ErpLens.Accounts.ProfitRows
import ErpLens.Proofs.Outcomes
import Mathlib

/-!
# Profit rows in groups

In nested rows every row has a path of groups up to the top. Dropping empty groups again and again
leaves the accounts that count and the groups on their paths.
-/

open List

namespace ErpLens.Accounts

variable {κ α : Type}

/-! ## Nested rows -/

namespace ProfitRow

/-- The group that a row is in, none if it is at the top. -/
def group? (row : ProfitRow κ α) : Option κ :=
  if row.isTop then none else some row.parent

/-- A row is in a group and in no group between. -/
def IsDirectlyIn (rows : ProfitRows κ α) (row group : ProfitRow κ α) : Prop :=
  group ∈ rows ∧ row.group? = some group.account

/-- An account that counts in the sums. -/
def counts (row : ProfitRow κ α) : Bool :=
  !row.isGroup && row.isIncluded

end ProfitRow

/-- Rows with different names of which each is at the top or in a group that comes before it; and
no group has the name that rows at the top have for a group. -/
structure Nested (rows : ProfitRows κ α) : Prop where
  distinct : (rows.map ProfitRow.account).Nodup
  inGroup : ∀ place (inside : place < rows.length), ∀ name ∈ rows[place].group?,
    ∃ group ∈ rows.take place, group.isGroup = true ∧ group.account = name
  outside : ∀ row ∈ rows, row.isTop = true →
    ∀ group ∈ rows, group.isGroup = true → group.account ≠ row.parent

namespace Nested

variable {row : ProfitRow κ α} {rows : ProfitRows κ α} {before after : ProfitRows κ α}
  (nested : Nested rows)

include nested

theorem exists_group (split : rows = before ++ row :: after) {name : κ}
    (named : row.group? = some name) :
    ∃ group ∈ before, group.isGroup = true ∧ group.account = name := by
  subst split
  have found := nested.inGroup before.length (by simp) name
  simp only [getElem_append_right (Nat.le_refl _), Nat.sub_self, getElem_cons_zero,
    take_left'] at found
  exact found named

theorem eq_of_account {other : ProfitRow κ α} (rowMem : row ∈ rows) (otherMem : other ∈ rows)
    (same : row.account = other.account) : row = other :=
  inj_on_of_nodup_map nested.distinct rowMem otherMem same

theorem nodup : rows.Nodup :=
  Nodup.of_map _ nested.distinct

theorem parent_eq_iff {group : ProfitRow κ α} (rowMem : row ∈ rows) (groupMem : group ∈ rows)
    (isGroup : group.isGroup = true) :
    row.parent = group.account ↔ row.group? = some group.account := by
  cases isTop : row.isTop with
  | false => simp [ProfitRow.group?, isTop]
  | true =>
    have outside := nested.outside row rowMem isTop group groupMem isGroup
    simp [ProfitRow.group?, isTop, Ne.symm outside]

/-- What holds at the top, and in every group of whose row it holds, holds everywhere. -/
@[elab_as_elim]
theorem induction {motive : ProfitRow κ α → Prop}
    (top : ∀ row ∈ rows, row.group? = none → motive row)
    (inner : ∀ row ∈ rows, ∀ group ∈ rows, group.isGroup = true →
      row.group? = some group.account → motive group → motive row) :
    ∀ row ∈ rows, motive row := by
  suffices upTo : ∀ count before row after, rows = before ++ row :: after →
      before.length < count → motive row by
    intro row rowMem
    rcases append_of_mem rowMem with ⟨before, after, split⟩
    exact upTo _ before row after split (Nat.lt_succ_self _)
  intro count
  induction count with
  | zero => intro before row after _ short; omega
  | succ count ih =>
    intro before row after split short
    have rowMem : row ∈ rows := by simp [split]
    cases named : row.group? with
    | none => exact top row rowMem named
    | some name =>
      rcases nested.exists_group split named with ⟨group, groupMem, isGroup, rfl⟩
      have groupRow : group ∈ rows := by simp [split, groupMem]
      refine inner row rowMem group groupRow isGroup named ?_
      rcases append_of_mem groupMem with ⟨first, rest, rfl⟩
      refine ih first group (rest ++ row :: after) (by simp [split]) ?_
      simp only [length_append, length_cons] at short
      omega

theorem child_after {child : ProfitRow κ α} (split : rows = before ++ row :: after)
    (childMem : child ∈ rows) (named : child.group? = some row.account) : child ∈ after := by
  have nodup := nested.nodup
  rw [split, nodup_middle, nodup_cons, mem_append, not_or] at nodup
  have notBefore : ∀ group ∈ before, group.account ≠ row.account := by
    intro group groupMem same
    obtain rfl := nested.eq_of_account (by simp [split, groupMem]) (by simp [split]) same
    exact nodup.1.1 groupMem
  rw [split, mem_append, mem_cons] at childMem
  rcases childMem with childMem | rfl | childMem
  · rcases append_of_mem childMem with ⟨first, rest, rfl⟩
    have childSplit : rows = first ++ child :: (rest ++ row :: after) := by simp [split]
    rcases nested.exists_group childSplit named with ⟨group, groupMem, _, same⟩
    exact (notBefore group (by simp [groupMem]) same).elim
  · rcases nested.exists_group split named with ⟨group, groupMem, _, same⟩
    exact (notBefore group groupMem same).elim
  · exact childMem

/-- What holds of a row if it holds of everything directly in it, holds everywhere. -/
@[elab_as_elim]
theorem induction_down {motive : ProfitRow κ α → Prop}
    (step : ∀ row ∈ rows,
      (∀ child ∈ rows, child.group? = some row.account → motive child) → motive row) :
    ∀ row ∈ rows, motive row := by
  suffices fromEnd : ∀ after before, rows = before ++ after → ∀ row ∈ after, motive row from
    fromEnd rows [] rfl
  intro after
  induction after with
  | nil => simp
  | cons first rest ih =>
    intro before split
    have later := ih (before ++ [first]) (by simp [split])
    rw [forall_mem_cons]
    refine ⟨step first (by simp [split]) ?_, later⟩
    intro child childMem named
    exact later child (nested.child_after split childMem named)

end Nested

/-! ## Paths -/

section Paths

variable [BEq κ]

/-- The account and the group of a row. -/
def ProfitRow.outline (row : ProfitRow κ α) : κ × Option κ :=
  (row.account, row.group?)

/-- The names of the groups around something in a group, the innermost first; the rows are given by
their outlines, the last first. -/
def groupsUp : List (κ × Option κ) → Option κ → List κ
  | [], _ => []
  | row :: above, wanted =>
    if wanted == some row.1 then row.1 :: groupsUp above row.2 else groupsUp above wanted

/-- The groups that a row is in, from the innermost. -/
def around (rows : ProfitRows κ α) (row : ProfitRow κ α) : List κ :=
  groupsUp (rows.map ProfitRow.outline).reverse row.group?

/-- A row and the groups it is in. -/
def path (rows : ProfitRows κ α) (row : ProfitRow κ α) : List κ :=
  row.account :: around rows row

theorem groupsUp_none (outlines : List (κ × Option κ)) : groupsUp outlines none = [] := by
  induction outlines with
  | nil => rfl
  | cons row above ih => simpa [groupsUp] using ih

theorem around_of_top {rows : ProfitRows κ α} {row : ProfitRow κ α}
    (top : row.group? = none) : around rows row = [] := by
  rw [around, top, groupsUp_none]

variable [LawfulBEq κ]

theorem groupsUp_append {later outlines : List (κ × Option κ)} {wanted : Option κ}
    (others : ∀ row ∈ later, wanted ≠ some row.1) :
    groupsUp (later ++ outlines) wanted = groupsUp outlines wanted := by
  induction later with
  | nil => rfl
  | cons row rest ih =>
    rw [forall_mem_cons] at others
    simp [groupsUp, others.1, ih others.2]

namespace Nested

variable {row leaf : ProfitRow κ α} {rows : ProfitRows κ α} (nested : Nested rows)

include nested

theorem around_of_group {group : ProfitRow κ α} (groupMem : group ∈ rows)
    (named : row.group? = some group.account) : around rows row = path rows group := by
  rcases append_of_mem groupMem with ⟨before, after, split⟩
  have distinct := nested.distinct
  rw [split, map_append, map_cons, nodup_append', nodup_cons] at distinct
  have outlines : (rows.map ProfitRow.outline).reverse =
      (after.map ProfitRow.outline).reverse ++ group.outline ::
        (before.map ProfitRow.outline).reverse := by
    simp [split]
  have fromRow : around rows row =
      group.account :: groupsUp (before.map ProfitRow.outline).reverse group.group? := by
    rw [around, named, outlines, groupsUp_append]
    · simp [groupsUp, ProfitRow.outline]
    · intro outline outlineMem same
      simp only [mem_reverse, mem_map] at outlineMem
      rcases outlineMem with ⟨other, otherMem, rfl⟩
      refine distinct.2.1.1 (mem_map.mpr ⟨other, otherMem, ?_⟩)
      exact (Option.some.inj same).symm
  -- The group that the group is in comes before it, so nothing after it is met first.
  have fromGroup : around rows group =
      groupsUp (before.map ProfitRow.outline).reverse group.group? := by
    rw [around, outlines, ← singleton_append, ← append_assoc, groupsUp_append]
    intro outline outlineMem same
    rcases nested.exists_group split same with ⟨other, otherMem, _, isOther⟩
    have inBefore : outline.1 ∈ before.map ProfitRow.account :=
      mem_map.mpr ⟨other, otherMem, isOther⟩
    refine distinct.2.2 inBefore ?_
    simp only [mem_append, mem_reverse, mem_map, mem_singleton] at outlineMem
    rcases outlineMem with ⟨later, laterMem, rfl⟩ | rfl
    · exact mem_cons_of_mem _ (mem_map_of_mem laterMem)
    · exact mem_cons_self
  rw [fromRow, path, fromGroup]

theorem exists_of_mem_around (rowMem : row ∈ rows) :
    ∀ before after, rows = before ++ row :: after → ∀ name ∈ around rows row,
      ∃ group ∈ before, group.isGroup = true ∧ group.account = name := by
  refine nested.induction ?top ?inner row rowMem
  case top =>
    intro row _ top before after _ name isAround
    simp [around_of_top top] at isAround
  case inner =>
    intro row rowMem group groupMem isGroup named ih before after split name isAround
    rcases nested.exists_group split named with ⟨found, foundMem, _, sameName⟩
    have foundRow : found ∈ rows := by simp [split, foundMem]
    obtain rfl := nested.eq_of_account foundRow groupMem sameName
    rw [nested.around_of_group groupMem named, path, mem_cons] at isAround
    rcases isAround with rfl | isAround
    · exact ⟨found, foundMem, isGroup, rfl⟩
    · rcases append_of_mem foundMem with ⟨first, rest, rfl⟩
      rcases ih first (rest ++ row :: after) (by simp [split]) name isAround with
        ⟨outer, outerMem, outerIsGroup⟩
      exact ⟨outer, by simp [outerMem], outerIsGroup⟩

theorem not_mem_around (rowMem : row ∈ rows) :
    row.account ∉ around rows row := by
  intro isAround
  rcases append_of_mem rowMem with ⟨before, after, split⟩
  rcases nested.exists_of_mem_around rowMem _ _ split _ isAround with ⟨group, groupMem, _, sameName⟩
  have distinct := nested.distinct
  rw [split, map_append, map_cons, nodup_append'] at distinct
  exact distinct.2.2 (mem_map.mpr ⟨group, groupMem, sameName⟩) mem_cons_self

theorem around_subset (leafMem : leaf ∈ rows) (rowMem : row ∈ rows)
    (onPath : row.account ∈ path rows leaf) : around rows row ⊆ around rows leaf := by
  revert onPath
  refine nested.induction ?top ?inner leaf leafMem
  case top =>
    intro leaf leafMem top onPath
    rw [path, around_of_top top, mem_singleton] at onPath
    rw [nested.eq_of_account rowMem leafMem onPath]
    exact List.Subset.refl _
  case inner =>
    intro leaf leafMem group groupMem _ named ih onPath
    have isAround := nested.around_of_group groupMem named
    rw [path, mem_cons] at onPath
    rcases onPath with isLeaf | onPath
    · rw [nested.eq_of_account rowMem leafMem isLeaf]
      exact List.Subset.refl _
    · rw [isAround] at onPath ⊢
      exact List.Subset.trans (ih onPath) (subset_cons_self _ _)

theorem mem_around (rowMem : row ∈ rows) {name : κ}
    (named : row.group? = some name) : name ∈ around rows row := by
  rcases append_of_mem rowMem with ⟨before, after, split⟩
  rcases nested.exists_group split named with ⟨group, groupMem, _, rfl⟩
  rw [nested.around_of_group (by simp [split, groupMem]) named]
  exact mem_cons_self

/-- The path of a row has the names of what the row is in, however deep. -/
theorem mem_path_iff (leafMem : leaf ∈ rows) (rowMem : row ∈ rows) :
    row.account ∈ path rows leaf ↔
      Relation.ReflTransGen (ProfitRow.IsDirectlyIn rows) leaf row := by
  constructor
  · refine nested.induction ?top ?inner leaf leafMem
    case top =>
      intro leaf leafMem top onPath
      rw [path, around_of_top top, mem_singleton] at onPath
      rw [nested.eq_of_account rowMem leafMem onPath]
    case inner =>
      intro leaf leafMem group groupMem _ named ih onPath
      rw [path, nested.around_of_group groupMem named, mem_cons] at onPath
      rcases onPath with isLeaf | onPath
      · rw [nested.eq_of_account rowMem leafMem isLeaf]
      · exact Relation.ReflTransGen.head ⟨groupMem, named⟩ (ih onPath)
  · intro isIn
    induction isIn using Relation.ReflTransGen.head_induction_on with
    | refl => exact mem_cons_self
    | head direct _ ih =>
      rw [path, nested.around_of_group direct.1 direct.2]
      exact mem_cons_of_mem _ (ih direct.1)

theorem exists_child (leafMem : leaf ∈ rows) {name : κ} (isAround : name ∈ around rows leaf) :
    ∃ child ∈ rows, child.group? = some name ∧ child.account ∈ path rows leaf := by
  revert isAround
  refine nested.induction ?top ?inner leaf leafMem
  case top =>
    intro leaf _ top isAround
    simp [around_of_top top] at isAround
  case inner =>
    intro leaf leafMem group groupMem _ named ih isAround
    rw [nested.around_of_group groupMem named, path, mem_cons] at isAround
    rcases isAround with rfl | isAround
    · exact ⟨leaf, leafMem, named, mem_cons_self⟩
    · rcases ih isAround with ⟨child, childMem, childNamed, onPath⟩
      refine ⟨child, childMem, childNamed, mem_cons_of_mem _ ?_⟩
      rwa [nested.around_of_group groupMem named]

theorem child_unique {first second : ProfitRow κ α} (leafMem : leaf ∈ rows)
    (firstMem : first ∈ rows) (secondMem : second ∈ rows) {name : κ}
    (firstNamed : first.group? = some name) (secondNamed : second.group? = some name)
    (firstOn : first.account ∈ path rows leaf) (secondOn : second.account ∈ path rows leaf) :
    first = second := by
  revert firstOn secondOn
  refine nested.induction ?top ?inner leaf leafMem
  case top =>
    intro leaf leafMem top firstOn secondOn
    rw [path, around_of_top top, mem_singleton] at firstOn secondOn
    exact nested.eq_of_account firstMem secondMem (firstOn.trans secondOn.symm)
  case inner =>
    intro leaf leafMem group groupMem _ named ih firstOn secondOn
    -- A row in the group cannot also be around it.
    have apart {row : ProfitRow κ α} (rowMem : row ∈ rows) (rowNamed : row.group? = leaf.group?) :
        row.account ∉ path rows group := by
      intro onPath
      have around := nested.around_subset groupMem rowMem onPath
      have isAround := around (nested.mem_around rowMem (rowNamed.trans named))
      exact nested.not_mem_around groupMem isAround
    rw [path, nested.around_of_group groupMem named, mem_cons] at firstOn secondOn
    rcases firstOn with isFirst | firstOn
    · rcases secondOn with isSecond | secondOn
      · exact nested.eq_of_account firstMem secondMem (isFirst.trans isSecond.symm)
      · obtain rfl := nested.eq_of_account firstMem leafMem isFirst
        exact (apart secondMem (secondNamed.trans firstNamed.symm) secondOn).elim
    · rcases secondOn with isSecond | secondOn
      · obtain rfl := nested.eq_of_account secondMem leafMem isSecond
        exact (apart firstMem (firstNamed.trans secondNamed.symm) firstOn).elim
      · exact ih firstOn secondOn

end Nested

end Paths

/-! ## Accounts that count -/

section Leaves

variable [BEq κ]

/-- The accounts that count in a row. -/
def leavesOf (rows : ProfitRows κ α) (row : ProfitRow κ α) : ProfitRows κ α :=
  rows.filter fun leaf => leaf.counts && (path rows leaf).contains row.account

/-- Whether a row stays: an account that counts, or a group with such an account in it. -/
def isKept (rows : ProfitRows κ α) (row : ProfitRow κ α) : Bool :=
  if row.isGroup then !(leavesOf rows row).isEmpty else row.isIncluded

variable [LawfulBEq κ]

theorem mem_leavesOf {rows : ProfitRows κ α} {row leaf : ProfitRow κ α} :
    leaf ∈ leavesOf rows row ↔
      leaf ∈ rows ∧ leaf.counts = true ∧ row.account ∈ path rows leaf := by
  simp [leavesOf]

namespace Nested

variable {row : ProfitRow κ α} {rows : ProfitRows κ α} {leaf : ProfitRow κ α}
  (nested : Nested rows)

include nested

theorem isGroup_of_mem_around (rowMem : row ∈ rows) (leafMem : leaf ∈ rows)
    (isAround : row.account ∈ around rows leaf) : row.isGroup = true := by
  rcases append_of_mem leafMem with ⟨before, after, split⟩
  rcases nested.exists_of_mem_around leafMem _ _ split _ isAround with
    ⟨group, groupMem, isGroup, same⟩
  obtain rfl := nested.eq_of_account (by simp [split, groupMem]) rowMem same
  exact isGroup

theorem eq_of_mem_leavesOf (rowMem : row ∈ rows) (isAccount : row.isGroup = false)
    (leafMem : leaf ∈ leavesOf rows row) : leaf = row := by
  rcases mem_leavesOf.mp leafMem with ⟨leafRow, _, onPath⟩
  rw [path, mem_cons] at onPath
  rcases onPath with same | isAround
  · exact nested.eq_of_account leafRow rowMem same.symm
  · have isGroup := nested.isGroup_of_mem_around rowMem leafRow isAround
    simp [isAccount] at isGroup

theorem isKept_iff (rowMem : row ∈ rows) :
    isKept rows row = true ↔ ∃ leaf, leaf ∈ leavesOf rows row := by
  cases isGroup : row.isGroup with
  | true => simp [isKept, isGroup, eq_nil_iff_forall_not_mem]
  | false =>
    rw [isKept, isGroup]
    constructor
    · intro isIncluded
      refine ⟨row, mem_leavesOf.mpr ⟨rowMem, ?_, mem_cons_self⟩⟩
      simpa [ProfitRow.counts, isGroup] using isIncluded
    · rintro ⟨leaf, leafMem⟩
      obtain rfl := nested.eq_of_mem_leavesOf rowMem isGroup leafMem
      have counts := (mem_leavesOf.mp leafMem).2.1
      simpa [ProfitRow.counts, isGroup] using counts

theorem leavesOf_subset {child : ProfitRow κ α} (childMem : child ∈ rows)
    (named : child.group? = some row.account) : leavesOf rows child ⊆ leavesOf rows row := by
  intro leaf leafMem
  rcases mem_leavesOf.mp leafMem with ⟨leafRow, counts, onPath⟩
  have isAround := nested.around_subset leafRow childMem onPath (nested.mem_around childMem named)
  exact mem_leavesOf.mpr ⟨leafRow, counts, mem_cons_of_mem _ isAround⟩

theorem exists_child_of_mem_leavesOf (rowMem : row ∈ rows) (isGroup : row.isGroup = true)
    (leafMem : leaf ∈ leavesOf rows row) :
    ∃ child ∈ rows, child.group? = some row.account ∧ leaf ∈ leavesOf rows child := by
  rcases mem_leavesOf.mp leafMem with ⟨leafRow, counts, onPath⟩
  rw [path, mem_cons] at onPath
  rcases onPath with same | isAround
  · obtain rfl := nested.eq_of_account rowMem leafRow same
    simp [ProfitRow.counts, isGroup] at counts
  · rcases nested.exists_child leafRow isAround with ⟨child, childMem, named, childOn⟩
    exact ⟨child, childMem, named, mem_leavesOf.mpr ⟨leafRow, counts, childOn⟩⟩

theorem isKept_of_child {child : ProfitRow κ α} (rowMem : row ∈ rows) (childMem : child ∈ rows)
    (named : child.group? = some row.account)
    (kept : isKept rows child = true) : isKept rows row = true := by
  rcases (nested.isKept_iff childMem).mp kept with ⟨leaf, leafMem⟩
  exact (nested.isKept_iff rowMem).mpr ⟨leaf, nested.leavesOf_subset childMem named leafMem⟩

theorem exists_kept_child (rowMem : row ∈ rows) (isGroup : row.isGroup = true)
    (kept : isKept rows row = true) :
    ∃ child ∈ rows, child.group? = some row.account ∧ isKept rows child = true := by
  rcases (nested.isKept_iff rowMem).mp kept with ⟨leaf, leafMem⟩
  rcases nested.exists_child_of_mem_leavesOf rowMem isGroup leafMem with
    ⟨child, childMem, named, childLeaf⟩
  exact ⟨child, childMem, named, (nested.isKept_iff childMem).mpr ⟨leaf, childLeaf⟩⟩

end Nested

end Leaves

/-! ## Dropping empty groups -/

section Drop

variable [BEq κ]

/-- The state after some rows of a round: nothing has been dropped yet and all groups so far have
something in them, or there are fewer rows. -/
structure Round (rows seen : ProfitRows κ α) (state : ProfitRows κ α × Bool) : Prop where
  full : state.2 = false → state.1 = rows ∧ ∀ row ∈ seen, row.isGroup = true →
    row.hasChild rows = true
  fewer : state.2 = true → state.1.length < rows.length

theorem Round.step {rows seen : ProfitRows κ α} {state : ProfitRows κ α × Bool}
    (round : Round rows seen state) {row : ProfitRow κ α} (rowMem : row ∈ rows) :
    Round rows (seen ++ [row]) (dropIfEmpty state row) := by
  rw [dropIfEmpty]
  split
  case isTrue isEmpty =>
    refine ⟨by simp, fun _ => ?_⟩
    cases dropped : state.2 with
    | false =>
      rw [(round.full dropped).1, length_filter_lt_length_iff_exists]
      exact ⟨row, rowMem, by simp⟩
    | true => exact lt_of_le_of_lt (length_filter_le _ _) (round.fewer dropped)
  case isFalse notEmpty =>
    refine ⟨fun dropped => ?_, round.fewer⟩
    rcases round.full dropped with ⟨same, full⟩
    refine ⟨same, ?_⟩
    intro other otherMem isGroup
    rw [mem_append, mem_singleton] at otherMem
    rcases otherMem with otherMem | rfl
    · exact full other otherMem isGroup
    · simpa [same, isGroup] using notEmpty

theorem round_dropEmptyGroups (rows : ProfitRows κ α) : Round rows rows (dropEmptyGroups rows) := by
  suffices later : ∀ todo seen state, rows = seen ++ todo → Round rows seen state →
      Round rows rows (todo.foldl dropIfEmpty state) from
    later rows [] _ rfl ⟨by simp, by simp⟩
  intro todo
  induction todo with
  | nil =>
    intro seen state split round
    rwa [split, append_nil] at round ⊢
  | cons row rest ih =>
    intro seen state split round
    exact ih (seen ++ [row]) _ (by simp [split]) (round.step (by simp [split]))

/-- Some of the rows, with all that are to stay and without accounts that do not count. -/
def Keeps (rows some : ProfitRows κ α) : Prop :=
  ∃ keep : ProfitRow κ α → Bool, some = rows.filter keep ∧ ∀ row ∈ rows,
    (isKept rows row = true → keep row = true) ∧
    (keep row = true → row.isGroup = true ∨ row.isIncluded = true)

variable [LawfulBEq κ]

namespace Nested

variable {rows : ProfitRows κ α} {some : ProfitRows κ α} (nested : Nested rows)

include nested

theorem hasChild_iff (someOf : some ⊆ rows) {row : ProfitRow κ α} (rowMem : row ∈ rows)
    (isGroup : row.isGroup = true) :
    row.hasChild some = true ↔ ∃ child ∈ some, child.group? = .some row.account := by
  simp only [ProfitRow.hasChild, any_eq_true, beq_iff_eq]
  constructor
  · rintro ⟨child, childMem, parent⟩
    exact ⟨child, childMem, (nested.parent_eq_iff (someOf childMem) rowMem isGroup).mp parent⟩
  · rintro ⟨child, childMem, named⟩
    exact ⟨child, childMem, (nested.parent_eq_iff (someOf childMem) rowMem isGroup).mpr named⟩

theorem keeps_dropIfEmpty (placed : (rows.map ProfitRow.position).Nodup)
    {state : ProfitRows κ α × Bool} (keeps : Keeps rows state.1) {row : ProfitRow κ α}
    (rowMem : row ∈ rows) : Keeps rows (dropIfEmpty state row).1 := by
  rw [dropIfEmpty]
  split
  case isFalse => exact keeps
  case isTrue isEmpty =>
    rw [Bool.and_eq_true, Bool.not_eq_true'] at isEmpty
    rcases keeps with ⟨keep, kept, keeps⟩
    refine ⟨fun other => other.position != row.position && keep other, ?_, ?_⟩
    · rw [kept, filter_filter]
    · intro other otherMem
      refine ⟨fun isKept => ?_, fun both => (keeps other otherMem).2 (by simp_all)⟩
      rw [Bool.and_eq_true, bne_iff_ne]
      refine ⟨?_, (keeps other otherMem).1 isKept⟩
      intro samePosition
      obtain rfl := inj_on_of_nodup_map placed otherMem rowMem samePosition
      rcases nested.exists_kept_child otherMem isEmpty.1 isKept with
        ⟨child, childMem, named, childKept⟩
      have someOf : state.1 ⊆ rows := by
        rw [kept]
        exact filter_sublist.subset
      have hasChild : other.hasChild state.1 = true := by
        refine (nested.hasChild_iff someOf otherMem isEmpty.1).mpr ⟨child, ?_, named⟩
        rw [kept]
        exact mem_filter.mpr ⟨childMem, (keeps child childMem).1 childKept⟩
      simp [hasChild] at isEmpty

theorem keeps_dropEmptyGroups (placed : (rows.map ProfitRow.position).Nodup)
    (keeps : Keeps rows some) : Keeps rows (dropEmptyGroups some).1 := by
  have someOf : some ⊆ rows := by
    rcases keeps with ⟨keep, rfl, _⟩
    exact filter_sublist.subset
  suffices later : ∀ todo, todo ⊆ rows → ∀ state : ProfitRows κ α × Bool,
      Keeps rows state.1 → Keeps rows (todo.foldl dropIfEmpty state).1 from
    later some someOf _ keeps
  intro todo
  induction todo with
  | nil => exact fun _ _ keeps => keeps
  | cons row rest ih =>
    intro todoOf state keeps
    rw [cons_subset] at todoOf
    exact ih todoOf.2 _ (nested.keeps_dropIfEmpty placed keeps todoOf.1)

theorem eq_of_keeps (keeps : Keeps rows some)
    (full : ∀ row ∈ some, row.isGroup = true → row.hasChild some = true) :
    some = rows.filter (isKept rows) := by
  rcases keeps with ⟨keep, rfl, keeps⟩
  have stays : ∀ row ∈ rows, keep row = true → isKept rows row = true := by
    intro row rowMem
    refine nested.induction_down ?_ row rowMem
    intro row rowMem ih kept
    cases isGroup : row.isGroup with
    | false => simpa [isKept, isGroup] using (keeps row rowMem).2 kept
    | true =>
      have hasChild := full row (mem_filter.mpr ⟨rowMem, kept⟩) isGroup
      rw [nested.hasChild_iff (filter_sublist.subset) rowMem isGroup] at hasChild
      rcases hasChild with ⟨child, childMem, named⟩
      rw [mem_filter] at childMem
      exact nested.isKept_of_child rowMem childMem.1 named (ih child childMem.1 named childMem.2)
  apply filter_congr
  intro row rowMem
  rw [Bool.eq_iff_iff]
  exact ⟨stays row rowMem, (keeps row rowMem).1⟩

theorem dropAllEmptyGroups_eq_of_keeps (placed : (rows.map ProfitRow.position).Nodup) {fuel : Nat}
    (keeps : Keeps rows some) (enough : some.length < fuel) :
    dropAllEmptyGroups fuel some = rows.filter (isKept rows) := by
  induction fuel generalizing some with
  | zero => omega
  | succ fuel ih =>
    have round := round_dropEmptyGroups some
    have keepsNext := nested.keeps_dropEmptyGroups placed keeps
    rw [dropAllEmptyGroups]
    split
    case h_1 kept dropped =>
      rw [dropped] at round keepsNext
      exact ih keepsNext (lt_of_lt_of_le (round.fewer rfl) (Nat.le_of_lt_succ enough))
    case h_2 kept stayed =>
      rw [stayed] at round
      rcases round.full rfl with ⟨rfl, full⟩
      exact nested.eq_of_keeps keeps full

/-- What is left are the accounts that count and the groups around them. -/
theorem dropAllEmptyGroups_eq (placed : (rows.map ProfitRow.position).Nodup) {fuel : Nat}
    (enough : (rows.filter fun row => row.isIncluded || row.isGroup).length < fuel) :
    dropAllEmptyGroups fuel (rows.filter fun row => row.isIncluded || row.isGroup) =
      rows.filter (isKept rows) := by
  refine nested.dropAllEmptyGroups_eq_of_keeps placed ⟨_, rfl, ?_⟩ enough
  intro row _
  cases isGroup : row.isGroup <;> simp [isKept, isGroup]

end Nested

end Drop

/-! ## What stays -/

section Kept

theorem Nested.of_splits {rows : ProfitRows κ α} (distinct : (rows.map ProfitRow.account).Nodup)
    (inGroup : ∀ before row after, rows = before ++ row :: after → ∀ name,
      row.group? = some name → ∃ group ∈ before, group.isGroup = true ∧ group.account = name)
    (outside : ∀ row ∈ rows, row.isTop = true →
      ∀ group ∈ rows, group.isGroup = true → group.account ≠ row.parent) : Nested rows := by
  refine ⟨distinct, ?_, outside⟩
  intro place inside name named
  refine inGroup (rows.take place) rows[place] (rows.drop (place + 1)) ?_ name named
  rw [getElem_cons_drop, take_append_drop]

variable [BEq κ] [LawfulBEq κ]

namespace Nested

variable {rows : ProfitRows κ α}

theorem kept (nested : Nested rows) : Nested (rows.filter (isKept rows)) := by
  refine Nested.of_splits ?_ ?_ ?_
  · exact nested.distinct.sublist (filter_sublist.map _)
  · intro before row after split name named
    rcases filter_eq_append_iff.mp split with ⟨first, rest, rowsSplit, rfl, restEq⟩
    rcases filter_eq_cons_iff.mp restEq with ⟨dropped, later, rfl, notKept, isKept, _⟩
    have whole : rows = (first ++ dropped) ++ row :: later := by simp [rowsSplit]
    rcases nested.exists_group whole named with ⟨group, groupMem, isGroup, rfl⟩
    have groupRow : group ∈ rows := by
      rw [whole]
      exact mem_append_left _ groupMem
    have groupKept := nested.isKept_of_child groupRow (by simp [whole]) named isKept
    rw [mem_append] at groupMem
    rcases groupMem with groupMem | groupMem
    · exact ⟨group, mem_filter.mpr ⟨groupMem, groupKept⟩, isGroup, rfl⟩
    · exact (notKept group groupMem groupKept).elim
  · intro row rowMem isTop group groupMem
    exact nested.outside row (mem_of_mem_filter rowMem) isTop group
      (mem_of_mem_filter groupMem)

theorem path_kept (nested : Nested rows) {row : ProfitRow κ α}
    (rowMem : row ∈ rows.filter (isKept rows)) :
    path (rows.filter (isKept rows)) row = path rows row := by
  refine nested.kept.induction ?top ?inner row rowMem
  case top =>
    intro row _ top
    rw [path, path, around_of_top top, around_of_top top]
  case inner =>
    intro row _ group groupMem _ named ih
    have groupRow := mem_of_mem_filter groupMem
    rw [path, path, nested.kept.around_of_group groupMem named,
      nested.around_of_group groupRow named, ih]

theorem leavesOf_kept (nested : Nested rows) (row : ProfitRow κ α) :
    leavesOf (rows.filter (isKept rows)) row = leavesOf rows row := by
  rw [leavesOf, leavesOf, filter_filter]
  apply filter_congr
  intro leaf leafMem
  cases kept : isKept rows leaf with
  | true => rw [nested.path_kept (mem_filter.mpr ⟨leafMem, kept⟩), Bool.and_true]
  | false =>
    have countsNot : leaf.counts = false := by
      cases isGroup : leaf.isGroup <;> simp_all [ProfitRow.counts, isKept]
    simp [countsNot]

end Nested

end Kept

end ErpLens.Accounts
