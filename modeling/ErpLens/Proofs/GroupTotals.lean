import Mathlib
import ErpLens.Proofs.Fields
import ErpLens.Proofs.LevelOrder
import ErpLens.Proofs.Outcomes
import ErpLens.Stock.GroupCost

/-!
# What the total of a group counts

Totals are found in one pass from the end of a list with each group before its parts. A total counts
the leading parts without parts and what the first part with parts counts; all that comes after this
part is left out.
-/

open List

namespace ErpLens.Stock

/-! ## Trees of groups and their lists -/

section Listing

variable {α : Type}

mutual

/-- The groups of a tree, each before its parts. -/
def listing (level : Int) : Tree α → List (GroupCost α)
  | .node own parts => ⟨level, own⟩ :: listingAll (level + 1) parts

def listingAll (level : Int) : List (Tree α) → List (GroupCost α)
  | [] => []
  | tree :: rest => listing level tree ++ listingAll level rest

end

mutual

theorem map_own_listing (level : Int) : ∀ tree : Tree α,
    (listing level tree).map GroupCost.own = tree.labels
  | .node own parts => by
      rw [listing, map_cons, map_own_listingAll, Tree.labels_node]

theorem map_own_listingAll (level : Int) : ∀ forest : List (Tree α),
    (listingAll level forest).map GroupCost.own = Tree.forestLabels forest
  | [] => rfl
  | tree :: rest => by
      rw [listingAll, map_append, map_own_listing level tree, map_own_listingAll level rest,
        Tree.forestLabels_cons]

end

/-- A level rises by at most one. -/
def Rises (before group : GroupCost α) : Prop :=
  group.level ≤ before.level + 1

/-- A root at level zero, and then groups below it that rise by at most one level. -/
def Leveled : List (GroupCost α) → Prop
  | [] => False
  | root :: below =>
    root.level = 0 ∧ (∀ group ∈ below, 1 ≤ group.level) ∧ (root :: below).IsChain Rises

instance decidableRises (before group : GroupCost α) : Decidable (Rises before group) :=
  inferInstanceAs (Decidable (_ ≤ _))

instance decidableLeveled : ∀ groups : List (GroupCost α), Decidable (Leveled groups)
  | [] => inferInstanceAs (Decidable False)
  | _ :: _ => inferInstanceAs (Decidable (_ ∧ _ ∧ _))

/-- Groups of which the first is on a level and none above it are the list of a forest. -/
theorem exists_listingAll {level : Int} {groups : List (GroupCost α)}
    (first : ∀ group ∈ groups.head?, group.level = level)
    (notAbove : ∀ group ∈ groups, level ≤ group.level) (rises : groups.IsChain Rises) :
    ∃ forest, listingAll level forest = groups := by
  induction size : groups.length using Nat.strongRecOn generalizing level groups with
  | _ count ih =>
    rcases groups with _ | ⟨⟨itsLevel, own⟩, rest⟩
    · exact ⟨[], rfl⟩
    · obtain rfl : itsLevel = level := first _ rfl
      -- The parts of the first group are those up to the next group on its level.
      let isPart (group : GroupCost α) : Bool := itsLevel < group.level
      have split : rest.takeWhile isPart ++ rest.dropWhile isPart = rest :=
        takeWhile_append_dropWhile
      have restRises := rises.tail
      rw [← split] at restRises
      have lengths := congrArg List.length split
      rw [length_append] at lengths
      rw [length_cons] at size
      obtain ⟨parts, partsEq⟩ : ∃ forest,
          listingAll (itsLevel + 1) forest = rest.takeWhile isPart := by
        refine ih _ ?_ ?_ ?_ restRises.left_of_append rfl
        · omega
        · intro group isFirst
          rw [head?_takeWhile, Option.mem_def, Option.filter_eq_some_iff] at isFirst
          have risen : Rises ⟨itsLevel, own⟩ group :=
            (isChain_cons.mp rises).1 group isFirst.1
          simp only [Rises] at risen
          simp only [isPart, decide_eq_true_eq] at isFirst
          omega
        · intro group groupMem
          have isBelow := mem_takeWhile_imp groupMem
          simp only [isPart, decide_eq_true_eq] at isBelow
          omega
      obtain ⟨others, othersEq⟩ : ∃ forest,
          listingAll itsLevel forest = rest.dropWhile isPart := by
        refine ih _ ?_ ?_ ?_ restRises.right_of_append rfl
        · omega
        · intro group isFirst
          have groupMem := dropWhile_subset isPart (mem_of_mem_head? isFirst)
          have atLeast := notAbove group (mem_cons_of_mem _ groupMem)
          have notPart := head?_dropWhile_not isPart rest
          rw [Option.mem_def.mp isFirst] at notPart
          simp only [isPart, decide_eq_false_iff_not] at notPart
          omega
        · intro group groupMem
          exact notAbove group (mem_cons_of_mem _ (dropWhile_subset _ groupMem))
      refine ⟨.node own parts :: others, ?_⟩
      rw [listingAll, listing, partsEq, othersEq, cons_append, split]

theorem exists_listing {groups : List (GroupCost α)} (leveled : Leveled groups) :
    ∃ tree, listing 0 tree = groups := by
  rcases groups with _ | ⟨⟨rootLevel, own⟩, below⟩
  · exact leveled.elim
  · rcases leveled with ⟨atTop, under, rises⟩
    obtain rfl : rootLevel = 0 := atTop
    have first : ∀ group ∈ below.head?, group.level = 1 := by
      intro group isFirst
      have risen : Rises ⟨0, own⟩ group := (isChain_cons.mp rises).1 group isFirst
      have isUnder := under group (mem_of_mem_head? isFirst)
      simp only [Rises] at risen
      omega
    rcases exists_listingAll first under rises.tail with ⟨parts, partsEq⟩
    refine ⟨.node own parts, ?_⟩
    rw [listing, Int.zero_add, partsEq]

end Listing

/-! ## What is counted and what is left out -/

section Counting

variable {α : Type}

mutual

/-- The costs that the total of a group counts: its own, those of its leading parts without parts,
and those that the first part with parts counts. -/
def counted : Tree α → List α
  | .node own parts => own :: countedAmong parts

def countedAmong : List (Tree α) → List α
  | [] => []
  | tree :: rest => counted tree ++ if tree.children.isEmpty then countedAmong rest else []

end

mutual

/-- The costs below a group that its total leaves out. -/
def leftOut : Tree α → List α
  | .node _ parts => leftOutAmong parts

def leftOutAmong : List (Tree α) → List α
  | [] => []
  | tree :: rest =>
    leftOut tree ++ if tree.children.isEmpty then leftOutAmong rest else Tree.forestLabels rest

end

mutual

/-- Every cost below a group is either counted or left out. -/
theorem counted_append_leftOut : ∀ tree : Tree α, (counted tree ++ leftOut tree).Perm tree.labels
  | .node own parts => by
      rw [counted, leftOut, Tree.labels_node, cons_append]
      exact (countedAmong_append_leftOutAmong parts).cons own

theorem countedAmong_append_leftOutAmong : ∀ forest : List (Tree α),
    (countedAmong forest ++ leftOutAmong forest).Perm (Tree.forestLabels forest)
  | [] => .refl _
  | tree :: rest => by
      have ofTree := counted_append_leftOut tree
      have ofRest := countedAmong_append_leftOutAmong rest
      have regroup (first second third fourth : List α) :
          (first ++ second ++ (third ++ fourth)).Perm (first ++ third ++ (second ++ fourth)) := by
        simp only [append_assoc]
        exact (perm_append_comm_assoc second third fourth).append_left first
      rw [countedAmong, leftOutAmong, Tree.forestLabels_cons]
      refine (regroup _ _ _ _).trans (ofTree.append ?_)
      split
      · exact ofRest
      · exact .refl _

end

end Counting

/-! ## One pass from the end -/

namespace OpenSums

section

variable {α : Type} [Add α]

theorem length_run (sums : OpenSums α) (groups : List (GroupCost α)) :
    (sums.run groups).1.length = groups.length := by
  induction groups generalizing sums with
  | nil => rfl
  | cons group rest ih =>
    rw [run]
    dsimp only
    rw [length_cons, ih, length_cons]

theorem run_append (sums : OpenSums α) (first second : List (GroupCost α)) :
    sums.run (first ++ second) =
      ((sums.run first).1 ++ ((sums.run first).2.run second).1,
        ((sums.run first).2.run second).2) := by
  induction first generalizing sums with
  | nil => rfl
  | cons group rest ih =>
    rw [cons_append, run, run]
    dsimp only
    rw [ih]
    rfl

end

variable {α : Type} [AddCommMonoid α] (sums : OpenSums α)

theorem total_eq : sums.total = sums.latest + sums.earlier.sum := by
  rw [total, ← sum_eq_foldl, sum_append, sum_reverse, sum_singleton, add_comm]

theorem total_step (group : GroupCost α) :
    (sums.step group).2.total = sums.total + group.own := by
  rw [step]
  split
  · simp only [total_eq]
    exact add_right_comm _ _ _
  · split
    · simp only [total_eq, sum_cons]
      exact add_comm _ _
    · simp only [total_eq]
      exact add_right_comm _ _ _

theorem total_run (groups : List (GroupCost α)) :
    (sums.run groups).2.total = sums.total + (groups.map GroupCost.own).sum := by
  induction groups generalizing sums with
  | nil => simp [run]
  | cons group rest ih =>
    rw [run]
    dsimp only
    rw [ih, total_step, map_cons, sum_cons, add_assoc]

/-- The outcome of a pass over groups, coming from their end: their totals, and the level and the
latest sum that it arrives at. -/
structure Passes (sums : OpenSums α) (groups : List (GroupCost α)) (totals : List α)
    (level : Int) (latest : α) : Prop where
  totals : (sums.run groups.reverse).1 = totals.reverse
  level : (sums.run groups.reverse).2.level = level
  latest : (sums.run groups.reverse).2.latest = latest

namespace Passes

variable {sums : OpenSums α} {first second : List (GroupCost α)} {totals later : List α}
  {level laterLevel : Int} {latest laterLatest : α}

theorem append (after : sums.Passes second later laterLevel laterLatest)
    (before : (sums.run second.reverse).2.Passes first totals level latest) :
    sums.Passes (first ++ second) (totals ++ later) level latest := by
  constructor
  · rw [reverse_append, run_append, after.totals, before.totals, reverse_append]
  · rw [reverse_append, run_append, before.level]
  · rw [reverse_append, run_append, before.latest]

end Passes

variable {sums}

theorem passes_single {group : GroupCost α} {total latest : α} {earlier : List α} {level : Int}
    (stepped : sums.step group = (total, ⟨latest, earlier, level⟩)) :
    sums.Passes [group] [total] level latest := by
  constructor
  · simp [run, stepped]
  · simp [run, stepped]
  · simp [run, stepped]

/-- A group without parts stands alone if it is the last on its level, and adds to the sum of those
after it if not. -/
theorem passes_leaf {level : Int} (notBelow : sums.level ≤ level) (own : α) :
    sums.Passes [⟨level, own⟩] [own] level
      (own + if sums.level = level then sums.latest else 0) := by
  by_cases same : sums.level = level
  · subst same
    rw [if_pos rfl, add_comm own]
    apply passes_single
    rw [step, if_pos rfl]
  · rw [if_neg same, add_zero]
    apply passes_single
    rw [step, if_neg (Ne.symm same), if_pos (lt_of_le_of_ne notBelow same)]

theorem passes_group {level : Int} (below : sums.level = level + 1) (own : α) :
    sums.Passes [⟨level, own⟩] [own + sums.latest] level (own + sums.latest) := by
  have notSame : ¬ level = sums.level := by omega
  have notDeeper : ¬ sums.level < level := by omega
  rw [add_comm own]
  apply passes_single
  rw [step, if_neg notSame, if_neg notDeeper]

mutual

theorem passes_listing (level : Int) : ∀ (tree : Tree α) (sums : OpenSums α),
    sums.level ≤ level → sums.Passes (listing level tree)
      (tree.subtrees.map fun part => (counted part).sum) level
      ((counted tree).sum +
        if tree.children.isEmpty ∧ sums.level = level then sums.latest else 0)
  | .node own [], sums, notBelow => by
      have passes := passes_leaf notBelow own
      simpa [listing, listingAll, Tree.subtrees, Tree.forestSubtrees, counted, countedAmong,
        Tree.children] using passes
  | .node own (part :: parts), sums, notBelow => by
      have ofParts := passes_listingAll (level + 1) (part :: parts) sums (by omega)
      have passes := ofParts.append (passes_group ofParts.level own)
      rw [ofParts.latest] at passes
      simpa [listing, Tree.subtrees, counted, Tree.children] using passes

theorem passes_listingAll (level : Int) : ∀ (forest : List (Tree α)) (sums : OpenSums α),
    sums.level < level → sums.Passes (listingAll level forest)
      ((Tree.forestSubtrees forest).map fun part => (counted part).sum)
      (if forest.isEmpty then sums.level else level)
      (if forest.isEmpty then sums.latest else (countedAmong forest).sum)
  | [], sums, _ => ⟨rfl, rfl, rfl⟩
  | tree :: rest, sums, below => by
      have ofRest := passes_listingAll level rest sums below
      have notBelow : (sums.run (listingAll level rest).reverse).2.level ≤ level := by
        rw [ofRest.level]
        split
        · exact below.le
        · exact le_refl level
      have passes := ofRest.append (passes_listing level tree _ notBelow)
      -- Only a part without parts lets the sum go on over the groups after it.
      have latestEq : (counted tree).sum +
          (if tree.children.isEmpty ∧
              (sums.run (listingAll level rest).reverse).2.level = level then
            (sums.run (listingAll level rest).reverse).2.latest else 0) =
          (countedAmong (tree :: rest)).sum := by
        rw [ofRest.level, ofRest.latest, countedAmong, sum_append]
        cases rest with
        | nil => simp [countedAmong, below.ne]
        | cons next others => cases tree.children.isEmpty <;> simp
      rw [latestEq, ← map_append] at passes
      exact passes

end

end OpenSums

theorem length_groupTotals {α : Type} [Add α] [Zero α] (groups : List (GroupCost α)) :
    (groupTotals groups).length = groups.length := by
  cases groups with
  | nil => rfl
  | cons root below =>
    rw [groupTotals]
    dsimp only
    rw [length_cons, length_reverse, OpenSums.length_run, length_reverse, length_cons]

/-- The total of the root is the cost of the whole tree, and the other totals are the costs that
they count. -/
theorem groupTotals_listing {α : Type} [AddCommMonoid α] (tree : Tree α) :
    groupTotals (listing 0 tree) =
      tree.labels.sum ::
        (Tree.forestSubtrees tree.children).map fun part => (counted part).sum := by
  rcases tree with ⟨own, parts⟩
  have passes := OpenSums.passes_listingAll 1 parts ⟨(0 : α), [], 0⟩ (by simp)
  have nothing : (⟨0, [], 0⟩ : OpenSums α).total = 0 := by simp [OpenSums.total_eq]
  have total := OpenSums.total_run ⟨(0 : α), [], 0⟩ (listingAll 1 parts).reverse
  rw [map_reverse, sum_reverse, map_own_listingAll, nothing, zero_add] at total
  rw [listing, Int.zero_add, groupTotals]
  dsimp only
  rw [passes.totals, total, reverse_reverse, Tree.labels_node, sum_cons, add_comm own]
  rfl

/-! ## Other kinds of amounts -/

section Map

variable {α β : Type} [Add α] [Add β] {change : α → β}

def GroupCost.map (change : α → β) (group : GroupCost α) : GroupCost β :=
  ⟨group.level, change group.own⟩

namespace OpenSums

def map (change : α → β) (sums : OpenSums α) : OpenSums β :=
  ⟨change sums.latest, sums.earlier.map change, sums.level⟩

variable (additive : ∀ a b, change (a + b) = change a + change b)

include additive

theorem step_map (sums : OpenSums α) (group : GroupCost α) :
    (sums.map change).step (group.map change) =
      (change (sums.step group).1, (sums.step group).2.map change) := by
  by_cases same : group.level = sums.level
  · simp [step, map, GroupCost.map, same, additive]
  · by_cases deeper : sums.level < group.level
    · simp [step, map, GroupCost.map, same, deeper]
    · simp [step, map, GroupCost.map, same, deeper, additive]

theorem run_map (sums : OpenSums α) (groups : List (GroupCost α)) :
    (sums.map change).run (groups.map (GroupCost.map change)) =
      ((sums.run groups).1.map change, (sums.run groups).2.map change) := by
  induction groups generalizing sums with
  | nil => rfl
  | cons group rest ih =>
    rw [map_cons, run, run]
    dsimp only
    rw [step_map additive, ih]
    rfl

theorem total_map [Zero α] [Zero β] (zero : change 0 = 0) (sums : OpenSums α) :
    (sums.map change).total = change sums.total := by
  have open_map : (sums.map change).earlier.reverse ++ [(sums.map change).latest] =
      (sums.earlier.reverse ++ [sums.latest]).map change := by
    simp [map]
  rw [total, total, open_map, ← zero]
  generalize sums.earlier.reverse ++ [sums.latest] = amounts
  generalize (0 : α) = start
  induction amounts generalizing start with
  | nil => rfl
  | cons amount rest ih => rw [map_cons, foldl_cons, ← additive, ih, foldl_cons]

end OpenSums

theorem groupTotals_map [Zero α] [Zero β] (additive : ∀ a b, change (a + b) = change a + change b)
    (zero : change 0 = 0) (groups : List (GroupCost α)) :
    groupTotals (groups.map (GroupCost.map change)) = (groupTotals groups).map change := by
  cases groups with
  | nil => rfl
  | cons root below =>
    have ran := OpenSums.run_map additive ⟨0, [], root.level⟩ below.reverse
    rw [OpenSums.map, zero, map_nil, map_reverse] at ran
    rw [map_cons, groupTotals, groupTotals]
    dsimp only [GroupCost.map] at ran ⊢
    rw [ran, OpenSums.total_map additive zero, map_cons, additive, map_reverse]

end Map

end ErpLens.Stock

namespace ErpLens.Value

theorem putEntry_append_cons {key old new : Value} {before after : Entries}
    (others : ∀ entry ∈ before, same entry.1 key = false) (itself : same key key = true) :
    putEntry key new (before ++ (key, old) :: after) = before ++ (key, new) :: after := by
  induction before with
  | nil => simp [putEntry, itself]
  | cons entry rest ih =>
    rw [forall_mem_cons] at others
    simp only [cons_append, putEntry, others.1, Bool.false_eq_true, if_false, ih others.2]

end ErpLens.Value

namespace ErpLens.Stock

/-! ## Tables of groups -/

/-- A row of a table of groups: the bounds between which the bounds of its parts lie, which are its
key, and its fields. -/
structure GroupRow where
  left : Int
  right : Int
  level : Int
  name : String
  isGroup : Int
  own : Int
  total : Int := 0

namespace GroupRow

variable (row : GroupRow)

def bounds : Int × Int :=
  (row.left, row.right)

def key : Value :=
  .tuple [.int row.left, .int row.right]

def toValue : Value :=
  .ofFields [("level", .int row.level), ("name", .str row.name), ("is_group", .int row.isGroup),
    ("self_value", .int row.own), ("agg_value", .int row.total)]

def cost : GroupCost Int :=
  ⟨row.level, row.own⟩

def withTotal (total : Int) : GroupRow :=
  { row with total }

theorem same_key (row other : GroupRow) :
    Value.same row.key other.key = decide (row.bounds = other.bounds) := by
  rw [Bool.eq_iff_iff]
  simp [key, bounds, Value.same, Value.sameItems, Value.same_int]

theorem groupOf_toValue :
    groupOf row.toValue = .ok (row.cost.map Num.int) := by
  have level : row.toValue.key "level" = .ok (.int row.level) := Value.key_ofFields rfl
  have own : row.toValue.key "self_value" = .ok (.int row.own) := Value.key_ofFields rfl
  rw [groupOf, levelOf, level, own]
  rfl

theorem setKey_toValue (total : Int) :
    row.toValue.setKey "agg_value" (.int total) = .ok (row.withTotal total).toValue := by
  simp [toValue, Value.ofFields, Value.setKey, Value.setItem, Value.isHashable, Value.putEntry,
    Value.same_str, withTotal]

end GroupRow

/-- The table of groups. -/
def groupTable (rows : List GroupRow) : Value :=
  .dict .plain (rows.map fun row => (row.key, row.toValue))

theorem setTotal_groupTable {before after : List GroupRow} {row : GroupRow}
    (others : ∀ other ∈ before, other.bounds ≠ row.bounds) (total : Int) :
    setTotal (groupTable (before ++ row :: after)) ((row.key, row.toValue), .int total) =
      .ok (groupTable (before ++ row.withTotal total :: after)) := by
  have hashable : row.key.isHashable = true := rfl
  have placed : Value.putEntry row.key (row.withTotal total).toValue
      ((before ++ row :: after).map fun row => (row.key, row.toValue)) =
        (before ++ row.withTotal total :: after).map fun row => (row.key, row.toValue) := by
    rw [map_append, map_cons, Value.putEntry_append_cons, map_append, map_cons]
    · rfl
    · intro entry entryMem
      rcases mem_map.mp entryMem with ⟨other, otherMem, rfl⟩
      rw [GroupRow.same_key]
      exact decide_eq_false (others other otherMem)
    · rw [GroupRow.same_key]
      exact decide_eq_true rfl
  rw [setTotal, Num.toValue, GroupRow.setKey_toValue, ok_bind, groupTable, Value.setItem,
    if_pos hashable, placed]
  rfl

theorem foldlM_setTotal {before after : List GroupRow} {totals : List Int}
    (distinct : ((before ++ after).map GroupRow.bounds).Nodup)
    (sameLength : after.length = totals.length) :
    ((after.map fun row => (row.key, row.toValue)).zip (totals.map Num.int)).foldlM setTotal
        (groupTable (before ++ after)) =
      .ok (groupTable (before ++ List.zipWith GroupRow.withTotal after totals)) := by
  induction after generalizing before totals with
  | nil => rfl
  | cons row rest ih =>
    rcases totals with _ | ⟨total, others⟩
    · simp at sameLength
    · have apart : ∀ other ∈ before, other.bounds ≠ row.bounds := by
        intro other otherMem same
        rw [map_append, nodup_append'] at distinct
        exact distinct.2.2 (mem_map_of_mem otherMem) (by simp [same])
      have later := @ih (before ++ [row.withTotal total]) others
        (by simpa [GroupRow.bounds, GroupRow.withTotal] using distinct)
        (by simpa using sameLength)
      rw [append_assoc, singleton_append] at later
      rw [map_cons, map_cons, zip_cons_cons, foldlM_cons,
        setTotal_groupTable apart, ok_bind, later, zipWith_cons_cons, append_assoc]
      rfl

/-- Every group of the table gets its total and keeps all else. -/
theorem addGroupTotals_groupTable {rows : List GroupRow} (nonempty : rows ≠ [])
    (distinct : (rows.map GroupRow.bounds).Nodup) :
    addGroupTotals (groupTable rows) = .ok (groupTable
      (List.zipWith GroupRow.withTotal rows (groupTotals (rows.map GroupRow.cost)))) := by
  have filled : (rows.map fun row => (row.key, row.toValue)).isEmpty = false := by
    simpa using nonempty
  have read : (rows.map fun row => (row.key, row.toValue)).mapM (fun entry => groupOf entry.2) =
      .ok ((rows.map GroupRow.cost).map (GroupCost.map Num.int)) := by
    rw [mapM_map, map_map]
    exact mapM_eq_ok fun row _ => row.groupOf_toValue
  have totalsEq : groupTotals ((rows.map GroupRow.cost).map (GroupCost.map Num.int)) =
      (groupTotals (rows.map GroupRow.cost)).map Num.int :=
    groupTotals_map (fun _ _ => rfl) rfl _
  have written := @foldlM_setTotal [] rows (groupTotals (rows.map GroupRow.cost)) distinct
    (by rw [length_groupTotals, length_map])
  rw [addGroupTotals, groupTable, Value.entries, ok_bind, filled]
  simp only [Bool.false_eq_true, if_false]
  rw [read, ok_bind, totalsEq]
  exact written

/-! ## Right and wrong totals -/

/-- The totals that groups get: they list a tree, whose root gets the cost of the whole tree, while
any other group gets the costs that it counts, which is right exactly if those that it leaves out
add up to nothing. -/
structure GetsTotals {α : Type} [AddCommGroup α] (groups : List (GroupCost α)) (tree : Tree α)
    (totals : List α) : Prop where
  listed : listing 0 tree = groups
  given : totals = tree.labels.sum ::
    (Tree.forestSubtrees tree.children).map fun part => (counted part).sum
  right_iff : ∀ part ∈ Tree.forestSubtrees tree.children,
    ((counted part).sum = part.labels.sum ↔ (leftOut part).sum = 0)

theorem exists_getsTotals {α : Type} [AddCommGroup α] {groups : List (GroupCost α)}
    (leveled : Leveled groups) : ∃ tree, GetsTotals groups tree (groupTotals groups) := by
  rcases exists_listing leveled with ⟨tree, rfl⟩
  refine ⟨tree, rfl, groupTotals_listing tree, ?_⟩
  intro part _
  rw [← (counted_append_leftOut part).sum_eq, sum_append]
  exact left_eq_add

/--
Groups of which the first is at level zero, and the others are below it and rise by at most one
level, list a tree. For all amounts that are added without rounding, the root of this tree gets the
total of all its costs. Any other group gets its own cost, that of its leading parts without parts
and what its first part with parts counts, and so it lacks all costs after that part. A table of
groups with whole costs comes back with these totals and is otherwise unchanged.
-/
theorem groupTotals_leave_out_later_parts {α : Type} [AddCommGroup α] :
    (∀ groups : List (GroupCost α), Leveled groups →
      ∃ tree, GetsTotals groups tree (groupTotals groups)) ∧
    ∀ rows : List GroupRow, (rows.map GroupRow.bounds).Nodup → Leveled (rows.map GroupRow.cost) →
      ∃ tree totals, GetsTotals (rows.map GroupRow.cost) tree totals ∧
        addGroupTotals (groupTable rows) =
          .ok (groupTable (List.zipWith GroupRow.withTotal rows totals)) := by
  constructor
  · intro groups leveled
    exact exists_getsTotals leveled
  · intro rows distinct leveled
    rcases exists_getsTotals leveled with ⟨tree, gets⟩
    refine ⟨tree, _, gets, addGroupTotals_groupTable ?_ distinct⟩
    rintro rfl
    exact leveled

/-- A group with a part that has parts and another part after it, and a second group. -/
def branchedTree : Tree Int :=
  .node 1 [.node 10 [.node 100 [.node 1000 []], .node 10000 []], .node 100000 []]

/-- A group with two parts, of which the first has parts of its own. -/
def branchedRows : List GroupRow :=
  [⟨1, 12, 0, "All", 1, 1, 0⟩, ⟨2, 9, 1, "Raw", 1, 10, 0⟩, ⟨3, 6, 2, "Metal", 1, 100, 0⟩,
    ⟨4, 5, 3, "Steel", 0, 1000, 0⟩, ⟨7, 8, 2, "Wood", 0, 10000, 0⟩,
    ⟨10, 11, 1, "Goods", 0, 100000, 0⟩]

/-- The group gets a total without the part that comes after the one with parts. -/
theorem total_of_group_lacks_later_part :
    listing 0 branchedTree = branchedRows.map GroupRow.cost ∧
      Leveled (branchedRows.map GroupRow.cost) ∧
      branchedTree.subtrees.map (fun part => part.labels.sum) =
        [111111, 11110, 1100, 1000, 10000, 100000] ∧
      addGroupTotals (groupTable branchedRows) = .ok (groupTable
        (List.zipWith GroupRow.withTotal branchedRows
          [111111, 1110, 1100, 1000, 10000, 100000])) := by
  have totals : groupTotals (branchedRows.map GroupRow.cost) =
      [111111, 1110, 1100, 1000, 10000, 100000] := by decide +kernel
  have distinct : (branchedRows.map GroupRow.bounds).Nodup := by decide +kernel
  have nonempty : branchedRows ≠ [] := List.cons_ne_nil _ _
  refine ⟨by decide +kernel, by decide +kernel, by decide +kernel, ?_⟩
  rw [addGroupTotals_groupTable nonempty distinct, totals]

theorem groupTotals_leave_out_later_parts_of_branchedRows :
    (branchedRows.map GroupRow.bounds).Nodup ∧ Leveled (branchedRows.map GroupRow.cost) ∧
      ∃ tree totals, GetsTotals (branchedRows.map GroupRow.cost) tree totals ∧
        addGroupTotals (groupTable branchedRows) =
          .ok (groupTable (List.zipWith GroupRow.withTotal branchedRows totals)) := by
  have distinct : (branchedRows.map GroupRow.bounds).Nodup := by decide +kernel
  have leveled : Leveled (branchedRows.map GroupRow.cost) := by decide +kernel
  exact ⟨distinct, leveled,
    (groupTotals_leave_out_later_parts (α := Int)).2 branchedRows distinct leveled⟩

end ErpLens.Stock
