import ErpLens.Manufacturing.BillTree
import ErpLens.Proofs.LevelOrder
import Mathlib.Data.List.Shortlex

/-!
# Bills level by level

A queue that starts with a bill gives the items below it in the order of their positions: shorter
ways down come first, and of ways of the same length the one further to the left.
-/

open List

namespace ErpLens.Tree

universe u

variable {α : Type u}

/-! ## The queue takes one level after the other -/

/-- While the trees at the front of a queue leave it, their children come together behind it. -/
theorem queueBelow_append (front back : List (Tree α)) :
    queueBelow (front ++ back) =
      (front.flatMap children).map label ++ queueBelow (back ++ front.flatMap children) := by
  induction front generalizing back with
  | nil => simp
  | cons tree rest ih =>
    rw [cons_append, queueBelow, append_assoc, ih (back ++ tree.children)]
    simp only [flatMap_cons, map_append, append_assoc]

theorem levelOrder_eq_append_queueBelow (forest : List (Tree α)) :
    levelOrder forest = forest.map label ++ queueBelow forest := by
  fun_induction levelOrder forest with
  | case1 => simp [queueBelow]
  | case2 tree rest ih =>
    have down := queueBelow_append (tree :: rest) []
    rw [append_nil, nil_append] at down
    rw [ih, down]

/-! ## Positions -/

/-- The subtree that a way down leads to. -/
def subtreeAt (tree : Tree α) : List Nat → Option (Tree α)
  | [] => some tree
  | place :: rest => tree.children[place]?.bind fun child => child.subtreeAt rest

/-- The ways down to a depth, from left to right. -/
def positionsAt (tree : Tree α) : Nat → List (List Nat)
  | 0 => [[]]
  | depth + 1 => tree.children.zipIdx.flatMap fun (child, place) =>
    (child.positionsAt depth).map (place :: ·)

variable {position : List Nat}

theorem mem_positionsAt {tree : Tree α} {depth : Nat} :
    position ∈ tree.positionsAt depth ↔
      position.length = depth ∧ (tree.subtreeAt position).isSome := by
  induction depth generalizing tree position with
  | zero => cases position <;> simp [positionsAt, subtreeAt]
  | succ depth ih =>
    cases position with
    | nil => simp [positionsAt]
    | cons place rest =>
      have split : place :: rest ∈ tree.positionsAt (depth + 1) ↔
          ∃ child, tree.children[place]? = some child ∧ rest ∈ child.positionsAt depth := by
        simp [positionsAt, mem_zipIdx_iff_getElem?]
      rw [split, subtreeAt, length_cons]
      cases tree.children[place]? with
      | none => simp
      | some child => simp [ih]

theorem map_subtreeAt_positionsAt (tree : Tree α) (depth : Nat) :
    (tree.positionsAt depth).map tree.subtreeAt = (tree.atDepth depth).map some := by
  induction depth generalizing tree with
  | zero => rfl
  | succ depth ih =>
    have below : ∀ entry ∈ tree.children.zipIdx,
        ((entry.1.positionsAt depth).map (entry.2 :: ·)).map tree.subtreeAt =
          (entry.1.atDepth depth).map some := by
      intro entry entry_mem
      rw [← ih, map_map]
      apply map_congr_left
      intro position _
      simp [subtreeAt, mem_zipIdx_iff_getElem?.mp entry_mem]
    have forgotten := flatMap_map Prod.fst
      (fun child : Tree α => (child.atDepth depth).map some) (l := tree.children.zipIdx)
    rw [zipIdx_map_fst] at forgotten
    rw [positionsAt, map_flatMap, flatMap_congr below, atDepth, map_flatMap, forgotten]

theorem pairwise_positionsAt (tree : Tree α) (depth : Nat) :
    (tree.positionsAt depth).Pairwise (List.Shortlex (· < ·)) := by
  induction depth generalizing tree with
  | zero => simp [positionsAt]
  | succ depth ih =>
    rw [positionsAt, pairwise_flatMap]
    constructor
    · intro entry _
      rw [pairwise_map]
      exact (ih entry.1).imp List.Shortlex.cons
    · have places : tree.children.zipIdx.Pairwise fun left right => left.2 < right.2 := by
        rw [← pairwise_map, zipIdx_map_snd]
        exact pairwise_lt_range'
      refine places.imp fun {left right} before leftWay leftMem rightWay rightMem => ?_
      obtain ⟨leftRest, leftAt, rfl⟩ := mem_map.mp leftMem
      obtain ⟨rightRest, rightAt, rfl⟩ := mem_map.mp rightMem
      have sameLength : leftRest.length = rightRest.length := by
        rw [(mem_positionsAt.mp leftAt).1, (mem_positionsAt.mp rightAt).1]
      exact .of_lex (congrArg (· + 1) sameLength) (.rel before)

theorem size_le_of_mem_forest {tree : Tree α} {forest : List (Tree α)} (mem : tree ∈ forest) :
    tree.size ≤ forestSize forest := by
  obtain ⟨before, after, rfl⟩ := append_of_mem mem
  rw [forestSize_append, forestSize]
  omega

theorem length_lt_size {tree subtree : Tree α}
    (found : tree.subtreeAt position = some subtree) : position.length < tree.size := by
  rw [size_eq]
  induction position generalizing tree with
  | nil => simp
  | cons place rest ih =>
    obtain ⟨child, atPlace, below⟩ := Option.bind_eq_some_iff.mp found
    have shorter := ih below
    have smaller := size_le_of_mem_forest (mem_of_getElem? atPlace)
    rw [size_eq] at smaller
    rw [length_cons]
    omega

/-- All ways down from the root, but the one that stays there. -/
def positionsBelow (tree : Tree α) : List (List Nat) :=
  (List.range (tree.size - 1)).flatMap fun depth => tree.positionsAt (depth + 1)

/-- The positions are those below the root at which there is a node. -/
theorem mem_positionsBelow {tree : Tree α} :
    position ∈ tree.positionsBelow ↔ position ≠ [] ∧ (tree.subtreeAt position).isSome := by
  simp only [positionsBelow, mem_flatMap, mem_range, mem_positionsAt]
  constructor
  · rintro ⟨depth, _, length, found⟩
    exact ⟨ne_nil_of_length_eq_add_one length, found⟩
  · rintro ⟨nonempty, found⟩
    obtain ⟨subtree, held⟩ := Option.isSome_iff_exists.mp found
    have short := length_lt_size held
    have long := length_pos_iff.mpr nonempty
    exact ⟨position.length - 1, by omega, by omega, found⟩

/-- The positions are listed level by level, from left to right. -/
theorem pairwise_positionsBelow (tree : Tree α) :
    tree.positionsBelow.Pairwise (List.Shortlex (· < ·)) := by
  rw [positionsBelow, pairwise_flatMap]
  refine ⟨fun depth _ => tree.pairwise_positionsAt _, ?_⟩
  refine pairwise_lt_range.imp fun {low high} lower left leftMem right rightMem => ?_
  apply List.Shortlex.of_length_lt
  rw [(mem_positionsAt.mp leftMem).1, (mem_positionsAt.mp rightMem).1]
  omega

theorem breadthFirst_eq_cons (tree : Tree α) :
    tree.breadthFirst =
      tree :: (List.range (tree.size - 1)).flatMap fun depth => tree.atDepth (depth + 1) := by
  rw [breadthFirst, size_eq, range_succ_eq_map, flatMap_cons, flatMap_map]
  rfl

theorem map_some_descendants (tree : Tree α) :
    tree.descendants.map some =
      tree.positionsBelow.map fun position => (tree.subtreeAt position).map label := by
  have walked : tree.label :: tree.descendants = tree.breadthFirst.map label := by
    rw [← walkSubtrees_eq_breadthFirst, ← walk_eq_map, walk, levelOrder_eq_append_queueBelow]
    rfl
  rw [breadthFirst_eq_cons, map_cons] at walked
  calc tree.descendants.map some
    _ = (tree.positionsBelow.map tree.subtreeAt).map (Option.map label) := by
        simp only [(List.cons.inj walked).2, positionsBelow, map_flatMap,
          map_subtreeAt_positionsAt, map_map]
        rfl
    _ = _ := map_map

end ErpLens.Tree

namespace ErpLens.Manufacturing

/-- The item at a position below a bill. -/
def itemAt (bill : Value) : List Nat → Option Value
  | [] => some bill
  | place :: rest => (childItems bill)[place]?.bind fun child => itemAt child rest

/-- An item that lists what it is made of, and so does everything below it. -/
inductive IsBill : Value → Prop
  | mk {item : Value} {items : List Value} (listed : item.field? "child_items" = some (.list items))
      (below : ∀ child ∈ items, IsBill child) : IsBill item

theorem treeOf_eq (item : Value) : treeOf item = .node item ((childItems item).map treeOf) := by
  rw [treeOf, attach_map_val (f := treeOf)]

theorem subtreeAt_treeOf (bill : Value) (position : List Nat) :
    (treeOf bill).subtreeAt position = (itemAt bill position).map treeOf := by
  induction position generalizing bill with
  | nil => rfl
  | cons place rest ih =>
    rw [treeOf_eq, Tree.subtreeAt, Tree.children_node, getElem?_map, itemAt]
    cases (childItems bill)[place]? with
    | none => rfl
    | some child => exact ih child

theorem map_label_treeOf (item? : Option Value) : (item?.map treeOf).map Tree.label = item? := by
  cases item? with
  | none => rfl
  | some item => rw [Option.map_some, treeOf_eq]; rfl

theorem map_some_descendants_treeOf (bill : Value) :
    (treeOf bill).descendants.map some = (treeOf bill).positionsBelow.map (itemAt bill) := by
  simp only [Tree.map_some_descendants, subtreeAt_treeOf, map_label_treeOf]

theorem IsBill.itemAt {bill item : Value} {position : List Nat} (isBill : IsBill bill)
    (found : itemAt bill position = some item) : IsBill item := by
  induction position generalizing bill with
  | nil =>
    rw [Manufacturing.itemAt, Option.some.injEq] at found
    exact found ▸ isBill
  | cons place rest ih =>
    obtain ⟨child, atPlace, below⟩ := Option.bind_eq_some_iff.mp found
    cases isBill with
    | mk listed bills =>
      rw [childItems, listed] at atPlace
      exact ih (bills child (mem_of_getElem? atPlace)) below

theorem forM_requireChildItems {items : List Value} (bills : ∀ item ∈ items, IsBill item) :
    items.forM requireChildItems = .ok () := by
  induction items with
  | nil => rfl
  | cons item rest ih =>
    rw [forall_mem_cons] at bills
    obtain ⟨listed, _⟩ := bills.1
    have passes : requireChildItems item = .ok () := by
      rw [requireChildItems, Value.field, listed]
      rfl
    rw [forM_eq_forM, forM_cons, passes]
    exact ih bills.2

theorem IsBill.itemsBelow {bill : Value} (isBill : IsBill bill) :
    itemsBelow bill = .ok (treeOf bill).descendants := by
  have lists : ∀ item ∈ bill :: (treeOf bill).descendants, IsBill item := by
    rw [forall_mem_cons]
    refine ⟨isBill, fun item itemMem => ?_⟩
    have found := mem_map_of_mem (f := some) itemMem
    rw [map_some_descendants_treeOf] at found
    obtain ⟨position, _, isItem⟩ := mem_map.mp found
    exact isBill.itemAt isItem
  have checked : (bill :: (treeOf bill).descendants).forM requireChildItems = .ok () :=
    forM_requireChildItems lists
  rw [Manufacturing.itemsBelow, checked]
  rfl

/-- For every bill, going down with a queue ends and lists the items at all positions below it, each
position once: by depth, and at the same depth from left to right. From the end of the list, no item
comes before one that is below it. -/
theorem itemsBelow_in_level_order {bill : Value} (isBill : IsBill bill) :
    ∃ (items : List Value) (positions : List (List Nat)),
      itemsBelow bill = .ok items ∧ items.map some = positions.map (itemAt bill) ∧
      (∀ position, position ∈ positions ↔ position ≠ [] ∧ (itemAt bill position).isSome) ∧
      positions.Pairwise (Shortlex (· < ·)) ∧
      positions.reverse.Pairwise fun earlier later => ¬ earlier <+: later := by
  refine ⟨_, (treeOf bill).positionsBelow, isBill.itemsBelow, map_some_descendants_treeOf bill, ?_,
    Tree.pairwise_positionsBelow _, ?_⟩
  · intro position
    rw [Tree.mem_positionsBelow, subtreeAt_treeOf, Option.isSome_map]
  · rw [List.pairwise_reverse]
    refine (Tree.pairwise_positionsBelow _).imp fun {first second} before isBelow => ?_
    have notLonger : first.length ≤ second.length := by
      rcases List.shortlex_def.mp before with shorter | ⟨sameLength, _⟩ <;> omega
    rw [isBelow.eq_of_length_le notLonger] at before
    exact irrefl first before

/-! ## A bill with a part in two places -/

def partOf (code : String) (items : List Value) : Value :=
  .object "BOMTree" [("item_code", .str code), ("child_items", .list items)]

theorem isBill_partOf {code : String} {items : List Value} :
    IsBill (partOf code items) ↔ ∀ child ∈ items, IsBill child := by
  constructor
  · rintro ⟨listed, below⟩
    cases listed
    exact below
  · exact .mk rfl

/-- A bill with one part in two places. -/
def bicycle : Value :=
  partOf "bicycle" [partOf "front" [partOf "wheel" []],
    partOf "rear" [partOf "wheel" [], partOf "chain" []], partOf "frame" []]

theorem isBill_bicycle : IsBill bicycle := by
  simp [bicycle, isBill_partOf]

theorem itemsBelow_bicycle : IsBill bicycle ∧
    ∃ (items : List Value) (positions : List (List Nat)),
      itemsBelow bicycle = .ok items ∧ items.map some = positions.map (itemAt bicycle) ∧
      positions.Pairwise (Shortlex (· < ·)) := by
  obtain ⟨items, positions, returned, atPositions, _, sorted, _⟩ :=
    itemsBelow_in_level_order isBill_bicycle
  exact ⟨isBill_bicycle, items, positions, returned, atPositions, sorted⟩

end ErpLens.Manufacturing
