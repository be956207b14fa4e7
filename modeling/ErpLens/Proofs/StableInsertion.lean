import Mathlib
import ErpLens.Accounts.BinaryInsertion

/-!
# Binary insertion as a stable sort

Where a relation compares items by a rank, binary insertion puts them in order and keeps the order
of those with the same rank. Only one list does both.
-/

open List

namespace ErpLens.Accounts

variable {α β : Type} [LinearOrder β] {rank : α → β} {below : α → α → Bool}
  {items sorted others : List α} {item : α}

/-- Ranks do not fall. -/
abbrev Ordered (rank : α → β) (items : List α) : Prop :=
  items.Pairwise fun a b => rank a ≤ rank b

/-- The items in the order of their ranks, those of one rank in the order in which they came. -/
structure StableOrder (rank : α → β) (items sorted : List α) : Prop where
  ordered : Ordered rank sorted
  stable : ∀ level, sorted.filter (rank · = level) = items.filter (rank · = level)

theorem filter_rank_eq_nil {level : β} (apart : ∀ item ∈ items, rank item ≠ level) :
    items.filter (rank · = level) = [] := by
  simpa [filter_eq_nil_iff] using apart

theorem Ordered.head_le {first : α} {rest : List α} (ordered : Ordered rank (first :: rest))
    (itemMem : item ∈ first :: rest) : rank first ≤ rank item := by
  rcases mem_cons.mp itemMem with rfl | later
  · exact le_rfl
  · exact rel_of_pairwise_cons ordered later

namespace StableOrder

theorem mem_iff (order : StableOrder rank items sorted) : item ∈ sorted ↔ item ∈ items := by
  have ofRank := congrArg (item ∈ ·) (order.stable (rank item))
  simpa using ofRank

theorem eq_of_ordered (order : StableOrder rank items sorted) (ordered : Ordered rank items) :
    sorted = items := by
  induction sorted generalizing items with
  | nil =>
    refine (eq_nil_iff_forall_not_mem.mpr fun item itemMem => ?_).symm
    exact not_mem_nil (order.mem_iff.mpr itemMem)
  | cons first rest ih =>
    cases items with
    | nil => exact absurd (order.mem_iff.mp mem_cons_self) not_mem_nil
    | cons second later =>
      -- Both lists start with the least rank, and with the first item that has it.
      have sameRank : rank first = rank second :=
        le_antisymm (order.ordered.head_le (order.mem_iff.mpr mem_cons_self))
          (ordered.head_le (order.mem_iff.mp mem_cons_self))
      have sameFirst : first = second := by
        have ofRank := order.stable (rank second)
        simp only [filter_cons, sameRank, decide_true, if_true] at ofRank
        exact (List.cons.inj ofRank).1
      subst sameFirst
      refine congrArg (first :: ·) (ih ⟨order.ordered.tail, fun level => ?_⟩ ordered.tail)
      have ofLevel := order.stable level
      by_cases isLevel : rank first = level
      · simpa [isLevel] using ofLevel
      · simpa [isLevel] using ofLevel

/-- The ranks leave no choice: every stable sort gives the same list. -/
theorem iff_eq (order : StableOrder rank items sorted) :
    StableOrder rank items others ↔ others = sorted := by
  constructor
  · intro other
    refine eq_of_ordered ⟨other.ordered, fun level => ?_⟩ order.ordered
    rw [other.stable, order.stable]
  · rintro rfl
    exact order

theorem map {γ : Type} {of : γ → α} {given arranged : List γ}
    (order : StableOrder (rank ∘ of) given arranged) :
    StableOrder rank (given.map of) (arranged.map of) := by
  refine ⟨pairwise_map.mpr order.ordered, fun level => ?_⟩
  rw [filter_map, filter_map]
  exact congrArg (List.map of) (order.stable level)

end StableOrder

/-! ## The first run -/

/-- A relation compares items by their ranks. -/
def Agrees (below : α → α → Bool) (rank : α → β) (items : List α) : Prop :=
  ∀ a ∈ items, ∀ b ∈ items, below a b ↔ rank a < rank b

theorem Agrees.mono (agrees : Agrees below rank items) (within : others ⊆ items) :
    Agrees below rank others :=
  fun a aMem b bMem => agrees a (within aMem) b (within bMem)

theorem rising_ordered {last : α} (agrees : Agrees below rank (last :: items)) :
    Ordered rank (last :: (rising below last items).1) := by
  rw [Ordered, ← isChain_iff_pairwise]
  induction items generalizing last with
  | nil => simp [rising]
  | cons next rest ih =>
    rw [rising]
    split
    · simp
    · rename_i notBelow
      refine isChain_cons_cons.mpr ⟨?_, ih (agrees.mono (subset_cons_self _ _))⟩
      · exact not_lt.mp (mt (agrees next (by simp) last (by simp)).mpr notBelow)

theorem falling_falls {last : α} (agrees : Agrees below rank (last :: items)) :
    (last :: (falling below last items).1).Pairwise fun a b => rank b < rank a := by
  rw [← isChain_iff_pairwise]
  induction items generalizing last with
  | nil => simp [falling]
  | cons next rest ih =>
    rw [falling]
    split
    · rename_i isBelow
      refine isChain_cons_cons.mpr ⟨?_, ih (agrees.mono (subset_cons_self _ _))⟩
      · exact (agrees next (by simp) last (by simp)).mp isBelow
    · simp

/-! ## Inserting -/

theorem rank_le_of_getElem? {place : Nat} (ordered : Ordered rank sorted)
    (found : sorted[place]? = some item) :
    (∀ other ∈ sorted.take (place + 1), rank other ≤ rank item) ∧
      ∀ other ∈ sorted.drop place, rank item ≤ rank other := by
  rcases List.getElem?_eq_some_iff.mp found with ⟨inside, rfl⟩
  constructor
  · intro other otherMem
    rcases mem_take_iff_getElem.mp otherMem with ⟨index, indexLt, rfl⟩
    rcases Nat.eq_or_lt_of_le (show index ≤ place by omega) with rfl | before
    · exact le_rfl
    · exact pairwise_iff_getElem.mp ordered index place _ inside before
  · intro other otherMem
    have later : Ordered rank (sorted.drop place) := ordered.drop
    rw [← getElem_cons_drop inside] at later otherMem
    exact later.head_le otherMem

theorem placeOf_divides (below_iff : ∀ other ∈ sorted, below item other ↔ rank item < rank other)
    (ordered : Ordered rank sorted) {low high : Nat} (lowLe : low ≤ high)
    (highLe : high ≤ sorted.length) (before : ∀ other ∈ sorted.take low, rank other ≤ rank item)
    (after : ∀ other ∈ sorted.drop high, rank item < rank other) :
    (∀ other ∈ sorted.take (placeOf below item sorted low high), rank other ≤ rank item) ∧
      ∀ other ∈ sorted.drop (placeOf below item sorted low high), rank item < rank other := by
  fun_induction placeOf below item sorted low high with
  | case1 low high lowLt middle missing =>
    have : sorted.length ≤ middle := by simpa using missing
    omega
  | case2 low high lowLt middle other found isBelow ih =>
    refine ih (by omega) (by omega) before fun later laterMem => ?_
    exact ((below_iff other (mem_of_getElem? found)).mp isBelow).trans_le
      ((rank_le_of_getElem? ordered found).2 later laterMem)
  | case3 low high lowLt middle other found notBelow ih =>
    refine ih (by omega) highLe (fun earlier earlierMem => ?_) after
    refine ((rank_le_of_getElem? ordered found).1 earlier earlierMem).trans ?_
    exact not_lt.mp (mt (below_iff other (mem_of_getElem? found)).mpr notBelow)
  | case4 low high notLt =>
    obtain rfl : low = high := by omega
    exact ⟨before, after⟩

theorem stableOrder_between {front back : List α} (ordered : Ordered rank (front ++ back))
    (before : ∀ other ∈ front, rank other ≤ rank item)
    (after : ∀ other ∈ back, rank item < rank other) :
    StableOrder rank (front ++ back ++ [item]) (front ++ item :: back) := by
  rcases pairwise_append.mp ordered with ⟨frontOrdered, backOrdered, across⟩
  constructor
  · refine pairwise_append.mpr ⟨frontOrdered, pairwise_cons.mpr ⟨?_, backOrdered⟩, ?_⟩
    · exact fun other otherMem => (after other otherMem).le
    · exact fun earlier earlierMem =>
        forall_mem_cons.mpr ⟨before earlier earlierMem, across earlier earlierMem⟩
  · intro level
    by_cases isLevel : rank item = level
    · have noneAfter : back.filter (rank · = level) = [] :=
        filter_rank_eq_nil fun other otherMem => isLevel ▸ (after other otherMem).ne'
      simp [isLevel, noneAfter]
    · simp [isLevel]

theorem insertInto_stableOrder
    (below_iff : ∀ other ∈ sorted, below item other ↔ rank item < rank other)
    (ordered : Ordered rank sorted) :
    StableOrder rank (sorted ++ [item]) (insertInto below sorted item) := by
  rcases placeOf_divides below_iff ordered (Nat.zero_le _) le_rfl (by simp) (by simp) with
    ⟨before, after⟩
  have inserted := stableOrder_between (by rwa [take_append_drop]) before after
  rwa [take_append_drop] at inserted

theorem foldl_insertInto_stableOrder (agrees : Agrees below rank (sorted ++ items))
    (ordered : Ordered rank sorted) :
    StableOrder rank (sorted ++ items) (items.foldl (insertInto below) sorted) := by
  induction items generalizing sorted with
  | nil => exact ⟨ordered, by simp⟩
  | cons item rest ih =>
    have inserted : StableOrder rank (sorted ++ [item]) (insertInto below sorted item) :=
      insertInto_stableOrder (fun _ otherMem => agrees _ (by simp) _ (by simp [otherMem])) ordered
    have sameItems : (insertInto below sorted item ++ rest).Perm (sorted ++ item :: rest) :=
      ((insertInto_perm below sorted item).append_right rest).trans perm_middle.symm
    have later := ih (agrees.mono sameItems.subset) inserted.ordered
    refine ⟨later.ordered, fun level => ?_⟩
    rw [foldl_cons, later.stable, filter_append, inserted.stable, ← filter_append,
      append_assoc, singleton_append]

/-! ## Sorting -/

-- No two items of a strictly falling run have the same rank.
theorem filter_reverse_of_falls (falls : items.Pairwise fun a b => rank b < rank a) (level : β) :
    items.reverse.filter (rank · = level) = items.filter (rank · = level) := by
  induction items with
  | nil => rfl
  | cons item rest ih =>
    rw [reverse_cons, filter_append, ih falls.tail]
    by_cases isLevel : rank item = level
    · have noneAfter : rest.filter (rank · = level) = [] :=
        filter_rank_eq_nil fun other otherMem => isLevel ▸ (rel_of_pairwise_cons falls otherMem).ne
      simp [isLevel, noneAfter]
    · simp [isLevel]

theorem firstRun_stableOrder (agrees : Agrees below rank items) :
    Ordered rank (firstRun below items).1 ∧ ∀ level,
      ((firstRun below items).1 ++ (firstRun below items).2).filter (rank · = level) =
        items.filter (rank · = level) := by
  match items with
  | [] => simp [firstRun]
  | [item] => simp [firstRun]
  | first :: second :: rest =>
    rw [firstRun]
    split
    · rename_i isBelow
      have falls := falling_falls agrees
      rw [falling, if_pos isBelow] at falls
      refine ⟨pairwise_reverse.mpr (falls.imp le_of_lt), fun level => ?_⟩
      rw [filter_append, filter_reverse_of_falls falls, ← filter_append]
      exact congrArg _ (congrArg (first :: second :: ·) (falling_append below second rest))
    · rename_i notBelow
      have rises := rising_ordered agrees
      rw [rising, if_neg notBelow] at rises
      refine ⟨rises, fun level => ?_⟩
      exact congrArg _ (congrArg (first :: second :: ·) (rising_append below second rest))

/-- Sorting by a rank is stable. -/
theorem sortBelow_stableOrder (agrees : Agrees below rank items) :
    StableOrder rank items (sortBelow below items) := by
  rcases firstRun_stableOrder agrees with ⟨ordered, stable⟩
  have inserted := foldl_insertInto_stableOrder
    (agrees.mono (firstRun_perm below items).subset) ordered
  exact ⟨inserted.ordered, fun level => (inserted.stable level).trans (stable level)⟩

end ErpLens.Accounts
