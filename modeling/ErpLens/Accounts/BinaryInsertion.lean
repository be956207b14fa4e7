/-!
# Sorting by binary insertion

The longest sorted run at the start is kept, turned round if it falls, and every further item is put
where a binary search finds its place. With a consistent order this is a stable sort.
-/

namespace ErpLens.Accounts

variable {α : Type}

/-- The items that rise from `last` on, none being below the one before it, and the others. -/
def rising (below : α → α → Bool) (last : α) : List α → List α × List α
  | [] => ([], [])
  | next :: rest =>
    if below next last then ([], next :: rest)
    else
      let (run, others) := rising below next rest
      (next :: run, others)

/-- The items that fall from `last` on, each being below the one before it, and the others. -/
def falling (below : α → α → Bool) (last : α) : List α → List α × List α
  | [] => ([], [])
  | next :: rest =>
    if below next last then
      let (run, others) := falling below next rest
      (next :: run, others)
    else ([], next :: rest)

theorem rising_append (below : α → α → Bool) (last : α) (items : List α) :
    (rising below last items).1 ++ (rising below last items).2 = items := by
  induction items generalizing last with
  | nil => rfl
  | cons next rest ih =>
    rw [rising]
    split
    · rfl
    · exact congrArg (next :: ·) (ih next)

theorem falling_append (below : α → α → Bool) (last : α) (items : List α) :
    (falling below last items).1 ++ (falling below last items).2 = items := by
  induction items generalizing last with
  | nil => rfl
  | cons next rest ih =>
    rw [falling]
    split
    · exact congrArg (next :: ·) (ih next)
    · rfl

def firstRun (below : α → α → Bool) : List α → List α × List α
  | [] => ([], [])
  | [item] => ([item], [])
  | first :: second :: rest =>
    if below second first then
      let (run, others) := falling below second rest
      ((first :: second :: run).reverse, others)
    else
      let (run, others) := rising below second rest
      (first :: second :: run, others)

theorem firstRun_perm (below : α → α → Bool) (items : List α) :
    ((firstRun below items).1 ++ (firstRun below items).2).Perm items := by
  match items with
  | [] => exact .refl _
  | [_] => exact .refl _
  | first :: second :: rest =>
    rw [firstRun]
    split
    · refine ((List.reverse_perm _).append_right _).trans ?_
      exact .of_eq (congrArg (first :: second :: ·) (falling_append below second rest))
    · exact .of_eq (congrArg (first :: second :: ·) (rising_append below second rest))

/-- Where an item belongs between two positions of a sorted list: after those it is not below. -/
def placeOf (below : α → α → Bool) (item : α) (sorted : List α) (low high : Nat) : Nat :=
  if low < high then
    let middle := low + (high - low) / 2
    match sorted[middle]? with
    | none => low
    | some other =>
      if below item other then placeOf below item sorted low middle
      else placeOf below item sorted (middle + 1) high
  else low
termination_by high - low

def insertInto (below : α → α → Bool) (sorted : List α) (item : α) : List α :=
  let place := placeOf below item sorted 0 sorted.length
  sorted.take place ++ item :: sorted.drop place

theorem insertInto_perm (below : α → α → Bool) (sorted : List α) (item : α) :
    (insertInto below sorted item).Perm (item :: sorted) := by
  refine List.perm_middle.trans ?_
  rw [List.take_append_drop]

theorem foldl_insertInto_perm (below : α → α → Bool) (items sorted : List α) :
    (items.foldl (insertInto below) sorted).Perm (sorted ++ items) := by
  induction items generalizing sorted with
  | nil => rw [List.append_nil]; exact .refl _
  | cons item rest ih =>
    refine (ih _).trans (((insertInto_perm below sorted item).append_right rest).trans ?_)
    exact List.perm_middle.symm

/-- Sorts by inserting each item into those before it. Where `below` is an order of the items, this
is the only stable sorting there is. Where it is not, a list of 64 items or more would be sorted in
several runs, and the result would be another one. -/
def sortBelow (below : α → α → Bool) (items : List α) : List α :=
  let (run, others) := firstRun below items
  others.foldl (insertInto below) run

theorem sortBelow_perm (below : α → α → Bool) (items : List α) :
    (sortBelow below items).Perm items :=
  (foldl_insertInto_perm below _ _).trans (firstRun_perm below items)

end ErpLens.Accounts
