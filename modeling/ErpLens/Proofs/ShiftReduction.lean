import Mathlib
import ErpLens.Assets.Depreciation
import ErpLens.Proofs.BalancedTotals

/-!
# Shifts taken off a schedule

Rows go from the end of a schedule as long as their factors are within the excess. The row at which
this ends should keep a part of its factor, its remainder.
-/

open List

namespace ErpLens.Assets

open Accounts

/-! ## Rows from the end -/

section

variable {α : Type} [ExactAmount α] [IsOrderedAddMonoid α] {σ τ : Type}

omit [IsOrderedAddMonoid α] in
theorem takeOff_zero (factorOf : σ → α) (shiftFor : α → Option σ) (shifts : List σ) :
    takeOff factorOf shiftFor 0 shifts = shifts.map some := by
  cases shifts with
  | nil => rfl
  | cons shift rest =>
    have notMore : ¬(Amount.nil : α) < 0 := by rw [ExactAmount.nil_eq_zero]; exact lt_irrefl 0
    rw [takeOff, if_neg notMore]

/-- An excess ends within the factor of one row: the rows before it in the order of taking off are
gone, and its own factor is brought down to a remainder. -/
theorem takeOff_ends (factorOf : σ → α) (shiftFor : α → Option σ) (read : τ → σ) (rows : List τ)
    (counts : ∀ row ∈ rows, 0 < factorOf (read row)) {excess : α} (positive : 0 < excess)
    (within : excess ≤ (rows.map fun row => factorOf (read row)).sum) :
    ∃ (gone kept : List τ) (row : τ) (remainder : α), rows = gone ++ row :: kept ∧
      (kept.map fun row => factorOf (read row)).sum + remainder + excess =
        (rows.map fun row => factorOf (read row)).sum ∧
      0 ≤ remainder ∧ remainder < factorOf (read row) ∧
      takeOff factorOf shiftFor excess (rows.map read) =
        (if remainder = 0 then [] else [shiftFor remainder]) ++
          kept.map fun row => some (read row) := by
  induction rows generalizing excess with
  | nil => exact absurd within (not_le.mpr positive)
  | cons row rest ih =>
    rw [forall_mem_cons] at counts
    simp only [map_cons, sum_cons] at within ⊢
    have starts : (Amount.nil : α) < excess := by rwa [ExactAmount.nil_eq_zero]
    rw [takeOff, if_pos starts]
    dsimp only
    by_cases inside : excess < factorOf (read row)
    · refine ⟨[], rest, row, factorOf (read row) - excess, rfl, by abel, ?_, ?_, ?_⟩
      · exact (sub_pos.mpr inside).le
      · exact sub_lt_self _ positive
      · simp [inside, (sub_pos.mpr inside).ne']
    rw [if_neg inside]
    rcases (not_lt.mp inside).eq_or_lt with used | more
    · refine ⟨[], rest, row, 0, rfl, by rw [used]; abel, le_rfl, counts.1, ?_⟩
      rw [used, sub_self, takeOff_zero]
      simp
    · rcases ih counts.2 (sub_pos.mpr more) (sub_le_iff_le_add'.mpr within) with
        ⟨gone, kept, last, remainder, split, sum, nonneg, less, left⟩
      refine ⟨row :: gone, kept, last, remainder, by rw [split]; rfl, ?_, nonneg, less, left⟩
      rw [← sum]
      abel

theorem reduceShifts_ends (factorOf : σ → α) (shiftFor : α → Option σ) (read : τ → σ)
    (rows : List τ) (counts : ∀ row ∈ rows, 0 < factorOf (read row)) {excess : α}
    (positive : 0 < excess) (within : excess ≤ (rows.map fun row => factorOf (read row)).sum) :
    ∃ (kept rest : List τ) (row : τ) (remainder : α), rows = kept ++ row :: rest ∧
      (kept.map fun row => factorOf (read row)).sum + remainder + excess =
        (rows.map fun row => factorOf (read row)).sum ∧
      0 ≤ remainder ∧ remainder < factorOf (read row) ∧
      reduceShifts factorOf shiftFor excess (rows.map read) =
        (kept.map fun row => some (read row)) ++
          if remainder = 0 then [] else [shiftFor remainder] := by
  have total := sum_reverse (rows.map fun row => factorOf (read row))
  rw [← map_reverse] at total
  rcases takeOff_ends factorOf shiftFor read rows.reverse
      (fun row rowMem => counts row (mem_reverse.mp rowMem)) positive (total ▸ within) with
    ⟨gone, kept, row, remainder, split, sum, nonneg, less, left⟩
  refine ⟨kept.reverse, gone.reverse, row, remainder, ?_, ?_, nonneg, less, ?_⟩
  · rw [← reverse_reverse rows, split]
    simp
  · rw [map_reverse, sum_reverse, sum, total]
  · rw [reduceShifts, ← map_reverse, left]
    split_ifs <;> simp

end

/-! ## Factors of shifts -/

/-- The shifts that there are, each with a factor of its own. -/
structure ShiftFactors (α : Type) [ExactAmount α] where
  entries : List (String × α)
  distinctShifts : (entries.map Prod.fst).Nodup
  distinctFactors : (entries.map Prod.snd).Nodup
  positive : ∀ entry ∈ entries, 0 < entry.2

namespace ShiftFactors

variable {α : Type} [ExactAmount α] (factors : ShiftFactors α)

/-- The factors by shift. -/
def byShift (kind : DictKind) : Value :=
  .dict kind (factors.entries.map fun entry => (.str entry.1, FieldAmount.toValue entry.2))

/-- The shifts by factor. -/
def inverse : Entries :=
  factors.entries.map fun entry => (FieldAmount.toValue entry.2, .str entry.1)

/-- The shift with a factor. -/
def shiftWith (factor : α) : Option String :=
  (factors.entries.find? fun entry => entry.2 = factor).map Prod.fst

/-- The factor of a row, nought if its shift has none. -/
def factorOf (row : Value) : α :=
  match row.field? "shift" with
  | some (.str shift) => (factors.entries.lookup shift).getD 0
  | _ => 0

/-- The factors of rows added up. -/
def total (rows : List Value) : α :=
  (rows.map factors.factorOf).sum

/-- Whether a factor can be left: nothing needs no row, and anything else a shift. -/
def CanLeave (factor : α) : Prop :=
  factor = 0 ∨ factor ∈ factors.entries.map Prod.snd

/-- The shift of a row has a factor. -/
def Covers (row : Value) : Prop :=
  ∃ entry ∈ factors.entries, row.field? "shift" = some (.str entry.1)

variable {factors}

theorem lookup_of_mem {entry : String × α} (mem : entry ∈ factors.entries) :
    factors.entries.lookup entry.1 = some entry.2 := by
  rcases append_of_mem mem with ⟨before, after, split⟩
  have distinct := factors.distinctShifts
  rw [split, map_append, map_cons, nodup_middle, nodup_cons, mem_append] at distinct
  rw [lookup_eq_some_iff]
  refine ⟨before, after, split, fun earlier earlierMem => ?_⟩
  rw [bne_iff_ne]
  intro sameShift
  exact distinct.1 (.inl (mem_map.mpr ⟨earlier, earlierMem, sameShift.symm⟩))

theorem factorOf_of_mem {row : Value} {entry : String × α} (mem : entry ∈ factors.entries)
    (shown : row.field? "shift" = some (.str entry.1)) : factors.factorOf row = entry.2 := by
  simp [factorOf, shown, lookup_of_mem mem]

theorem factorOf_pos {row : Value} (covered : factors.Covers row) : 0 < factors.factorOf row := by
  rcases covered with ⟨entry, mem, shown⟩
  rw [factorOf_of_mem mem shown]
  exact factors.positive entry mem

theorem mem_of_shiftWith {factor : α} {shift : String}
    (found : factors.shiftWith factor = some shift) : (shift, factor) ∈ factors.entries := by
  rcases Option.map_eq_some_iff.mp found with ⟨entry, isEntry, rfl⟩
  have sameFactor := find?_some isEntry
  rw [decide_eq_true_iff] at sameFactor
  rw [← sameFactor]
  exact mem_of_find?_eq_some isEntry

theorem shiftWith_eq_none_iff {factor : α} :
    factors.shiftWith factor = none ↔ factor ∉ factors.entries.map Prod.snd := by
  simp only [shiftWith, Option.map_eq_none_iff, find?_eq_none, decide_eq_true_eq, mem_map,
    not_exists, not_and]

/-! ## Documents -/

theorem findEntry_str (entries : List (String × α)) (shift : String) :
    Value.findEntry (.str shift)
        (entries.map fun entry => (.str entry.1, FieldAmount.toValue entry.2)) =
      (entries.lookup shift).map FieldAmount.toValue := by
  induction entries with
  | nil => rfl
  | cons entry rest ih =>
    rw [map_cons, Value.findEntry, Value.same_str, ih, lookup_cons_ite]
    by_cases isShift : shift = entry.1
    · simp [isShift]
    · simp [isShift, Ne.symm isShift]

theorem shiftOf_byShift (kind : DictKind) {row : Value} (covered : factors.Covers row) :
    shiftOf α (factors.byShift kind) row =
      .ok ((row.field? "shift").getD .null, factors.factorOf row) := by
  rcases covered with ⟨entry, mem, shown⟩
  rw [factorOf_of_mem mem shown, shiftOf, Value.field, shown, ok_bind, byShift, Value.getD,
    findEntry_str, lookup_of_mem mem, Option.map_some, Option.getD_some, ok_bind,
    ExactAmount.ofValue_toValue]
  rfl

/-- Whether the values of amounts are told apart as the amounts are. -/
def ToldApart (α : Type) [ExactAmount α] : Prop :=
  ∀ amount other : α,
    Value.same (FieldAmount.toValue amount) (FieldAmount.toValue other) = decide (amount = other)

theorem shiftFor_eq (told : ToldApart α) (factors : ShiftFactors α) (factor : α) :
    shiftFor α factors.inverse factor =
      (factors.shiftWith factor).map fun shift => (.str shift, factor) := by
  rw [shiftFor, shiftWith, inverse, Option.map_map]
  induction factors.entries with
  | nil => rfl
  | cons entry rest ih =>
    rw [map_cons, Value.findEntry, told, find?_cons]
    by_cases isFactor : entry.2 = factor
    · simp [isFactor]
    · simpa [isFactor] using ih

/-- What is left of the row at which an excess ends: nothing if its factor is used up, else the row
with the shift that has the remainder for its factor, or without a shift if there is none. -/
def LeavesLast (factors : ShiftFactors α) (remainder : α) (last : List Value) : Prop :=
  if remainder = 0 then last = []
  else ∃ row, last = [row] ∧ row.field? "shift" = some (.optStr (factors.shiftWith remainder))

theorem LeavesLast.reaches_iff {remainder : α} {last : List Value}
    (leaves : factors.LeavesLast remainder last) :
    factors.total last = remainder ∧ (∀ row ∈ last, factors.Covers row) ↔
      factors.CanLeave remainder := by
  unfold LeavesLast at leaves
  split at leaves
  case isTrue isZero => simp [leaves, total, CanLeave, isZero]
  case isFalse isLeft =>
    rcases leaves with ⟨row, rfl, shown⟩
    cases found : factors.shiftWith remainder with
    | none =>
      rw [found] at shown
      simp [Covers, CanLeave, shown, Value.optStr, isLeft, shiftWith_eq_none_iff.mp found]
    | some shift =>
      have mem := mem_of_shiftWith found
      rw [found] at shown
      refine iff_of_true ⟨?_, ?_⟩ (.inr (mem_map_of_mem mem))
      · simp [total, factorOf_of_mem mem shown]
      · rw [forall_mem_singleton]
        exact ⟨_, mem, shown⟩

theorem LeavesLast.of_not_canLeave {remainder : α} {last : List Value}
    (leaves : factors.LeavesLast remainder last) (cannot : ¬ factors.CanLeave remainder) :
    ∃ row, last = [row] ∧ row.field? "shift" = some .null := by
  rw [CanLeave, not_or, ← shiftWith_eq_none_iff] at cannot
  rw [LeavesLast, if_neg cannot.1, cannot.2] at leaves
  exact leaves

theorem exists_mapM_setShift_last (told : ToldApart α) {row : Value} (covered : factors.Covers row)
    (rest : List Value) (remainder : α) :
    ∃ last, ((row :: rest).zip
        (if remainder = 0 then [] else [shiftFor α factors.inverse remainder])).mapM
          (fun (row, shift) => setShift α row shift) = .ok last ∧
      factors.LeavesLast remainder last := by
  by_cases isZero : remainder = 0
  · exact ⟨[], by simp [isZero]; rfl, by simp [LeavesLast, isZero]⟩
  rcases covered with ⟨entry, _, shown⟩
  rcases Value.exists_setField shown (.optStr (factors.shiftWith remainder)) with
    ⟨changed, set, changedShown⟩
  have sets : setShift α row ((factors.shiftWith remainder).map fun shift =>
      (Value.str shift, remainder)) = .ok changed := by
    rw [← set, setShift]
    cases factors.shiftWith remainder <;> rfl
  refine ⟨[changed], ?_, by rw [LeavesLast, if_neg isZero]; exact ⟨changed, rfl, changedShown⟩⟩
  simp [isZero, shiftFor_eq told, sets, bind, Except.bind, pure, Except.pure]

theorem mapM_setShift_kept {rows : List Value} (covered : ∀ row ∈ rows, factors.Covers row) :
    (rows.map fun row => (row, some ((row.field? "shift").getD .null, factors.factorOf row))).mapM
      (fun (row, shift) => setShift α row shift) = .ok rows := by
  rw [mapM_map]
  refine (mapM_eq_ok fun row rowMem => ?_).trans (congrArg Except.ok (map_id rows))
  rcases covered row rowMem with ⟨entry, _, shown⟩
  simp [setShift, shown, Value.setField_of_field? shown]

end ShiftFactors

variable {α : Type} [ExactAmount α] [IsOrderedAddMonoid α]

open ShiftFactors in
/-- An excess that is worked off keeps the first rows of a schedule and ends at a row, of whose
factor a remainder should be left. The schedule has its old total less the excess, and one of the
shifts in each row, exactly if nothing remains or some shift has the remainder for its factor. If
none has, the last row is left without a shift. -/
theorem reduceSchedule_needs_shift_for_remainder (told : ToldApart α) (factors : ShiftFactors α)
    (kind inverseKind : DictKind) {asset : Value} {rows : List Value}
    (held : asset.field? "depreciation_schedule" = some (.list rows))
    (covered : ∀ row ∈ rows, factors.Covers row) {excess : α} (positive : 0 < excess)
    (within : excess ≤ factors.total rows) :
    ∃ (changed : Value) (kept rest last : List Value) (row : Value) (remainder : α),
      reduceScheduleWith α asset (FieldAmount.toValue excess) (factors.byShift kind)
        (.dict inverseKind factors.inverse) = .ok changed ∧
      changed.field? "depreciation_schedule" = some (.list (kept ++ last)) ∧
      rows = kept ++ row :: rest ∧
      factors.total kept + remainder + excess = factors.total rows ∧
      0 ≤ remainder ∧ remainder < factors.factorOf row ∧
      (factors.total (kept ++ last) = factors.total rows - excess ∧
        (∀ row ∈ kept ++ last, factors.Covers row) ↔ factors.CanLeave remainder) ∧
      (¬ factors.CanLeave remainder →
        ∃ changedRow, last = [changedRow] ∧ changedRow.field? "shift" = some .null) := by
  let pairOf (row : Value) : Value × α := ((row.field? "shift").getD .null, factors.factorOf row)
  have read : rows.mapM (shiftOf α (factors.byShift kind)) = .ok (rows.map pairOf) :=
    mapM_eq_ok fun row rowMem => shiftOf_byShift kind (covered row rowMem)
  rcases reduceShifts_ends Prod.snd (shiftFor α factors.inverse) pairOf rows
      (fun row rowMem => factorOf_pos (covered row rowMem)) positive within with
    ⟨kept, rest, row, remainder, split, sum, nonneg, less, left⟩
  have keptCovered : ∀ row ∈ kept, factors.Covers row := fun row rowMem =>
    covered row (by rw [split]; exact List.mem_append_left _ rowMem)
  rcases exists_mapM_setShift_last told (covered row (by rw [split]; simp)) rest remainder with
    ⟨last, lastSet, leaves⟩
  rcases Value.exists_setField held (.list (kept ++ last)) with ⟨changed, set, holds⟩
  have target : factors.total rows - excess = factors.total kept + remainder :=
    sub_eq_of_eq_add sum.symm
  have total : factors.total (kept ++ last) = factors.total kept + factors.total last := by
    simp [ShiftFactors.total]
  have keptZip := List.zip_map' (f := id) (g := fun row => some (pairOf row)) (l := kept)
  rw [List.map_id] at keptZip
  refine ⟨changed, kept, rest, last, row, remainder, ?_, holds, split, sum, nonneg, less, ?_,
    leaves.of_not_canLeave⟩
  · simp only [reduceScheduleWith, Value.field, held, ok_bind, Value.items, read, Value.entries,
      ExactAmount.ofValue_toValue, left]
    rw [split, List.zip_append (by simp), keptZip, List.mapM_append, lastSet]
    simp only [id, pairOf, mapM_setShift_kept keptCovered, ok_bind]
    exact set
  · rw [target, total, add_right_inj, List.forall_mem_append, ← leaves.reaches_iff]
    exact and_congr_right fun _ => and_iff_right keptCovered

/-! ## A factor that no shift has -/

def shiftRow (shift : Value) : Value :=
  .ofRecord [("shift", shift)]

theorem field?_shiftRow (shift : Value) : (shiftRow shift).field? "shift" = some shift := by
  simp [shiftRow, Value.ofRecord, Value.field?, Value.findEntry, Value.same_str]

def allocation (rows : List Value) : Value :=
  .object "AssetShiftAllocation" [("depreciation_schedule", .list rows)]

/-- Three shifts, each with twice the factor of the one before. -/
def doublingFactors : ShiftFactors Int where
  entries := [("Single", 1), ("Double", 2), ("Quadruple", 4)]
  distinctShifts := by decide
  distinctFactors := by decide
  positive := by decide

/-- Three of the last row should be left, which no shift stands for. -/
def unevenRows : List Value :=
  [shiftRow (.str "Double"), shiftRow (.str "Single"), shiftRow (.str "Quadruple")]

theorem covers_unevenRows : ∀ row ∈ unevenRows, doublingFactors.Covers row := by
  simp only [unevenRows, forall_mem_cons]
  exact ⟨⟨("Double", 2), by decide, field?_shiftRow _⟩,
    ⟨("Single", 1), by decide, field?_shiftRow _⟩,
    ⟨("Quadruple", 4), by decide, field?_shiftRow _⟩, forall_mem_nil _⟩

theorem reduceSchedule_of_unevenRows :
    ∃ (changed : Value) (rows : List Value),
      reduceScheduleWith Int (allocation unevenRows) (FieldAmount.toValue (1 : Int))
        (doublingFactors.byShift .plain) (.dict .plain doublingFactors.inverse) = .ok changed ∧
      changed.field? "depreciation_schedule" = some (.list rows) := by
  have held : (allocation unevenRows).field? "depreciation_schedule" = some (.list unevenRows) :=
    rfl
  rcases reduceSchedule_needs_shift_for_remainder (fun a b => Value.same_int a b) doublingFactors
      .plain .plain held covers_unevenRows (by decide : (0 : Int) < 1) (by decide +kernel) with
    ⟨changed, kept, _, last, _, _, reduced, holds, _⟩
  exact ⟨changed, kept ++ last, reduced, holds⟩

/-- The last row loses its shift, and with it three more than the excess of one. -/
theorem unevenRows_lose_more_than_excess :
    ∃ rows : List Value,
      reduceScheduleWith Int (allocation unevenRows) (.int 1) (doublingFactors.byShift .plain)
        (.dict .plain doublingFactors.inverse) = .ok (allocation rows) ∧
      doublingFactors.total rows = 3 ∧ doublingFactors.total unevenRows - 1 = 6 := by
  refine ⟨[shiftRow (.str "Double"), shiftRow (.str "Single"), shiftRow .null], by cbv, ?_⟩
  decide +kernel

end ErpLens.Assets
