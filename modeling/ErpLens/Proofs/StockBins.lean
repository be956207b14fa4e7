import ErpLens.Proofs.BalancedTotals
import ErpLens.Stock.Valuation

/-!
# Stock that comes in

What comes in joins the newest bin of a queue and of a stack, so both keep the same bins, whatever
comes in and in whatever order.
-/

open List

namespace ErpLens.Stock

open Accounts

variable {α : Type} [ExactAmount α]

/-! ## One addition -/

variable (bins : List (Bin α))

/-- Bins after more stock has come in. -/
def received (stock : Bin α) : List (Bin α) :=
  bins.dropLast ++ (bins.getLast?.getD ⟨0, 0⟩).receive stock.quantity stock.rate

theorem BinQueue.state_add (queue : BinQueue α) (stock : Bin α) :
    (queue.add stock.quantity stock.rate).state = received queue.state stock := by
  cases newest : queue.bins.getLast? with
  | none =>
    have empty := getLast?_eq_none_iff.mp newest
    simp [BinQueue.add, received, BinQueue.state, empty]
  | some bin => simp [BinQueue.add, received, BinQueue.state, newest]

theorem BinStack.add_concat (older : List (Bin α)) (top : Bin α) (quantity rate : α) :
    (BinStack.mk (older ++ [top])).add quantity rate =
      ⟨older ++ top.receive quantity rate⟩ := by
  by_cases same : top.rate = rate
  · simp [BinStack.add, Bin.receive, same]
  by_cases held : 0 < top.quantity
  · simp [BinStack.add, Bin.receive, same, held]
  by_cases more : 0 < top.quantity + quantity <;>
    simp [BinStack.add, Bin.receive, same, held, more]

theorem BinStack.state_add (stack : BinStack α) (stock : Bin α) :
    (stack.add stock.quantity stock.rate).state = received stack.state stock := by
  rcases stack with ⟨bins⟩
  rcases eq_nil_or_concat bins with rfl | ⟨older, top, rfl⟩
  · -- An empty stack is taken to hold an empty bin, which is its top.
    exact congrArg BinStack.bins (BinStack.add_concat [] ⟨0, 0⟩ _ _)
  · simp [BinStack.add_concat, BinStack.state, received]

/-- The quantity in all bins. -/
def quantities : α :=
  (bins.map Bin.quantity).sum

theorem quantities_append (first second : List (Bin α)) :
    quantities (first ++ second) = quantities first + quantities second := by
  simp [quantities]

theorem quantities_receive (newest : Bin α) (quantity rate : α) :
    quantities (newest.receive quantity rate) = newest.quantity + quantity := by
  unfold Bin.receive
  split
  · simp [quantities]
  split
  · simp [quantities]
  -- The balance is left in one bin, whichever rate it takes.
  dsimp only
  split <;> simp [quantities]

theorem quantities_received (stock : Bin α) :
    quantities (received bins stock) = quantities bins + stock.quantity := by
  rw [received, quantities_append, quantities_receive]
  rcases eq_nil_or_concat bins with rfl | ⟨older, newest, rfl⟩
  · simp [quantities]
  · simp [quantities, add_assoc]

/-- A bin without stock, or with less than none, is the only one. -/
def Settled : Prop :=
  ∀ bin ∈ bins, bin.quantity ≤ 0 → bins = [bin]

theorem settled_singleton (bin : Bin α) : Settled [bin] := by
  intro other otherMem _
  rw [mem_singleton.mp otherMem]

variable {bins}

theorem settled_of_positive (positive : ∀ bin ∈ bins, 0 < bin.quantity) :
    Settled bins :=
  fun bin binMem empty => absurd (positive bin binMem) (not_lt.mpr empty)

variable [IsOrderedAddMonoid α]

theorem positive_receive {newest : Bin α} {quantity : α} (held : 0 < newest.quantity)
    (more : 0 < quantity) (rate : α) : ∀ bin ∈ newest.receive quantity rate, 0 < bin.quantity := by
  unfold Bin.receive
  split
  · simpa using add_pos held more
  · simp [held, more]

theorem settled_receive (newest : Bin α) {quantity : α} (more : 0 < quantity) (rate : α) :
    Settled (newest.receive quantity rate) := by
  by_cases held : 0 < newest.quantity
  · exact settled_of_positive (positive_receive held more rate)
  · unfold Bin.receive
    split
    · exact settled_singleton _
    · dsimp only
      split <;> exact settled_singleton _

theorem settled_received {stock : Bin α} (settled : Settled bins)
    (more : 0 < stock.quantity) : Settled (received bins stock) := by
  by_cases short : bins.length ≤ 1
  · have alone : bins.dropLast = [] := by
      rw [← length_eq_zero_iff, length_dropLast]
      omega
    rw [received, alone]
    exact settled_receive _ more _
  · have positive : ∀ bin ∈ bins, 0 < bin.quantity := by
      intro bin binMem
      by_contra empty
      rw [settled bin binMem (not_lt.mp empty)] at short
      exact short le_rfl
    apply settled_of_positive
    intro bin binMem
    rcases mem_append.mp binMem with older | joined
    · exact positive bin (mem_of_mem_dropLast older)
    · cases newest : bins.getLast? with
      | none =>
        rw [getLast?_eq_none_iff.mp newest] at short
        exact absurd (Nat.zero_le 1) short
      | some last =>
        rw [newest] at joined
        exact positive_receive (positive last (mem_of_getLast? newest)) more _ bin joined

/-! ## Any number of additions -/

/-- Bins after several additions. -/
def receivedAll (bins stock : List (Bin α)) : List (Bin α) :=
  stock.foldl received bins

omit [IsOrderedAddMonoid α] in
theorem quantities_receivedAll (bins stock : List (Bin α)) :
    quantities (receivedAll bins stock) = quantities bins + quantities stock := by
  induction stock generalizing bins with
  | nil => simp [receivedAll, quantities]
  | cons addition rest ih =>
    rw [receivedAll, foldl_cons, ← receivedAll, ih, quantities_received, add_assoc]
    simp [quantities]

theorem settled_receivedAll {bins stock : List (Bin α)} (settled : Settled bins)
    (more : ∀ addition ∈ stock, 0 < addition.quantity) : Settled (receivedAll bins stock) := by
  induction stock generalizing bins with
  | nil => exact settled
  | cons addition rest ih =>
    rw [forall_mem_cons] at more
    exact ih (settled_received settled more.1) more.2

/-! ## Documents -/

omit [IsOrderedAddMonoid α]

theorem binsOf_binsValue : binsOf (binsValue bins) = .ok bins := by
  rw [binsOf, binsValue, Value.items, ok_bind, mapM_map]
  refine (mapM_eq_ok fun bin _ => ?_).trans (congrArg Except.ok (map_id bins))
  simp only [Function.comp_apply, Value.item, Value.itemAt, Value.index?, Value.position?]
  simp [ExactAmount.ofValue_toValue, bind, Except.bind, pure, Except.pure]

/-- A document after several additions. -/
def receiveAll (receive : Value → Value → Value → Outcome Value) (document : Value)
    (stock : List (Bin α)) : Outcome Value :=
  stock.foldlM (fun document addition => receive document
    (FieldAmount.toValue addition.quantity) (FieldAmount.toValue addition.rate)) document

/-- Whether stock that comes in joins the newest of the bins in a field. -/
def JoinsNewest (α : Type) [ExactAmount α] (receive : Value → Value → Value → Outcome Value)
    (name : String) : Prop :=
  ∀ (bins : List (Bin α)) (stock : Bin α) {document : Value},
    document.field? name = some (binsValue bins) → ∃ changed,
      receive document (FieldAmount.toValue stock.quantity) (FieldAmount.toValue stock.rate) =
        .ok changed ∧ changed.field? name = some (binsValue (received bins stock))

theorem joinsNewest_queue : JoinsNewest α (receiveInQueueWith α) "queue" := by
  intro bins stock document held
  rcases Value.exists_setField held (binsValue (received bins stock)) with ⟨changed, set, holds⟩
  refine ⟨changed, ?_, holds⟩
  simp only [receiveInQueueWith, Value.field, held, ok_bind, binsOf_binsValue,
    ExactAmount.ofValue_toValue, BinQueue.state_add]
  exact set

theorem joinsNewest_stack : JoinsNewest α (receiveOnStackWith α) "stack" := by
  intro bins stock document held
  rcases Value.exists_setField held (binsValue (received bins stock)) with ⟨changed, set, holds⟩
  refine ⟨changed, ?_, holds⟩
  simp only [receiveOnStackWith, Value.field, held, ok_bind, binsOf_binsValue,
    ExactAmount.ofValue_toValue, BinStack.state_add]
  exact set

theorem JoinsNewest.exists_receiveAll {receive : Value → Value → Value → Outcome Value}
    {name : String} (joins : JoinsNewest α receive name) {document : Value}
    (held : document.field? name = some (binsValue bins)) (stock : List (Bin α)) :
    ∃ changed, receiveAll receive document stock = .ok changed ∧
      changed.field? name = some (binsValue (receivedAll bins stock)) := by
  induction stock generalizing bins document with
  | nil => exact ⟨document, rfl, held⟩
  | cons addition rest ih =>
    rcases joins bins addition held with ⟨next, taken, holds⟩
    rcases ih holds with ⟨last, later, holdsAll⟩
    refine ⟨last, ?_, holdsAll⟩
    rw [receiveAll, foldlM_cons, taken, ok_bind]
    exact later

/-- A queue and a stack with the same bins take in any exact stock, in any order, and have the same
bins again. Their quantities are more by what came in. Where a bin without stock was the only one
and only positive quantities come in, this is so after each of them. -/
theorem queue_and_stack_receive_alike [IsOrderedAddMonoid α] {bins : List (Bin α)}
    {queue stack : Value} (queued : queue.field? "queue" = some (binsValue bins))
    (stacked : stack.field? "stack" = some (binsValue bins)) (stock : List (Bin α)) :
    ∃ (queueAfter stackAfter : Value) (after : List (Bin α)),
      receiveAll (receiveInQueueWith α) queue stock = .ok queueAfter ∧
      receiveAll (receiveOnStackWith α) stack stock = .ok stackAfter ∧
      queueAfter.field? "queue" = some (binsValue after) ∧
      stackAfter.field? "stack" = some (binsValue after) ∧
      quantities after = quantities bins + quantities stock ∧
      (Settled bins → (∀ addition ∈ stock, 0 < addition.quantity) → Settled after) := by
  rcases joinsNewest_queue.exists_receiveAll queued stock with ⟨queueAfter, inQueue, queueHolds⟩
  rcases joinsNewest_stack.exists_receiveAll stacked stock with ⟨stackAfter, onStack, stackHolds⟩
  exact ⟨queueAfter, stackAfter, _, inQueue, onStack, queueHolds, stackHolds,
    quantities_receivedAll bins stock, settled_receivedAll⟩

/-- Less than no stock at first. Of what comes in, the first part leaves less than none, the second
turns the balance, and the third has another rate. -/
def owedBins : List (Bin Int) := [⟨-5, 10⟩]

def deliveries : List (Bin Int) := [⟨3, 12⟩, ⟨4, 12⟩, ⟨2, 15⟩]

def owedQueue : Value := .object "FIFOValuation" [("queue", binsValue owedBins)]

def owedStack : Value := .object "LIFOValuation" [("stack", binsValue owedBins)]

theorem queue_and_stack_receive_deliveries :
    ∃ (queueAfter stackAfter : Value) (after : List (Bin Int)),
      receiveAll (receiveInQueueWith Int) owedQueue deliveries = .ok queueAfter ∧
      receiveAll (receiveOnStackWith Int) owedStack deliveries = .ok stackAfter ∧
      queueAfter.field? "queue" = some (binsValue after) ∧
      stackAfter.field? "stack" = some (binsValue after) ∧
      quantities after = 4 ∧ Settled after := by
  have queued : owedQueue.field? "queue" = some (binsValue owedBins) := rfl
  have stacked : owedStack.field? "stack" = some (binsValue owedBins) := rfl
  rcases queue_and_stack_receive_alike queued stacked deliveries with
    ⟨queueAfter, stackAfter, after, inQueue, onStack, queueHolds, stackHolds, sum, settled⟩
  exact ⟨queueAfter, stackAfter, after, inQueue, onStack, queueHolds, stackHolds,
    sum.trans (by decide), settled (settled_singleton _) (by decide)⟩

end ErpLens.Stock
