import ErpLens.Value.Arithmetic

/-!
# Amounts

What bookkeeping needs of amounts: sums, differences, opposites and order. Reports compute with
numbers that may be floating-point; whole numbers are amounts that are exact.
-/

namespace ErpLens.Accounts

class Amount (α : Type) extends Add α, Sub α, Neg α, LT α where
  /-- The amount that is written where nothing is booked. -/
  nil : α
  isLess : ∀ a b : α, Decidable (a < b)

instance Amount.decidableLt {α : Type} [Amount α] (a b : α) : Decidable (a < b) :=
  Amount.isLess a b

instance : Amount Num where
  nil := .float 0
  isLess a b := inferInstanceAs (Decidable (a < b))

instance : Amount Int where
  nil := 0
  isLess a b := inferInstanceAs (Decidable (a < b))

class FieldAmount (α : Type) extends Amount α where
  ofValue : Value → Outcome α
  toValue : α → Value

instance numFieldAmount : FieldAmount Num where
  ofValue := Value.number
  toValue := Num.toValue

instance intFieldAmount : FieldAmount Int where
  ofValue
    | .int value => .ok value
    | other => .error (.wrongType s!"must be whole number, not {other.kindName}")
  toValue := .int

end ErpLens.Accounts
