import ErpLens.Value.Arithmetic

/-!
# Overlapping work

The logs of work are spread over tracks: a log that starts when a track has ended goes on that
track, and only as long as no log has done so a log that fits no track opens a new one.
-/

namespace ErpLens.Manufacturing

structure TimeLog (τ : Type) where
  start : τ
  stop : τ
deriving Repr, DecidableEq

/-- Where tracks end, and whether a log has followed another on a track. -/
structure Tracks (τ : Type) where
  ends : List τ
  hasSequence : Bool
deriving Repr, DecidableEq

def followTrack {τ : Type} (atMost : τ → τ → Bool) (log : TimeLog τ) : List τ → Option (List τ)
  | [] => none
  | stop :: rest =>
    if atMost stop log.start then some (log.stop :: rest)
    else (followTrack atMost log rest).map (stop :: ·)

def Tracks.add {τ : Type} (atMost : τ → τ → Bool) (tracks : Tracks τ) (log : TimeLog τ) : Tracks τ :=
  match followTrack atMost log tracks.ends with
  | some ends => ⟨ends, true⟩
  | none => if tracks.hasSequence then tracks else { tracks with ends := tracks.ends ++ [log.stop] }

def tracksOf {τ : Type} (atMost : τ → τ → Bool) : List (TimeLog τ) → Tracks τ
  | [] => ⟨[], false⟩
  | first :: rest => rest.foldl (Tracks.add atMost) ⟨[first.stop], false⟩

def isFull {τ : Type} (atMost : τ → τ → Bool) (capacity : Int) (logs : List (TimeLog τ)) : Bool :=
  if logs.isEmpty then false
  else capacity == 1 || decide (capacity ≤ (tracksOf atMost logs).ends.length)

def hasOverlap {τ : Type} (atMost : τ → τ → Bool) (capacity : Int) (logs : List (TimeLog τ)) : Bool :=
  isFull atMost capacity (logs.mergeSort fun a b => atMost a.start b.start)

def wholeCapacity (capacity : Value) : Outcome Int :=
  match capacity.num? with
  | some (.int value) => .ok value
  | some (.float value) => .ok ((Decimal.truncate? value.ceil).getD 0)
  | none => .error (Value.unordered ">=" (.int 0) capacity)

def logsOverlap (capacity logs : Value) : Outcome Bool := do
  let rows ← logs.items
  if rows.isEmpty then return false
  if capacity == .int 1 then return true
  let logs ← rows.mapM fun row =>
    return (⟨← row.get "from_time", ← row.key "to_time"⟩ : TimeLog Value)
  for (log, i) in logs.zipIdx do
    for other in logs.drop (i + 1) do
      let _ ← Value.lessThan other.start log.start
      let _ ← Value.atMost log.stop other.start
  let atMost (a b : Value) : Bool := (Value.atMost a b).toOption.getD false
  return hasOverlap atMost (← wholeCapacity capacity) logs

end ErpLens.Manufacturing
