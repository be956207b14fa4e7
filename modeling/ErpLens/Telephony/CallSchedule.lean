import ErpLens.Text.Digit
import ErpLens.Text.Quoted

/-!
# Call schedules

A schedule is refused if a row does not end after it starts, or if two rows of a day overlap. Rows
of a day are sorted by their times and each is compared with the next.
-/

namespace ErpLens.Telephony

/-! ## Times of day -/

inductive ClockFault where
  | noMatch
  | rest (chars : List Char)
  | noSuchSecond
deriving Repr, DecidableEq

def ClockFault.message (text : String) : ClockFault → String
  | .noMatch => s!"time data {Text.quote text} does not match format '%H:%M:%S'"
  | .rest chars => s!"unconverted data remains: {String.ofList chars}"
  | .noSuchSecond => "second must be in 0..59"

/-- A number at the start of a text, and what follows: two digits of which the first is below
`tens`, two plain digits up to `most`, or else one digit. The first of two is always plain. -/
def clockNumber? (tens most : Nat) : List Char → Option (Nat × List Char)
  | a :: b :: rest => do
    let first ← Text.digit? a
    match Text.digit? b with
    | some second =>
      let both := first * 10 + second
      if a.isDigit && (first < tens || (b.isDigit && both ≤ most)) then return (both, rest)
      else return (first, b :: rest)
    | none => return (first, b :: rest)
  | [a] => (Text.digit? a).map fun first => (first, [])
  | [] => none

/-- The seconds from midnight to a time of day, which has hours, minutes and seconds of one digit or
two each. -/
def secondsOf (time : String) : Except ClockFault Nat :=
  match clockNumber? 2 23 time.toList with
  | some (hour, ':' :: afterHour) =>
    match clockNumber? 6 59 afterHour with
    | some (minute, ':' :: afterMinute) =>
      match clockNumber? 6 61 afterMinute with
      | some (second, []) =>
        if second < 60 then .ok ((hour * 60 + minute) * 60 + second) else .error .noSuchSecond
      | some (_, rest) => .error (.rest rest)
      | none => .error .noMatch
    | _ => .error .noMatch
  | _ => .error .noMatch

/-! ## Schedules -/

structure CallSlot where
  index : Nat
  day : String
  start : String
  stop : String
deriving Repr, DecidableEq

inductive ScheduleFault where
  | badTime (time : String) (fault : ClockFault)
  | reversed (rows : List Nat)
  | overlapping (day : String)
deriving Repr, DecidableEq

def ScheduleFault.message : ScheduleFault → String
  | .badTime time fault => fault.message time
  | .reversed rows => "<br/>".intercalate (rows.map fun row =>
    s!"Call Schedule Row {row}: To time slot should always be ahead of From time slot.")
  | .overlapping day => s!"Please fix overlapping time slots for {day}."

def readTime (time : String) : Except ScheduleFault Nat :=
  (secondsOf time).mapError (.badTime time)

def CallSlot.span (slot : CallSlot) : Except ScheduleFault (Nat × Nat) :=
  return (← readTime slot.start, ← readTime slot.stop)

def checkTimes (schedule : List CallSlot) : Except ScheduleFault Unit := do
  let spans ← schedule.mapM CallSlot.span
  match (schedule.zip spans).filter fun row => row.2.2 ≤ row.2.1 with
  | [] => return ()
  | reversed => throw (.reversed (reversed.map (·.1.index)))

/-- Whether two spans of time overlap, as far as sorted spans are compared. -/
def overlap (first second : Nat × Nat) : Bool :=
  !((first.1 < second.1 && first.2 ≤ second.1) || (second.2 ≤ first.1 && second.2 < first.2))

def spanAtMost (a b : Nat × Nat) : Bool :=
  a.1 < b.1 || (a.1 == b.1 && a.2 ≤ b.2)

def neighboursOverlap : List (Nat × Nat) → Bool
  | first :: second :: rest => overlap first second || neighboursOverlap (second :: rest)
  | _ => false

def daySpans (day : String) (schedule : List CallSlot) : Except ScheduleFault (List (Nat × Nat)) :=
  return (← (schedule.filter (·.day == day)).mapM CallSlot.span).mergeSort spanAtMost

/-- The days are looked at in no order that is told; here it is that of the rows. -/
def checkOverlaps (schedule : List CallSlot) : Except ScheduleFault Unit :=
  (schedule.map CallSlot.day).eraseDups.forM fun day => do
    if neighboursOverlap (← daySpans day schedule) then throw (.overlapping day)

def checkSchedule (schedule : List CallSlot) : Except ScheduleFault Unit := do
  checkTimes schedule
  checkOverlaps schedule

end ErpLens.Telephony
