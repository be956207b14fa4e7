/-!
# Dates

Days of the proleptic Gregorian calendar, counted so that 1 January of year 1 is day 1, and moments
of a day down to the microsecond.
-/

namespace ErpLens.Calendar

structure Date where
  year : Int
  month : Nat
  day : Nat
deriving Repr, DecidableEq, Inhabited

structure Moment where
  date : Date
  micros : Nat
deriving Repr, DecidableEq, Inhabited

def isLeap (year : Int) : Bool :=
  year % 4 == 0 && (year % 100 != 0 || year % 400 == 0)

def daysInMonth (year : Int) (month : Nat) : Nat :=
  if month == 2 then (if isLeap year then 29 else 28)
  else if month == 4 || month == 6 || month == 9 || month == 11 then 30
  else 31

def daysBeforeMonth (year : Int) (month : Nat) : Nat :=
  (List.range (month - 1)).foldl (fun days m => days + daysInMonth year (m + 1)) 0

def daysBeforeYear (year : Int) : Int :=
  let past := year - 1
  past * 365 + past / 4 - past / 100 + past / 400

namespace Date

def toOrdinal (date : Date) : Int :=
  daysBeforeYear date.year + daysBeforeMonth date.year date.month + date.day

def monthAndDay (year : Int) : List Nat → Nat → Nat × Nat
  | [], rest => (12, rest + 1)
  | month :: later, rest =>
    let size := daysInMonth year month
    if rest < size then (month, rest + 1) else monthAndDay year later (rest - size)

def ofOrdinal (ordinal : Int) : Date :=
  let n := ordinal - 1
  let n400 := n / 146097
  let r400 := n % 146097
  let n100 := min (r400 / 36524) 3
  let r100 := r400 - n100 * 36524
  let n4 := r100 / 1461
  let r4 := r100 % 1461
  let n1 := min (r4 / 365) 3
  let r1 := r4 - n1 * 365
  let year := n400 * 400 + n100 * 100 + n4 * 4 + n1 + 1
  let (month, day) := monthAndDay year (List.range' 1 12) r1.toNat
  ⟨year, month, day⟩

def addDays (date : Date) (days : Int) : Date :=
  ofOrdinal (date.toOrdinal + days)

def weekday (date : Date) : Nat :=
  ((date.toOrdinal + 6) % 7).toNat

end Date

def padded (width : Nat) (value : Nat) : String :=
  let digits := Nat.toDigits 10 value
  String.ofList (List.replicate (width - digits.length) '0' ++ digits)

def Date.text (date : Date) : String :=
  padded 4 date.year.toNat ++ "-" ++ padded 2 date.month ++ "-" ++ padded 2 date.day

namespace Moment

def microsPerSecond : Nat := 1000000

def microsPerDay : Nat := 86400000000

def hour (moment : Moment) : Nat := moment.micros / 3600000000

def minute (moment : Moment) : Nat := moment.micros / 60000000 % 60

def second (moment : Moment) : Nat := moment.micros / microsPerSecond % 60

def toMicros (moment : Moment) : Int :=
  moment.date.toOrdinal * microsPerDay + moment.micros

def clock (moment : Moment) : String :=
  let base := padded 2 moment.hour ++ ":" ++ padded 2 moment.minute ++ ":" ++ padded 2 moment.second
  let fraction := moment.micros % microsPerSecond
  if fraction == 0 then base else base ++ "." ++ padded 6 fraction

def text (separator : String) (moment : Moment) : String :=
  moment.date.text ++ separator ++ moment.clock

end Moment

def digits? (chars : List Char) : Option Nat :=
  if chars.isEmpty || !chars.all Char.isDigit then none
  else some (chars.foldl (fun value c => value * 10 + (c.toNat - 48)) 0)

def readDate? : List Char → Option (Date × List Char)
  | a :: b :: c :: d :: '-' :: e :: f :: '-' :: g :: h :: rest => do
    let year ← digits? [a, b, c, d]
    let month ← digits? [e, f]
    let day ← digits? [g, h]
    if 1 ≤ year ∧ 1 ≤ month ∧ month ≤ 12 ∧ 1 ≤ day ∧ day ≤ daysInMonth year month then
      return (⟨year, month, day⟩, rest)
    else none
  | _ => none

def Date.ofText? (text : String) : Option Date :=
  match readDate? text.toList with
  | some (date, []) => some date
  | _ => none

/-- A number between bounds at the start of a text, with as many of its first two digits as fit, and
what follows. -/
def shortNumber? (low high : Nat) : List Char → Option (Nat × List Char)
  | a :: b :: rest =>
    match digits? [a, b], digits? [a] with
    | some both, _ =>
      if low ≤ both ∧ both ≤ high then some (both, rest)
      else (digits? [a]).bind fun one => if low ≤ one then some (one, b :: rest) else none
    | none, some one => if low ≤ one then some (one, b :: rest) else none
    | none, none => none
  | [a] => (digits? [a]).bind fun one => if low ≤ one then some (one, []) else none
  | [] => none

inductive DateFault where
  | noMatch
  | rest (chars : List Char)
  | noSuchYear
  | noSuchDay
deriving Repr, DecidableEq

def Date.parse (text : String) : Except DateFault Date :=
  match text.toList with
  | a :: b :: c :: d :: '-' :: behindYear =>
    match digits? [a, b, c, d], shortNumber? 1 12 behindYear with
    | some year, some (month, '-' :: behindMonth) =>
      let behindMonth := match behindMonth with
        | ' ' :: day :: rest => if day == '0' then behindMonth else day :: rest
        | _ => behindMonth
      match shortNumber? 1 31 behindMonth with
      | some (day, []) =>
        if year = 0 then .error .noSuchYear
        else if day ≤ daysInMonth year month then .ok ⟨year, month, day⟩
        else .error .noSuchDay
      | some (_, rest) => .error (.rest rest)
      | none => .error .noMatch
    | _, _ => .error .noMatch
  | _ => .error .noMatch

def clockMicros? : List Char → Option Nat
  | a :: b :: ':' :: c :: d :: ':' :: e :: f :: rest => do
    let hour ← digits? [a, b]
    let minute ← digits? [c, d]
    let second ← digits? [e, f]
    let fraction ← match rest with
      | [] => some 0
      | '.' :: places =>
        if 6 < places.length then none
        else (digits? places).map fun value => value * Nat.pow 10 (6 - places.length)
      | _ => none
    if hour < 24 ∧ minute < 60 ∧ second < 60 then
      return ((hour * 60 + minute) * 60 + second) * Moment.microsPerSecond + fraction
    else none
  | _ => none

def Moment.ofText? (text : String) : Option Moment := do
  let (date, rest) ← readDate? text.toList
  match rest with
  | _ :: clock => return ⟨date, ← clockMicros? clock⟩
  | [] => return ⟨date, 0⟩

end ErpLens.Calendar
