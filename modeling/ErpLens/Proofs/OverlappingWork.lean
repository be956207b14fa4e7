import ErpLens.Manufacturing.Overlap
import ErpLens.Proofs.Fields
import ErpLens.Proofs.Outcomes
import Mathlib

/-!
# When a workstation counts as full

The number of tracks is the number of logs that start before any log has ended. A workstation can
also be full later, and then it does not count as full.
-/

open List

namespace ErpLens.Manufacturing

section Times

variable {τ : Type} [LinearOrder τ] {logs : List (TimeLog τ)} {first : TimeLog τ}

def notAfter (a b : τ) : Bool :=
  decide (a ≤ b)

/-- The number of logs that are active at an instant. A log is no longer active when it stops. -/
def activeAt (logs : List (TimeLog τ)) (instant : τ) : Nat :=
  logs.countP fun log => decide (log.start ≤ instant ∧ instant < log.stop)

/-- The number of logs that start before an instant. -/
def startedBefore (logs : List (TimeLog τ)) (instant : τ) : Nat :=
  logs.countP fun log => decide (log.start < instant)

/-- A log that no other ends before. -/
structure StopsFirst (logs : List (TimeLog τ)) (first : TimeLog τ) : Prop where
  mem : first ∈ logs
  stop_le : ∀ log ∈ logs, first.stop ≤ log.stop

/-- Every log starts before it stops. -/
def Proper (logs : List (TimeLog τ)) : Prop :=
  ∀ log ∈ logs, log.start < log.stop

theorem exists_stopsFirst (nonempty : logs ≠ []) : ∃ first, StopsFirst logs first := by
  rcases Set.exists_min_image _ TimeLog.stop logs.finite_toSet
    (exists_mem_of_ne_nil logs nonempty) with ⟨first, mem, stop_le⟩
  exact ⟨first, mem, stop_le⟩

/-! ## Tracks -/

variable {log : TimeLog τ}

theorem followTrack_eq_none_iff {ends : List τ} :
    followTrack notAfter log ends = none ↔ ∀ stop ∈ ends, log.start < stop := by
  induction ends with
  | nil => simp [followTrack]
  | cons stop rest ih =>
    by_cases follows : stop ≤ log.start
    · simp [followTrack, notAfter, follows]
    · simp [followTrack, notAfter, follows, ih, not_le.mp follows]

theorem length_of_followTrack {ends after : List τ}
    (followed : followTrack notAfter log ends = some after) : after.length = ends.length := by
  induction ends generalizing after with
  | nil => simp [followTrack] at followed
  | cons stop rest ih =>
    rw [followTrack] at followed
    split at followed
    · obtain rfl := Option.some.inj followed
      rfl
    · rcases Option.map_eq_some_iff.mp followed with ⟨later, followedLater, rfl⟩
      simp [ih followedLater]

theorem length_ends_foldl_add {tracks : Tracks τ} (sequence : tracks.hasSequence = true)
    (logs : List (TimeLog τ)) :
    (logs.foldl (Tracks.add notAfter) tracks).ends.length = tracks.ends.length := by
  induction logs generalizing tracks with
  | nil => rfl
  | cons log rest ih =>
    rw [foldl_cons]
    cases followed : followTrack notAfter log tracks.ends with
    | none =>
      have unchanged : tracks.add notAfter log = tracks := by
        simp [Tracks.add, followed, sequence]
      rw [unchanged, ih sequence]
    | some ends =>
      have moved : tracks.add notAfter log = ⟨ends, true⟩ := by simp [Tracks.add, followed]
      rw [moved, ih rfl, length_of_followTrack followed]

/-- Every log starts before any has stopped. -/
def StartTogether (logs : List (TimeLog τ)) : Prop :=
  ∀ log ∈ logs, ∀ other ∈ logs, log.start < other.stop

theorem StartTogether.concat (together : StartTogether logs)
    (earlier : ∀ other ∈ logs, other.start ≤ log.start)
    (startsBefore : ∀ other ∈ logs, log.start < other.stop) (takesTime : log.start < log.stop) :
    StartTogether (logs ++ [log]) := by
  intro other otherMem another anotherMem
  rw [mem_append, mem_singleton] at otherMem anotherMem
  rcases otherMem with isBefore | rfl
  · rcases anotherMem with alsoBefore | rfl
    · exact together other isBefore another alsoBefore
    · exact (earlier other isBefore).trans_lt takesTime
  · rcases anotherMem with isBefore | rfl
    · exact startsBefore another isBefore
    · exact takesTime

/-- Logs in the order of their starts. -/
def InOrder (logs : List (TimeLog τ)) : Prop :=
  logs.Pairwise fun log later => log.start ≤ later.start

theorem startedBefore_eq_length {before : List (TimeLog τ)} {instant : τ}
    (started : ∀ log ∈ before, log.start < instant) (waiting : ∀ log ∈ logs, instant ≤ log.start) :
    startedBefore (before ++ logs) instant = before.length := by
  have all : before.countP (fun log => decide (log.start < instant)) = before.length := by
    simpa [countP_eq_length] using started
  have none : logs.countP (fun log => decide (log.start < instant)) = 0 := by
    simpa [countP_eq_zero] using waiting
  rw [startedBefore, countP_append, all, none, Nat.add_zero]

/-- The tracks that logs lead to after others which have started together: there are as many as logs
that start before any of them has stopped. -/
theorem length_ends_of_startTogether {before after : List (TimeLog τ)}
    (together : StartTogether before) (inOrder : InOrder (before ++ after))
    (proper : Proper (before ++ after)) (stopsFirst : StopsFirst (before ++ after) first) :
    (after.foldl (Tracks.add notAfter) ⟨before.map TimeLog.stop, false⟩).ends.length =
      startedBefore (before ++ after) first.stop := by
  induction after generalizing before with
  | nil =>
    have firstMem : first ∈ before := by simpa using stopsFirst.mem
    rw [startedBefore_eq_length (fun log logMem => together log logMem first firstMem) (by simp)]
    simp
  | cons log rest ih =>
    have ordered := pairwise_append.mp inOrder
    have earlier : ∀ other ∈ before, other.start ≤ log.start := fun other otherMem =>
      ordered.2.2 other otherMem log mem_cons_self
    have later : ∀ other ∈ log :: rest, log.start ≤ other.start := by
      simpa using fun other otherMem => (pairwise_cons.mp ordered.2.1).1 other otherMem
    rw [foldl_cons]
    cases followed : followTrack notAfter log (before.map TimeLog.stop) with
    | none =>
      -- The log starts before any other has stopped and gets a track of its own.
      have startsBefore : ∀ other ∈ before, log.start < other.stop := by
        simpa using followTrack_eq_none_iff.mp followed
      have added : Tracks.add notAfter ⟨before.map TimeLog.stop, false⟩ log =
          ⟨(before ++ [log]).map TimeLog.stop, false⟩ := by
        simp [Tracks.add, followed]
      have split : before ++ log :: rest = before ++ [log] ++ rest := by simp
      have together := together.concat earlier startsBefore (proper log (by simp))
      rw [split] at inOrder proper stopsFirst
      rw [added, split]
      exact ih together inOrder proper stopsFirst
    | some ends =>
      -- Some log has stopped when this one starts, so that it and all later ones do not count.
      have stopped : ∃ other ∈ before, other.stop ≤ log.start := by
        by_contra! startsBefore
        have unfollowed : followTrack notAfter log (before.map TimeLog.stop) = none :=
          followTrack_eq_none_iff.mpr (by simpa using startsBefore)
        simp [unfollowed] at followed
      rcases stopped with ⟨ended, endedMem, endedBefore⟩
      have firstBefore : first.stop ≤ log.start :=
        (stopsFirst.stop_le ended (by simp [endedMem])).trans endedBefore
      have firstMem : first ∈ before := by
        rcases mem_append.mp stopsFirst.mem with isBefore | isLater
        · exact isBefore
        · have takesTime := proper first stopsFirst.mem
          exact absurd (takesTime.trans_le (firstBefore.trans (later first isLater)))
            (lt_irrefl _)
      have moved : Tracks.add notAfter ⟨before.map TimeLog.stop, false⟩ log = ⟨ends, true⟩ := by
        simp [Tracks.add, followed]
      rw [moved, length_ends_foldl_add rfl, length_of_followTrack followed, length_map]
      refine (startedBefore_eq_length ?_ ?_).symm
      · exact fun other otherMem => together other otherMem first firstMem
      · exact fun other otherMem => firstBefore.trans (later other otherMem)

theorem length_tracksOf (inOrder : InOrder logs) (proper : Proper logs)
    (stopsFirst : StopsFirst logs first) :
    (tracksOf notAfter logs).ends.length = startedBefore logs first.stop := by
  cases logs with
  | nil => simpa using stopsFirst.mem
  | cons log rest =>
    have together : StartTogether [log] := by
      simpa [StartTogether] using proper log mem_cons_self
    exact @length_ends_of_startTogether _ _ first [log] rest together inOrder proper stopsFirst

/-! ## Full or not -/

theorem inOrder_mergeSort (logs : List (TimeLog τ)) :
    InOrder (logs.mergeSort fun a b => notAfter a.start b.start) := by
  have trans (a b c : TimeLog τ) (first : notAfter a.start b.start = true)
      (second : notAfter b.start c.start = true) : notAfter a.start c.start = true := by
    simp only [notAfter, decide_eq_true_eq] at first second ⊢
    exact first.trans second
  have total (a b : TimeLog τ) :
      (notAfter a.start b.start || notAfter b.start a.start) = true := by
    simpa [notAfter] using le_total a.start b.start
  apply (pairwise_mergeSort trans total logs).imp
  intro log later before
  simpa [notAfter] using before

theorem hasOverlap_nil {σ : Type} (atMost : σ → σ → Bool) (capacity : Int) :
    hasOverlap atMost capacity [] = false := by
  simp [hasOverlap, isFull]

theorem hasOverlap_one {σ : Type} (atMost : σ → σ → Bool) {logs : List (TimeLog σ)}
    (nonempty : logs ≠ []) : hasOverlap atMost 1 logs = true := by
  have sorted : (logs.mergeSort fun a b => atMost a.start b.start) ≠ [] := by
    rw [← length_pos_iff, length_mergeSort]
    exact length_pos_iff.mpr nonempty
  simp [hasOverlap, isFull, sorted]

/-- A workstation counts as full when as many logs as it has capacity start before any has stopped.
-/
theorem hasOverlap_iff_startedBefore (proper : Proper logs) (stopsFirst : StopsFirst logs first)
    (capacity : Int) :
    hasOverlap notAfter capacity logs = true ↔ capacity ≤ startedBefore logs first.stop := by
  let sorted := logs.mergeSort fun a b => notAfter a.start b.start
  have perm : sorted.Perm logs := mergeSort_perm logs _
  have sortedProper : Proper sorted := fun log logMem => proper log (perm.mem_iff.mp logMem)
  have sortedFirst : StopsFirst sorted first := by
    constructor
    · exact perm.mem_iff.mpr stopsFirst.mem
    · intro log logMem
      exact stopsFirst.stop_le log (perm.mem_iff.mp logMem)
  have tracks : (tracksOf notAfter sorted).ends.length = startedBefore logs first.stop := by
    rw [length_tracksOf (inOrder_mergeSort logs) sortedProper sortedFirst]
    exact perm.countP_eq _
  have nonempty : sorted.isEmpty = false := by
    simpa using ne_nil_of_mem sortedFirst.mem
  have counted : 1 ≤ startedBefore logs first.stop := by
    rw [startedBefore, Nat.one_le_iff_ne_zero, ← Nat.pos_iff_ne_zero, countP_pos_iff]
    exact ⟨first, stopsFirst.mem, by simpa using proper first stopsFirst.mem⟩
  have full : hasOverlap notAfter capacity logs =
      (capacity == 1 || decide (capacity ≤ startedBefore logs first.stop)) := by
    simp only [hasOverlap, isFull]
    rw [nonempty, if_neg Bool.false_ne_true, tracks]
  rw [full, Bool.or_eq_true, beq_iff_eq, decide_eq_true_eq]
  constructor
  · rintro (isOne | fits)
    · omega
    · exact fits
  · exact Or.inr

theorem activeAt_le_startedBefore {instant : τ} (before : instant < first.stop) :
    activeAt logs instant ≤ startedBefore logs first.stop := by
  apply countP_mono_left
  intro log _ active
  simp only [decide_eq_true_eq] at active ⊢
  exact active.1.trans_lt before

/-- At some instant all logs that start before the first stop are active. -/
theorem exists_activeAt_eq (proper : Proper logs) (stopsFirst : StopsFirst logs first) :
    ∃ instant, instant < first.stop ∧ activeAt logs instant = startedBefore logs first.stop := by
  have started : first ∈ {log | log ∈ logs ∧ log.start < first.stop} :=
    ⟨stopsFirst.mem, proper first stopsFirst.mem⟩
  have finite : {log | log ∈ logs ∧ log.start < first.stop}.Finite :=
    logs.finite_toSet.subset fun _ => And.left
  rcases Set.exists_max_image _ TimeLog.start finite ⟨first, started⟩ with
    ⟨latest, ⟨_, latestBefore⟩, isLatest⟩
  refine ⟨latest.start, latestBefore, ?_⟩
  apply countP_congr
  intro log logMem
  simp only [decide_eq_true_eq]
  constructor
  · intro active
    exact active.1.trans_lt latestBefore
  · intro startsBefore
    refine ⟨isLatest log ⟨logMem, startsBefore⟩, ?_⟩
    exact latestBefore.trans_le (stopsFirst.stop_le log logMem)

/-- At some instant as many logs are active as there is capacity. -/
def Full (capacity : Int) (logs : List (TimeLog τ)) : Prop :=
  ∃ instant, capacity ≤ activeAt logs instant

/-- At some instant before any log has stopped as many logs are active as there is capacity. -/
def FullAtFirst (capacity : Int) (logs : List (TimeLog τ)) : Prop :=
  ∃ first instant, StopsFirst logs first ∧ instant < first.stop ∧ capacity ≤ activeAt logs instant

theorem hasOverlap_iff_fullAtFirst (proper : Proper logs) (capacity : Int) :
    hasOverlap notAfter capacity logs = true ↔ FullAtFirst capacity logs := by
  constructor
  · intro full
    have nonempty : logs ≠ [] := by
      rintro rfl
      simp [hasOverlap, isFull] at full
    rcases exists_stopsFirst nonempty with ⟨first, stopsFirst⟩
    rcases exists_activeAt_eq proper stopsFirst with ⟨instant, before, active⟩
    refine ⟨first, instant, stopsFirst, before, ?_⟩
    rw [active]
    exact (hasOverlap_iff_startedBefore proper stopsFirst capacity).mp full
  · rintro ⟨first, instant, stopsFirst, before, fits⟩
    rw [hasOverlap_iff_startedBefore proper stopsFirst]
    have counted : activeAt logs instant ≤ startedBefore logs first.stop :=
      activeAt_le_startedBefore before
    omega

end Times

/-! ## Other kinds of times -/

section Map

variable {τ σ : Type} {change : τ → σ} {atMost : σ → σ → Bool}

def TimeLog.map (change : τ → σ) (log : TimeLog τ) : TimeLog σ :=
  ⟨change log.start, change log.stop⟩

def Tracks.map (change : τ → σ) (tracks : Tracks τ) : Tracks σ :=
  ⟨tracks.ends.map change, tracks.hasSequence⟩

theorem followTrack_map (log : TimeLog τ) (ends : List τ) :
    followTrack atMost (log.map change) (ends.map change) =
      (followTrack (fun a b => atMost (change a) (change b)) log ends).map (List.map change) := by
  induction ends with
  | nil => rfl
  | cons stop rest ih =>
    by_cases follows : atMost (change stop) (change log.start) = true
    · simp [followTrack, TimeLog.map, follows]
    · have later : followTrack atMost ⟨change log.start, change log.stop⟩ (rest.map change) = _ :=
        ih
      simp [followTrack, TimeLog.map, follows, later, Function.comp_def]

theorem Tracks.add_map (tracks : Tracks τ) (log : TimeLog τ) :
    (tracks.map change).add atMost (log.map change) =
      (tracks.add (fun a b => atMost (change a) (change b)) log).map change := by
  rcases tracks with ⟨ends, sequence⟩
  simp only [Tracks.add, Tracks.map, followTrack_map]
  cases followTrack (fun a b => atMost (change a) (change b)) log ends with
  | some after => rfl
  | none => cases sequence <;> simp [TimeLog.map]

theorem tracksOf_map (logs : List (TimeLog τ)) :
    tracksOf atMost (logs.map (TimeLog.map change)) =
      (tracksOf (fun a b => atMost (change a) (change b)) logs).map change := by
  cases logs with
  | nil => rfl
  | cons first rest =>
    have added (tracks : Tracks τ) :
        (rest.map (TimeLog.map change)).foldl (Tracks.add atMost) (tracks.map change) =
          (rest.foldl (Tracks.add fun a b => atMost (change a) (change b)) tracks).map
            change := by
      induction rest generalizing tracks with
      | nil => rfl
      | cons log others ih => rw [map_cons, foldl_cons, Tracks.add_map, ih]; rfl
    exact added ⟨[first.stop], false⟩

theorem hasOverlap_map (capacity : Int) (logs : List (TimeLog τ)) :
    hasOverlap atMost capacity (logs.map (TimeLog.map change)) =
      hasOverlap (fun a b => atMost (change a) (change b)) capacity logs := by
  have sorted : (logs.map (TimeLog.map change)).mergeSort (fun a b => atMost a.start b.start) =
      (logs.mergeSort fun a b => atMost (change a.start) (change b.start)).map
        (TimeLog.map change) := by
    symm
    apply map_mergeSort
    intro log _ other _
    rfl
  simp [hasOverlap, isFull, sorted, tracksOf_map, Tracks.map]

end Map

/-! ## Logs of documents -/

open Calendar

/-- A row of a document with the moments at which a log starts and stops. -/
structure IsLogRow (row : Value) (log : TimeLog Moment) : Prop where
  isDict : row.IsDict
  start : row.held "from_time" = some (.moment log.start)
  stop : row.held "to_time" = some (.moment log.stop)

def inMicros (logs : List (TimeLog Moment)) : List (TimeLog Int) :=
  logs.map (TimeLog.map Moment.toMicros)

theorem atMost_moment (a b : Moment) :
    Value.atMost (.moment a) (.moment b) = .ok (notAfter a.toMicros b.toMicros) := by
  have compared : Value.atMost (.moment a) (.moment b) =
      .ok (some (compare a.toMicros b.toMicros) == some .lt ||
        some (compare a.toMicros b.toMicros) == some .eq) := by
    simp only [Value.atMost, Value.order]
    rfl
  rw [compared, notAfter]
  rcases lt_trichotomy a.toMicros b.toMicros with less | same | greater
  · simp [compare_lt_iff_lt.mpr less, less.le]
  · simp [same]
  · simp [compare_gt_iff_gt.mpr greater, greater]

theorem lessThan_moment (a b : Moment) :
    ∃ answer, Value.lessThan (.moment a) (.moment b) = .ok answer := by
  simp only [Value.lessThan, Value.order]
  exact ⟨_, rfl⟩

theorem readLog_eq_ok {row : Value} {log : TimeLog Moment} (isLog : IsLogRow row log) :
    (do return (⟨← row.get "from_time", ← row.key "to_time"⟩ : TimeLog Value)) =
      (.ok (log.map .moment) : Outcome (TimeLog Value)) := by
  rw [isLog.isDict.get, isLog.start, isLog.isDict.key_eq_ok_iff.mpr isLog.stop]
  rfl

theorem logsOverlap_eq {rows : List Value} {logs : List (TimeLog Moment)}
    (areLogs : List.Forall₂ IsLogRow rows logs) (capacity : Int) :
    logsOverlap (.int capacity) (.list rows) =
      .ok (hasOverlap notAfter capacity (inMicros logs)) := by
  have read : rows.mapM (fun row => do
      return (⟨← row.get "from_time", ← row.key "to_time"⟩ : TimeLog Value)) =
      (.ok (logs.map (TimeLog.map .moment)) : Outcome (List (TimeLog Value))) := by
    induction areLogs with
    | nil => rfl
    | cons first _ ih =>
      rw [mapM_cons, readLog_eq_ok first, ok_bind, ih]
      rfl
  have compared : hasOverlap (fun a b => (Value.atMost a b).toOption.getD false) capacity
      (logs.map (TimeLog.map .moment)) = hasOverlap notAfter capacity (inMicros logs) := by
    rw [inMicros, hasOverlap_map, hasOverlap_map]
    simp only [atMost_moment]
    rfl
  cases areLogs with
  | nil =>
    rw [inMicros, map_nil, hasOverlap_nil]
    rfl
  | cons first others =>
    simp only [logsOverlap, Value.items, ok_bind, read, isEmpty_cons, Bool.false_eq_true, if_false]
    by_cases isOne : capacity = 1
    · subst isOne
      have one : (Value.int 1 == Value.int 1) = true := (Value.same_int 1 1).trans (by simp)
      rw [if_pos one, hasOverlap_one _ (by simp [inMicros])]
      rfl
    · have notOne : ¬ (Value.int capacity == Value.int 1) = true := by
        simpa [BEq.beq, Value.same_int] using isOne
      rw [if_neg notOne, forIn_eq_ok, ok_bind]
      · exact congrArg Except.ok compared
      · rintro ⟨log, i⟩ logMem
        rcases mem_map.mp (fst_mem_of_mem_zipIdx logMem) with ⟨log, _, rfl⟩
        rw [forIn_eq_ok, ok_bind]
        · rfl
        · intro other otherMem
          rcases mem_map.mp (mem_of_mem_drop otherMem) with ⟨other, _, rfl⟩
          rcases lessThan_moment other.start log.start with ⟨answer, answered⟩
          simp only [TimeLog.map, answered, atMost_moment]
          rfl

/-! ## Seen and unseen overlaps -/

/--
For all logs that take some time, and for every capacity, a workstation counts as full exactly if as
many logs are active as it has capacity at an instant before any of the logs has stopped. So it is
full if it counts as full, but it is not looked at after the first stop. Documents whose logs have
moments for their times always get an answer, and it is this one.
-/
theorem hasOverlap_looks_before_first_stop {τ : Type} [LinearOrder τ] (capacity : Int) :
    (∀ logs : List (TimeLog τ), Proper logs →
      (hasOverlap notAfter capacity logs = true ↔ FullAtFirst capacity logs) ∧
      (hasOverlap notAfter capacity logs = true → Full capacity logs)) ∧
    ∀ (rows : List Value) (logs : List (TimeLog Moment)), List.Forall₂ IsLogRow rows logs →
      Proper (inMicros logs) → ∃ answer,
        logsOverlap (.int capacity) (.list rows) = .ok answer ∧
        (answer = true ↔ FullAtFirst capacity (inMicros logs)) := by
  constructor
  · intro logs proper
    have counts := hasOverlap_iff_fullAtFirst proper capacity
    refine ⟨counts, fun full => ?_⟩
    rcases counts.mp full with ⟨_, instant, _, _, fits⟩
    exact ⟨instant, fits⟩
  · intro rows logs areLogs proper
    exact ⟨_, logsOverlap_eq areLogs capacity, hasOverlap_iff_fullAtFirst proper capacity⟩

def hours (start stop : Nat) : TimeLog Moment :=
  ⟨⟨⟨2024, 1, 1⟩, start * 3600000000⟩, ⟨⟨2024, 1, 1⟩, stop * 3600000000⟩⟩

def logRow (log : TimeLog Moment) : Value :=
  .ofRecord [("from_time", .moment log.start), ("to_time", .moment log.stop)]

theorem areLogs_logRow (logs : List (TimeLog Moment)) :
    List.Forall₂ IsLogRow (logs.map logRow) logs := by
  rw [forall₂_map_left_iff, forall₂_same]
  intro log _
  exact ⟨⟨_, _, rfl⟩, Value.findEntry_fields "from_time" _, Value.findEntry_fields "to_time" _⟩

/-- Logs of which the first two are active together, while the third follows one of them. -/
def earlyOverlap : List (TimeLog Moment) :=
  [hours 10 11, hours 9 12, hours 11 13]

theorem hasOverlap_looks_before_first_stop_of_earlyOverlap :
    List.Forall₂ IsLogRow (earlyOverlap.map logRow) earlyOverlap ∧
      Proper (inMicros earlyOverlap) ∧
      logsOverlap (.int 2) (.list (earlyOverlap.map logRow)) = .ok true := by
  have areLogs := areLogs_logRow earlyOverlap
  have proper : Proper (inMicros earlyOverlap) := by
    unfold Proper
    decide +kernel
  have full : FullAtFirst 2 (inMicros earlyOverlap) := by
    refine ⟨(hours 10 11).map Moment.toMicros, (hours 10 11).start.toMicros, ⟨?_, ?_⟩, ?_, ?_⟩
    all_goals decide +kernel
  rcases (hasOverlap_looks_before_first_stop (τ := Int) 2).2 _ _ areLogs proper with
    ⟨answer, answered, isFull⟩
  refine ⟨areLogs, proper, ?_⟩
  rw [answered, isFull.mpr full]

/-- Logs of which the second follows the first, and the third overlaps with the second. -/
def lateOverlap : List (TimeLog Moment) :=
  [hours 9 10, hours 10 12, hours 11 13]

theorem late_overlap_goes_unseen :
    Proper (inMicros lateOverlap) ∧ Full 2 (inMicros lateOverlap) ∧
      logsOverlap (.int 2) (.list (lateOverlap.map logRow)) = .ok false := by
  have proper : Proper (inMicros lateOverlap) := by
    unfold Proper
    decide +kernel
  have first : StopsFirst (inMicros lateOverlap) ((hours 9 10).map Moment.toMicros) := by
    constructor <;> decide +kernel
  have unseen : hasOverlap notAfter 2 (inMicros lateOverlap) = false := by
    rw [← Bool.not_eq_true, hasOverlap_iff_startedBefore proper first]
    decide +kernel
  refine ⟨proper, ⟨(hours 11 13).start.toMicros, by decide +kernel⟩, ?_⟩
  rw [logsOverlap_eq (areLogs_logRow lateOverlap), unseen]

end ErpLens.Manufacturing
